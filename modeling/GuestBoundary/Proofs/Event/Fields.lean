import GuestBoundary.Event.Host
import GuestBoundary.Proofs.Event.RecordGuest
import GuestBoundary.Proofs.Host.Holdings

/-!
# Fields behave like a store

A host sets and reads fields of events through the references that it holds, many of which may be
references to one event. If the guest keeps records, each read is answered with the value that was
set last, through whichever reference.
-/

namespace GuestBoundary.Event

/-- Setting or reading a field of an event, through the reference under a number. -/
inductive FieldAccess where
  | set (number : Nat) (field : Field) (value : field.Value)
  | get (number : Nat) (field : Field)

/-- What a host answers with the value of a field. -/
def Field.reply : (field : Field) → field.Value → SessionReply
  | .text _, value => .text value
  | .data, value => .data value

namespace FieldAccess

def number : FieldAccess → Nat
  | set number _ _ | get number _ => number

/-- The length of what is set is one that the guest can read. -/
def Small : FieldAccess → Prop
  | set _ field value => field.size value ≤ Word.maxLength
  | get _ _ => True

instance (access : FieldAccess) : Decidable access.Small :=
  match access with
  | set _ _ _ => inferInstanceAs (Decidable (_ ≤ _))
  | get _ _ => inferInstanceAs (Decidable True)

def request : FieldAccess → Request
  | set number (.text name) value => .session (.set number name value)
  | set number .data data => .session (.setData number data)
  | get number (.text name) => .session (.get number name)
  | get number .data => .session (.getData number)

/-- What is answered if the fields have the values of the shelf. -/
def reply (identity : Nat) (shelf : Shelf) : FieldAccess → SessionReply
  | set _ _ _ => .common .done
  | get _ field => field.reply (shelf identity field)

/-- The values of the fields afterwards. -/
def update (identity : Nat) (shelf : Shelf) : FieldAccess → Shelf
  | set _ field value => shelf.put identity field value
  | get _ _ => shelf

/-- How many bytes of new room the guest has to find. -/
def need (identity : Nat) (shelf : Shelf) : FieldAccess → Nat
  | set _ field value => field.size value
  | get _ field => field.size (shelf identity field)

end FieldAccess

namespace Shelf

/-- What is answered one after the other, where `owner` is the event that a number stands for. -/
def replies (owner : Nat → Nat) (shelf : Shelf) : List FieldAccess → List SessionReply
  | [] => []
  | access :: accesses =>
      access.reply (owner access.number) shelf ::
        replies owner (access.update (owner access.number) shelf) accesses

def needs (owner : Nat → Nat) (shelf : Shelf) : List FieldAccess → List Nat
  | [] => []
  | access :: accesses =>
      access.need (owner access.number) shelf ::
        needs owner (access.update (owner access.number) shelf) accesses

end Shelf

variable {session : Session} {keeping : RecordKeeping session} {host : Host 1}

theorem on_event {number identity : Nat}
    (held : (host.numbers eventKind)[number]? = some (some identity)) :
    (event number).on host = (.ok { kind := eventKind, identity }, host) := by
  simp [event, Host.reference, held]

/-- A request that works on an event and then only answers. -/
theorem on_serve_event {α : Type} {work : EventReference → Attempt EventStore α}
    (answer : α → SessionReply) {number identity : Nat}
    (held : (host.numbers eventKind)[number]? = some (some identity)) {value : α}
    {after : EventStore}
    (done : (work { kind := eventKind, identity }).on host.store = (.ok value, after)) :
    (do return answer (← Host.attempt (work (← event number))) : HostRun 1 SessionReply).on host =
      (.ok (answer value), host.withStore after) := by
  rw [Work.on_bind, on_event held]
  dsimp only
  rw [Work.on_bind, Host.on_attempt, done]
  rfl

theorem value_serve_session {request : SessionRequest} {reply : SessionReply} {after : Host 1}
    (served : (session.serve request).on host = (.ok reply, after)) :
    (SessionHost.serve { host, session := some session } (.session request)).value =
      (.ok reply, { host := after, session := some session }) := by
  change (((session.serve request).on host).1, SessionHost.mk ((session.serve request).on host).2
    (some session)) = _
  rw [served]

theorem SessionHost.value_serveAll_cons {state next final : SessionHost} {request : Request}
    {requests : List Request} {outcome : Except Refusal SessionReply}
    {outcomes : List (Except Refusal SessionReply)}
    (first : (state.serve request).value = (outcome, next))
    (rest : (next.serveAll requests).value = (outcomes, final)) :
    (state.serveAll (request :: requests)).value = (outcome :: outcomes, final) := by
  rw [serveAll, Watched.value_bind, first, Watched.value_bind, Watched.value_bind, rest]
  rfl

namespace FieldAccess

variable {identity : Nat} {after : EventStore}

theorem value_serve_set {number : Nat} {field : Field} {value : field.Value}
    (held : (host.numbers eventKind)[number]? = some (some identity))
    (done : (session.setField { kind := eventKind, identity } field value).on host.store =
      (.ok (), after)) :
    (SessionHost.serve { host, session := some session } (set number field value).request).value =
      (.ok (.common .done), { host := host.withStore after, session := some session }) := by
  cases field with
  | text name =>
      rw [Session.setField_text] at done
      exact value_serve_session (on_serve_event (fun _ => .common .done) held done)
  | data =>
      rw [Session.setField_data] at done
      exact value_serve_session (on_serve_event (fun _ => .common .done) held done)

theorem value_serve_get {number : Nat} {field : Field} {value : field.Value}
    (held : (host.numbers eventKind)[number]? = some (some identity))
    (done : (session.getField { kind := eventKind, identity } field).on host.store =
      (.ok value, after)) :
    (SessionHost.serve { host, session := some session } (get number field).request).value =
      (.ok (field.reply value), { host := host.withStore after, session := some session }) := by
  cases field with
  | text name =>
      rw [Session.getField_text] at done
      exact value_serve_session (on_serve_event .text held done)
  | data =>
      rw [Session.getField_data] at done
      exact value_serve_session (on_serve_event .data held done)

/-- One access is answered from the shelf, and the guest has the new shelf on record. -/
theorem value_serve (host : Host 1) (access : FieldAccess) {plan : List Nat} {shelf : Shelf}
    {ledger : Ledger}
    (holds : keeping.Holds (access.need identity shelf :: plan) shelf ledger host.store)
    (held : (host.numbers eventKind)[access.number]? = some (some identity))
    (small : access.Small) (lendable : host.store.Lendable { kind := eventKind, identity }) :
    ∃ (laterLedger : Ledger) (after : EventStore),
      (SessionHost.serve { host, session := some session } access.request).value =
          (.ok (access.reply identity shelf),
            { host := host.withStore after, session := some session }) ∧
        keeping.Holds plan (access.update identity shelf) laterLedger after ∧
          host.store.Settled after := by
  cases access with
  | set number field value =>
      obtain ⟨laterLedger, after, done, later, settled⟩ := holds.set small lendable
      exact ⟨laterLedger, after, value_serve_set held done, later, settled⟩
  | get number field =>
      obtain ⟨laterLedger, after, done, later, settled⟩ := holds.get lendable
      exact ⟨laterLedger, after, value_serve_get held done, later, settled⟩

end FieldAccess

/-- What a host needs to carry out accesses: it holds the references, their events are alive, and
what it sets is small enough. -/
structure SessionHost.Ready (host : Host 1) (owner : Nat → Nat) (access : FieldAccess) : Prop where
  held : (host.numbers eventKind)[access.number]? = some (some (owner access.number))
  lendable : host.store.Lendable { kind := eventKind, identity := owner access.number }
  small : access.Small

theorem serveAll_holds (owner : Nat → Nat) (accesses : List FieldAccess) {shelf : Shelf}
    {ledger : Ledger} {store : EventStore}
    (ready : ∀ access ∈ accesses, SessionHost.Ready host owner access)
    (settled : host.store.Settled store)
    (holds : keeping.Holds (shelf.needs owner accesses) shelf ledger store) :
    ∃ final, (SessionHost.serveAll { host := host.withStore store, session := some session }
          (accesses.map FieldAccess.request)).value =
        ((shelf.replies owner accesses).map .ok,
          { host := host.withStore final, session := some session }) ∧
      host.store.Settled final := by
  induction accesses generalizing shelf ledger store with
  | nil => exact ⟨store, rfl, settled⟩
  | cons access accesses inductionHypothesis =>
      obtain ⟨held, lendable, small⟩ := ready access List.mem_cons_self
      obtain ⟨laterLedger, middle, served, later, quiet⟩ :=
        FieldAccess.value_serve (host.withStore store) access holds held small
          (lendable.settled settled)
      obtain ⟨final, rest, settledFinal⟩ := inductionHypothesis
        (fun other mem => ready other (List.mem_cons_of_mem access mem)) (settled.trans quiet) later
      exact ⟨final, SessionHost.value_serveAll_cons served rest, settledFinal⟩

/-- Whatever fields are set and read through the references that a host holds, each request
succeeds, each read is answered with the value set last or with nothing where none was set, and
every reference count and every handle is in the end as it was. -/
theorem SessionHost.serveAll_reads_latest (session : Session) (keeping : RecordKeeping session)
    (host : Host 1) (owner : Nat → Nat) (accesses : List FieldAccess) (rooms : List Range)
    (ready : ∀ access ∈ accesses, Ready host owner access)
    (keeps : keeping.Keeps (Shelf.empty.needs owner accesses) { rooms } host.store) :
    ∃ final, (serveAll { host, session := some session }
          (accesses.map FieldAccess.request)).value =
        ((Shelf.empty.replies owner accesses).map .ok,
          { host := host.withStore final, session := some session }) ∧
      host.store.Settled final :=
  serveAll_holds owner accesses ready (.refl host.store)
    ⟨keeps, fun _ field => .unset field.size_empty⟩

/-- Both references to the first event reach the same fields, and those of the second are others. -/
theorem SessionHost.serveAll_reads_latest_of_twoEvents :
    let engine : Engine 1 := ({} : Configuration).engine
    let accesses : List FieldAccess :=
      [.set 0 (.text .id) "né€", .set 2 .data [0, 255], .set 1 (.text .id) "b",
        .get 2 (.text .id), .get 0 .data, .set 2 (.text .id) "", .get 0 (.text .id),
        .get 1 (.text .id), .get 1 (.text .subject)]
    let replies : List SessionReply :=
      [.common .done, .common .done, .common .done, .text "né€", .data [0, 255], .common .done,
        .text "", .text "b", .text ""]
    ∃ final, (serveAll
          { host := RecordGuest.twoEvents, session := some (RecordGuest.session engine) }
          (accesses.map FieldAccess.request)).value =
        (replies.map .ok,
          { host := RecordGuest.twoEvents.withStore final
            session := some (RecordGuest.session engine) }) ∧
      RecordGuest.twoEvents.store.Settled final := by
  intro engine accesses replies
  let owner (number : Nat) : Nat := if number = 1 then 1 else 0
  have held : ∀ number < 3,
      (RecordGuest.twoEvents.numbers eventKind)[number]? = some (some (owner number)) := by decide
  have lendable : ∀ identity < 2,
      RecordGuest.twoEvents.store.Lendable { kind := eventKind, identity }
    | 0, _ => ⟨by decide, by decide, by decide⟩
    | 1, _ => ⟨by decide, by decide, by decide⟩
  have bounded : ∀ access ∈ accesses,
      access.number < 3 ∧ owner access.number < 2 ∧ access.Small := by decide +kernel
  have ready : ∀ access ∈ accesses, Ready RecordGuest.twoEvents owner access := by
    intro access mem
    obtain ⟨number, identity, small⟩ := bounded access mem
    exact ⟨held _ number, lendable _ identity, small⟩
  have answered : Shelf.empty.replies owner accesses = replies := by decide +kernel
  have keeps : RecordGuest.Orderly (Shelf.empty.needs owner accesses) {}
      RecordGuest.twoEvents.store := RecordGuest.orderly_twoEvents (by decide +kernel)
  rw [← answered]
  exact serveAll_reads_latest _ (RecordGuest.keeping engine (by decide)) _ owner accesses [] ready
    keeps

end GuestBoundary.Event
