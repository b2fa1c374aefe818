import GuestBoundary.Event.Host
import GuestBoundary.Proofs.Blame
import GuestBoundary.Proofs.Host.Making

/-!
# The requests of a host with a session

The operations of a session lower references that the host owns, write into the guest's memory and
call the guest; two of them, making an event and handling one, end by taking a reference out of the
table for the host. So every request on a session is made of the steps of a host. Closing alone is
something else: each reference that comes out of the table is given back by a move of its own, and
whether that succeeds makes no difference to the next one.
-/

namespace GuestBoundary

open Relation

variable {kinds : Nat} {α : Type}

/-- A fault about values in memory is ordinary anywhere. -/
theorem FaultsOnly.ordinary {result : Except Fault α} (coded : FaultsOnly Fault.isCodec result)
    {looking : Prop} {store : Store kinds} (fault : Fault) (failed : result = .error fault) :
    fault.Ordinary looking store :=
  have codec := coded fault failed
  Fault.ordinary_of_isOwn (Fault.isOwn_of_isCodec codec) (Fault.isOfLookup_of_isCodec codec)

namespace Event

/-- Whether a request itself names an export that has to be there. -/
def SessionRequest.looksUp : SessionRequest → Bool
  | .table (.bind _) | .findExport .. => true
  | _ => false

@[inherit_doc SessionRequest.looksUp]
def Request.looksUp : Request → Bool
  | .session request => request.looksUp
  | _ => false

namespace Session

variable (session : Session) {owned : EventReference → Prop} {looking : Prop}
  {event : EventReference}

/-! ### Operations -/

theorem lower_made (known : owned event) (store : EventStore) :
    (Store.lower event).Made session.running owned looking store := by
  apply Work.Made.step
  rw [Work.Quiet, Store.ensures_lower]
  exact .single (.lower event (.inl known))

theorem ofExcept_made {result : Except Fault α} (coded : FaultsOnly Fault.isCodec result)
    (store : EventStore) :
    (Attempt.ofExcept result : Attempt EventStore α).Made session.running owned looking store :=
  .step (Work.quiet_ofExcept coded.ordinary)

theorem examine_made {view : Bytes → Except Fault α}
    (coded : ∀ memory, FaultsOnly Fault.isCodec (view memory)) (store : EventStore) :
    (session.guestMemory.examine view).Made session.running owned looking store :=
  .step (Work.quiet_examine (coded store.memory).ordinary)

theorem lowerBytes_made (data : List UInt8) (store : EventStore) :
    (session.guestMemory.lowerBytes data).Made session.running owned looking store := by
  refine .bind (session.ofExcept_made (guestLength_coded _) store) fun length measured _ => ?_
  refine .bind (session.running.call_made _ _ measured) fun address granted _ => ?_
  refine .bind (.bind (session.examine_made (fun memory => memory.overwrite_coded _ _ _) granted)
    fun memory examined _ => ?_) fun _ written _ => .pure _
  exact .step ((Work.ensures_modify _).mpr (.single (.inside memory examined.globals)))

theorem callSetter_made (known : owned event) (setter : FunctionId) (value : Word × Word)
    (store : EventStore) :
    (session.callSetter setter event value).Made session.running owned looking store :=
  .bind (session.lower_made known store) fun _ lowered _ =>
    .discard (session.running.call_made _ _ lowered)

theorem callGetter_made (known : owned event) (getter : FunctionId)
    {lift : Bytes → Word → Word → Except Fault α}
    (coded : ∀ memory address length, FaultsOnly Fault.isCodec (lift memory address length))
    (store : EventStore) :
    (session.callGetter getter event lift).Made session.running owned looking store := by
  refine .bind (session.lower_made known store) fun handle lowered _ => ?_
  refine .bind (session.running.call_made _ _ lowered) fun area called _ => ?_
  refine .bind (session.examine_made (fun memory => memory.load_coded _ _) called)
    fun address first _ => ?_
  refine .bind (session.examine_made (fun memory => memory.load_coded _ _) first)
    fun length second _ => ?_
  refine .bind (session.examine_made (coded · address length) second) fun value lifted _ => ?_
  exact .bind (.discard (session.running.call_made _ _ lifted)) fun _ _ _ => .pure value

/-! ### Requests -/

variable {licence : Licence} {host : Host 1}

/-- What comes out of the table in the end is held by the host from then on. -/
theorem unpark_quiet (handle : Word) {reply : Nat → SessionReply} :
    HostRun.Quiet licence (do
      let found ← Host.attempt (Store.unpark eventKind handle)
      return reply (← Host.hold found)) host := by
  simp only [Work.Quiet, Work.ensures_bind, Host.ensures_attempt, Store.ensures_unpark,
    Host.ensures_hold, Work.ensures_pure]
  split
  next identity table taken => exact .single ⟨.lift _ handle table taken, .inl rfl⟩
  next fault failed => exact ⟨.refl, Fault.ordinary_of_take failed⟩

theorem withEvent_made {work : EventReference → Attempt EventStore α}
    (made : ∀ event, 0 < host.holdings event →
      (work event).Made session.running (0 < host.holdings ·) licence.looking host.store)
    (number : Nat) (reply : α → SessionReply) :
    HostRun.Made session.running licence
      (do return reply (← Host.attempt (work (← Event.event number)))) host :=
  Host.reference_made fun _ found =>
    .bind (Host.attempt_made (made _ (Host.holdings_pos_of_found found))) fun _ _ _ => .pure _

theorem handle_made (known : 0 < host.holdings event) :
    HostRun.Made session.running licence (do
      match ← Host.attempt (session.handle event) with
      | .ok answer => return SessionReply.accepted (← Host.hold answer)
      | .error rejection => return SessionReply.rejected rejection) host := by
  unfold handle RawVariant.intoResult
  simp only [Host.attempt_bind, bind_assoc]
  refine .bind (Host.attempt_made (session.lower_made known _)) fun handle lowered _ => ?_
  refine .bind (Host.attempt_made (session.running.call_made _ _ _)) fun area called _ => ?_
  refine .bind (Host.attempt_made (session.examine_made (RawVariant.load_coded · _ _) _))
    fun raw loaded _ => ?_
  refine .bind (Host.attempt_made (session.ofExcept_made (raw.case_coded _ _) _))
    fun case decided _ => .step ?_
  split
  next =>
    simp only [Work.Quiet, Work.ensures_bind, Host.ensures_attempt, Store.ensures_unpark,
      Work.ensures_pure]
    split
    next identity table taken =>
      rw [Host.ensures_hold]
      exact .single ⟨.lift _ raw.payload table taken, .inl rfl⟩
    next fault failed => exact ⟨.refl, Fault.ordinary_of_take failed⟩
  next =>
    simp only [Work.Quiet, Work.ensures_bind, Host.ensures_attempt, Attempt.ensures_ofExcept,
      Work.ensures_pure]
    split
    next => exact .refl
    next fault failed => exact ⟨.refl, (errorOfCode_coded _ _).ordinary fault failed⟩

theorem serve_made (request : SessionRequest)
    (looking : request.looksUp = true → licence.looking) :
    (session.serve request).Made session.running licence host := by
  cases request with
  | table request =>
      refine .bind (Host.serveTable_made _ _ request ?_) fun _ _ _ => .pure _
      rintro name rfl
      exact looking rfl
  | create =>
      rw [serve, create, Host.attempt_bind, bind_assoc]
      exact .bind (Host.attempt_made (session.running.call_made _ _ _)) fun handle _ _ =>
        .step (unpark_quiet handle)
  | handle number =>
      exact Host.reference_made fun _ found =>
        session.handle_made (Host.holdings_pos_of_found found)
  | set number field value =>
      exact session.withEvent_made (fun _ known => .bind (session.lowerBytes_made _ _)
        fun _ lowered _ => session.callSetter_made known _ _ lowered) number fun _ => _
  | get number field =>
      exact session.withEvent_made (fun _ known => session.callGetter_made known _ liftText_coded _)
        number _
  | setData number data =>
      exact session.withEvent_made (fun _ known => .bind (session.lowerBytes_made _ _)
        fun _ lowered _ => session.callSetter_made known _ _ lowered) number fun _ => _
  | getData number =>
      exact session.withEvent_made (fun _ known => session.callGetter_made known _
        (fun memory _ _ => memory.slice_coded _ _) _) number _
  | outstanding => exact .get (.pure _)
  | call name arguments => exact .bind (Host.callExport_made _ name arguments) fun _ _ _ => .pure _
  | findExport name signature =>
      exact .bind (Host.findExport_made _ (looking rfl) name signature) fun _ _ _ => .pure _

theorem serve_confined (request : SessionRequest) (aliasing : Prop) (host : Host 1) :
    (session.serve request).Confined (Host.Move aliasing) (Refusal.Traced (request.looksUp = true))
      host host := by
  let licence : Licence := { aliasing, leaking := False, looking := request.looksUp }
  have made : (session.serve request).Made session.running licence host :=
    session.serve_made request id
  exact made.confined.imp (fun _ _ step => step.move) fun _ _ => id

end Session

end Event

/-! ### Closing -/

namespace Host

/-- A move of a host in which only its store changes. -/
abbrev StoreMove (aliasing : Prop) (host : Host kinds) (store next : Store kinds) : Prop :=
  (host.withStore store).Move aliasing (host.withStore next)

variable {aliasing looking : Prop} (host : Host kinds)

/-- Giving back references that wait to be given back, one after the other. -/
theorem releaseAll_confined {enter : Entry kinds}
    (confined : enter.Confined (0 < host.holdings ·) looking)
    (references waiting : List (Reference kinds)) (store : Store kinds)
    (inFlight : store.inFlight = references ++ waiting) :
    (Store.releaseAll enter references).Confined (host.StoreMove aliasing) (Fault.Traced looking)
      store store := by
  induction references generalizing store with
  | nil => exact .pure ()
  | cons reference references inductionHypothesis =>
      obtain ⟨entered, released⟩ :=
        Store.release_confined confined reference (store.land reference)
      have given : (host.withStore store).Move aliasing
          (host.withStore ((store.land reference).giveBack entered reference)) :=
        .land reference (by simp [inFlight]) entered
      rw [Store.releaseAll]
      apply Work.Confined.after
      rw [Work.ensures_modify]
      refine .settle ((released.imp (fun _ _ => Move.withStore) fun _ _ => id).of_moves
        (.single given)) fun first middle done => ?_
      -- A destructor moves nothing that waits, so the rest of the list is still what waits.
      have rest : middle.inFlight = references ++ waiting := by
        have evolves := released.final
        rw [done] at evolves
        rw [Store.Evolves.inFlight_eq evolves, Store.inFlight_giveBack]
        simp [Store.land, inFlight]
      refine .settle ((inductionHypothesis middle rest).imp (fun _ _ => id) fun _ _ => .inl)
        fun later last _ => .of_quiet (Work.quiet_ofExcept fun fault failed => ?_)
      cases first with
      | ok _ => exact .inr failed
      | error earlier => exact .inl (.inr failed)

end Host

namespace Event.Session

variable (session : Session) {aliasing looking : Prop} (host : Host 1)

/-- Closing takes all references out of the table and gives each one back. -/
theorem close_confined (store : EventStore) :
    session.close.Confined (host.StoreMove aliasing) (Fault.Traced looking) store store := by
  apply Work.Confined.after
  rw [Store.ensures_unparkAll]
  apply Work.Confined.after
  rw [Work.ensures_modify]
  have launched : (host.withStore store).Move aliasing
      (host.withStore ((store.withTable eventKind ∅).launch (store.parked eventKind))) :=
    .launch eventKind
  exact (Host.releaseAll_confined host session.running.enter_confined (store.parked eventKind)
    store.inFlight _ rfl).of_moves (.single launched)

theorem dispose_confined (store : EventStore) :
    dispose.Confined (host.StoreMove aliasing) (Fault.Traced looking) store store := by
  apply Work.Confined.get
  split
  next leak found =>
      obtain ⟨_, -, rfl⟩ := Option.map_eq_some_iff.mp found
      exact .throw (Fault.ordinary_of_isOwn rfl rfl).traced
  next => exact .pure ()

theorem closeAndDispose_confined (store : EventStore) :
    session.closeAndDispose.Confined (host.StoreMove aliasing) (Fault.Traced looking)
      store store := by
  refine .settle (session.close_confined host store) fun closed middle _ => ?_
  refine .bind ((dispose_confined host middle).imp (fun _ _ => id) fun _ _ => .inl)
    fun _ disposed _ => ?_
  exact .of_quiet (Work.quiet_ofExcept fun _ => .inr)

end Event.Session

end GuestBoundary
