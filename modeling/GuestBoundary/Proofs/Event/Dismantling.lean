import GuestBoundary.Proofs.Event.Closing
import GuestBoundary.Proofs.Guest.Plain

/-!
# Closing a session and dropping its handles one by one

What the guest still holds can also be given back handle by handle, from the lowest one up. Either
way each resource is destroyed once. But a destructor may drop other handles of its own. Dropped one
by one these are still there, while closing has emptied the table before the first destructor runs;
so closing fails where dropping the handles one by one succeeds. It cannot fail if the destructors
leave handles alone.
-/

namespace GuestBoundary.Event

open Relation

namespace Session

variable (session : Session)

/-- Gives back what stands under a handle, if anything does. -/
def dropHandle (handle : Word) : Attempt EventStore Unit := do
  match ((← MonadState.get).registry eventKind).table.get? handle.toNat with
  | some _ => session.release (← Store.unpark eventKind handle)
  | none => return ()

/-- Gives back what stands under the handles, one after the other. -/
def dismantle : List Word → Attempt EventStore Unit
  | [] => return ()
  | handle :: handles => do
      session.dropHandle handle
      dismantle handles

/-- The handles in use, in ascending order. -/
def handlesOf (store : EventStore) : List Word :=
  (store.entries eventKind).map fun entry => UInt32.ofNat entry.1

variable {store : EventStore} {handle : Word}

theorem on_dropHandle_of_free
    (free : (store.registry eventKind).table.get? handle.toNat = none) :
    (session.dropHandle handle).on store = (.ok (), store) := by
  rw [dropHandle, Work.on_get_bind, free]
  rfl

theorem on_dropHandle_of_take {identity : Nat} {table : Slab Nat}
    (taken : (store.registry eventKind).table.take handle = .ok (identity, table)) :
    (session.dropHandle handle).on store =
      (Store.release session.running.enter { kind := eventKind, identity }).on
        (store.withTable eventKind table) := by
  rw [dropHandle, Work.on_get_bind, (Slab.get?_of_take taken).1]
  dsimp only
  rw [Work.on_bind, Store.on_unpark_of_take taken]
  rfl

/-- Dropping a handle is what the guest does with it too. -/
theorem dropHandle_evolves (owned : EventReference → Prop) (handle : Word) (store : EventStore) :
    store.Evolves owned ((session.dropHandle handle).on store).2 := by
  cases held : (store.registry eventKind).table.get? handle.toNat with
  | none => rw [session.on_dropHandle_of_free held]
  | some identity =>
      obtain ⟨table, taken⟩ := Slab.exists_take_of_get? held
      rw [session.on_dropHandle_of_take taken]
      have dropped : store.Move owned ((store.withTable eventKind table).giveBack true
          { kind := eventKind, identity }) := .drop eventKind handle identity table taken true
      exact .head dropped (session.running.release_evolves _ _)

theorem dismantle_evolves (owned : EventReference → Prop) (handles : List Word)
    (store : EventStore) : store.Evolves owned ((session.dismantle handles).on store).2 := by
  induction handles generalizing store with
  | nil => exact .refl
  | cons handle handles inductionHypothesis =>
      have first := session.dropHandle_evolves owned handle store
      rw [dismantle, Work.on_bind]
      generalize (session.dropHandle handle).on store = outcome at first ⊢
      rcases outcome with ⟨fault | _, after⟩
      · exact first
      · exact first.trans (inductionHypothesis after)

/-- Plain destructors end in the same way in both orders, so if all handles can be dropped one by
one then all references that wait can be given back, and no handle comes back. -/
theorem releases_of_dismantle {entries : List (Nat × EventReference)}
    {dropping closing after : EventStore} (twin : dropping.Twin closing)
    (ascending : entries.Pairwise fun lower higher => lower.1 < higher.1)
    (held : ∀ entry ∈ entries, entry.1 < UInt32.size ∧
      (dropping.registry eventKind).table.get? entry.1 = some entry.2.identity)
    (plain : ∀ entry ∈ entries, dropping.PlainlyDestroyed session.running entry.2)
    (dismantled : (session.dismantle (entries.map fun entry => UInt32.ofNat entry.1)).on dropping =
      (.ok (), after)) :
    (Store.releases session.running.enter (entries.map Prod.snd) closing).findSome?
        Release.fault? = none ∧
      ((closing.afterAll (Store.releases session.running.enter (entries.map Prod.snd)
        closing)).registry eventKind).table = (closing.registry eventKind).table := by
  induction entries generalizing dropping closing with
  | nil => exact ⟨rfl, rfl⟩
  | cons entry entries inductionHypothesis =>
      obtain ⟨handle, kind, identity⟩ := entry
      obtain rfl : kind = eventKind := Subsingleton.elim _ _
      obtain ⟨higher, ascending⟩ := List.pairwise_cons.mp ascending
      obtain ⟨⟨small, here⟩, held⟩ := List.forall_mem_cons.mp held
      obtain ⟨plainHere, plain⟩ := List.forall_mem_cons.mp plain
      have exact : (UInt32.ofNat handle).toNat = handle := UInt32.toNat_ofNat_of_lt' small
      have stands : (dropping.registry eventKind).table.get? (UInt32.ofNat handle).toNat =
          some identity := by
        rw [exact]
        exact here
      obtain ⟨table, taken⟩ := Slab.exists_take_of_get? stands
      have twinHere := twin.withTable_land eventKind table { kind := eventKind, identity }
      have plainTaken : (dropping.withTable eventKind table).PlainlyDestroyed session.running
          { kind := eventKind, identity } := plainHere.of_same (by rw [Store.resource_withTable])
      obtain ⟨outcome, memory, globals, dropped, landed⟩ :=
        twinHere.release session.running plainTaken
      rw [List.map_cons, dismantle, Work.on_bind, session.on_dropHandle_of_take taken,
        dropped] at dismantled
      cases outcome with
      | error fault => exact nomatch dismantled
      | ok value =>
          have held : ∀ entry ∈ entries, entry.1 < UInt32.size ∧
              (((dropping.withTable eventKind table).giveBack true
                { kind := eventKind, identity }).registry eventKind).table.get? entry.1 =
                  some entry.2.identity := by
            intro entry among
            have different : handle ≠ entry.1 := Nat.ne_of_lt (higher entry among)
            rw [Store.table_giveBack, Store.table_withTable, (Slab.get?_of_take taken).2, exact,
              if_neg different]
            exact held entry among
          have plain : ∀ entry ∈ entries, ((dropping.withTable eventKind table).giveBack true
              { kind := eventKind, identity }).PlainlyDestroyed session.running entry.2 := by
            intro entry among
            apply (plain entry among).of_same
            rw [Store.original_giveBack, Store.resource_withTable]
          have rest := inductionHypothesis (twinHere.giveBack _ memory globals) ascending held plain
            dismantled
          rw [List.map_cons, Store.releases, landed]
          exact ⟨rest.1, rest.2.trans (Store.table_giveBack _ _ _ _)⟩

theorem closed_evolves (host : Host 1) {aliasing : Prop} :
    host.Evolves aliasing (host.withStore (session.closed host.store)) := by
  have confined : session.close.Confined (host.StoreMove aliasing) (Fault.Traced False)
      host.store host.store := session.close_confined host host.store
  have ending := confined.final.lift host.withStore fun _ _ => id
  rw [on_close] at ending
  exact ending

/-- If the destructors leave handles alone, closing succeeds where dropping the handles one by one
does, and leaves no handle behind. -/
theorem close_of_dismantle {store after : EventStore}
    (small : ∀ handle, (store.registry eventKind).table.get? handle ≠ none → handle < UInt32.size)
    (plain : ∀ reference, 0 < store.slots reference →
      store.PlainlyDestroyed session.running reference)
    (dismantled : (session.dismantle (handlesOf store)).on store = (.ok (), after)) :
    session.close.on store = (.ok (), session.closed store) ∧
      session.closeAndDispose.on store = (.ok (), session.closed store) := by
  have held : ∀ entry ∈ store.entries eventKind, entry.1 < UInt32.size ∧
      (store.registry eventKind).table.get? entry.1 = some entry.2.identity := by
    intro entry among
    obtain ⟨-, here⟩ := (store.mem_entries_iff eventKind entry).mp among
    exact ⟨small entry.1 (by rw [here]; exact Option.some_ne_none _), here⟩
  have twin : store.Twin (emptied store) :=
    { memory := rfl
      globals := rfl
      memoryLimit := rfl
      resources := resource_emptied store
      names := fun kind => store.name_withTable eventKind kind ∅ }
  obtain ⟨quiet, unchanged⟩ := session.releases_of_dismantle twin (store.pairwise_entries eventKind)
    held (fun entry among => plain entry.2 (Store.slots_pos_of_mem_entries among)) dismantled
  rw [Store.map_snd_entries] at quiet unchanged
  have closing : session.close.on store = (.ok (), session.closed store) := by
    rw [on_close, releases, quiet]
  have leakless : (session.closed store).leak? eventKind = none := by
    have empty : ((session.closed store).registry eventKind).table = ∅ :=
      unchanged.trans (table_emptied store)
    rw [Store.leak?, Store.parked, empty]
    rfl
  rw [on_closeAndDispose, leakless]
  exact ⟨closing, closing⟩

/-! ### How often resources are destroyed -/

variable {host : Host 1} {reference : EventReference}

theorem destructions_of_dismantle (sound : host.Sound)
    (returned : ∀ reference, host.outside reference = 0) {after : EventStore}
    (dismantled : (session.dismantle (handlesOf host.store)).on host.store = (.ok (), after))
    (empty : ∀ handle, (after.registry eventKind).table.get? handle = none)
    (wrapped : host.store.Wraps reference) :
    (after.log.toList.filter (·.destroys reference)).length = 1 := by
  have evolves := session.dismantle_evolves (fun _ => False) (handlesOf host.store) host.store
  rw [dismantled] at evolves
  have later : after.Sound host.outside :=
    Store.Sound.invariant.evolves sound (fun _ => False.elim) evolves
  obtain ⟨wraps, -⟩ :=
    sound.chronicled.of_log_grows later.chronicled evolves.log_grows wrapped
  have free : after.slots reference = 0 := by
    rw [Store.slots, Subsingleton.elim reference.kind eventKind,
      (Slab.values_eq_nil_iff _).mpr empty]
    rfl
  have gone : (after.resource reference).destroyed = true := by
    rw [later.balanced.destroyed_iff, later.balanced.counted, returned, free]
  rw [later.chronicled.length_destructions wraps, if_pos gone]

theorem destructions_of_closed (sound : host.Sound)
    (returned : ∀ reference, host.outside reference = 0)
    (wrapped : host.store.Wraps reference) :
    ((session.closed host.store).log.toList.filter (·.destroys reference)).length = 1 := by
  have evolves : host.Evolves False _ := session.closed_evolves host
  have later := evolves.sound sound
  obtain ⟨wraps, -, stays⟩ :=
    sound.chronicled.of_log_grows later.chronicled evolves.log_grows wrapped
  have held : (host.store.resource reference).references = host.store.slots reference := by
    rw [sound.balanced.counted, returned, Nat.zero_add]
  have gone : ((session.closed host.store).resource reference).destroyed = true := by
    by_cases parked : 0 < host.store.slots reference
    · have closing := session.closing_of_balanced sound.balanced
      exact (closing.destroyed_iff reference parked).mpr held
    · apply stays
      rw [sound.balanced.destroyed_iff, held]
      exact Nat.eq_zero_of_not_pos parked
  exact (later.chronicled.length_destructions wraps).trans (if_pos gone)

end Session

namespace SessionHost

/-- Closing a session whose host holds nothing destroys each resource once, and so does dropping the
handles one by one if that succeeds and uses them all up. With destructors that leave handles alone
closing then succeeds as well. -/
theorem dismantling_of_run {engine : Engine 1} {configuration : Configuration}
    {program : Program 1} {requests : List Request}
    (counted : ∀ number, .holding (.alias number) ∉ requests)
    {outcomes : List (Except Refusal SessionReply)} {state : SessionHost}
    (ran : (run engine configuration program requests).value = .ok (outcomes, state))
    (session : Session) (returned : ∀ reference, state.host.outside reference = 0)
    {after : EventStore}
    (dismantled : (session.dismantle (Session.handlesOf state.host.store)).on state.host.store =
      (.ok (), after))
    (empty : ∀ handle, (after.registry eventKind).table.get? handle = none) :
    (∀ reference, state.host.store.Wraps reference →
      (after.log.toList.filter (·.destroys reference)).length = 1 ∧
        ((session.closed state.host.store).log.toList.filter (·.destroys reference)).length = 1) ∧
      ((∀ handle, (state.host.store.registry eventKind).table.get? handle ≠ none →
          handle < UInt32.size) →
        (∀ reference, 0 < state.host.store.slots reference →
          state.host.store.PlainlyDestroyed session.running reference) →
            session.close.on state.host.store = (.ok (), session.closed state.host.store) ∧
              session.closeAndDispose.on state.host.store =
                (.ok (), session.closed state.host.store)) := by
  have sound : state.host.Sound := sound_of_seen_run counted (seen_of_run ran)
  constructor
  · intro reference wrapped
    exact ⟨session.destructions_of_dismantle sound returned dismantled empty wrapped,
      session.destructions_of_closed sound returned wrapped⟩
  · intro small plain
    exact session.close_of_dismantle small plain dismantled

/-- A guest that gets two events, and a way to destroy events. -/
def twoEvents (destroy : List Word → Code 1 Word) : Program 1 :=
  { countdown with
    functions := (countdown.functions.setIfInBounds 4
      { signature := .wordsToUnit 1, body := destroy }).push
      { signature := .words 0
        body := fun _ => do
          discard (Code.ask .new eventKind 1)
          Code.ask .new eventKind 2 }
    exports := ("own", .function 5) :: countdown.exports }

/-- The first event owns the handle of the second, which its destructor drops. -/
def household : Program 1 :=
  twoEvents fun
    | [1] => .ask .drop eventKind 1
    | _ => .done 0

/-- Only the first event owns anything. -/
theorem body_household (representation : Word) :
    household.body 4 [representation] =
      if representation = 1 then .ask .drop eventKind 1 else .done 0 := by
  change (match [representation] with
    | [1] => Code.ask .drop eventKind 1
    | _ => .done 0 : Code 1 Word) = _
  split
  next same => rw [if_pos (List.cons.inj same).1]
  next other => rw [if_neg fun same => other (by rw [same])]

/-- Whether code ends before it asks for anything. -/
def endsAtOnce : Code 1 Word → Bool
  | .done _ => true
  | _ => false

theorem plain_of_endsAtOnce {code : Code 1 Word} (ends : endsAtOnce code = true) : code.Plain := by
  cases code with
  | done value => exact .done value
  | trap reason => cases ends
  | perform command next => cases ends

/-- Whether there are two events, the host has nothing, dropping the handles one by one succeeds,
and closing ends as given. -/
def closesWith (closing : Except Fault Unit) (state : SessionHost) : Bool :=
  match state.session with
  | none => false
  | some session =>
      let (outcome, after) := (session.dismantle (Session.handlesOf state.host.store)).on
        state.host.store
      (state.host.store.registry eventKind).resources.size = 2 ∧
        state.host.numbers eventKind = #[] ∧ state.host.leaked = [] ∧
          state.host.store.inFlight = [] ∧ outcome = .ok () ∧
            (after.registry eventKind).table.values = [] ∧
              (session.close.on state.host.store).1 = closing

/-- A session that the guest's two events are left to. -/
structure Left (state : SessionHost) (session : Session) (after : EventStore) : Prop where
  opened : state.session = some session
  two : (state.host.store.registry eventKind).resources.size = 2
  returned : ∀ reference, state.host.outside reference = 0
  dismantled : (session.dismantle (Session.handlesOf state.host.store)).on state.host.store =
    (.ok (), after)
  empty : ∀ handle, (after.registry eventKind).table.get? handle = none

theorem left_of_closesWith {closing : Except Fault Unit} {state : SessionHost}
    (closes : closesWith closing state = true) :
    ∃ session after, Left state session after ∧
      (session.close.on state.host.store).1 = closing := by
  unfold closesWith at closes
  cases opened : state.session with
  | none =>
      rw [opened] at closes
      cases closes
  | some session =>
      rw [opened] at closes
      obtain ⟨two, numbers, leaked, inFlight, dismantled, empty, closing⟩ :=
        of_decide_eq_true closes
      refine ⟨session, _, ⟨opened, two, fun reference => ?_, Prod.ext dismantled rfl,
        (Slab.values_eq_nil_iff _).mp empty⟩, closing⟩
      rw [Host.outside, Host.holdings, Subsingleton.elim reference.kind eventKind, numbers, leaked,
        inFlight]
      rfl

/-- Whether all handles are small, and what stands under them is destroyed at once. -/
def destroysAtOnce (state : SessionHost) : Bool :=
  match state.session with
  | none => false
  | some session =>
      let table := (state.host.store.registry eventKind).table
      table.slots.size ≤ 2 ∧ table.values.all fun identity =>
        let resource := state.host.store.resource { kind := eventKind, identity }
        endsAtOnce (session.running.program.body resource.destructor [resource.representation])

theorem plainlyDestroyed_of_destroysAtOnce {state : SessionHost} {session : Session}
    (opened : state.session = some session) (destroys : destroysAtOnce state = true) :
    (∀ handle, (state.host.store.registry eventKind).table.get? handle ≠ none →
      handle < UInt32.size) ∧
      ∀ reference, 0 < state.host.store.slots reference →
        state.host.store.PlainlyDestroyed session.running reference := by
  unfold destroysAtOnce at destroys
  rw [opened] at destroys
  obtain ⟨few, all⟩ := of_decide_eq_true destroys
  constructor
  · intro handle held
    apply Nat.lt_of_lt_of_le _ (Nat.le_trans few (by decide))
    apply Nat.lt_of_not_le
    intro beyond
    apply held
    rw [Slab.get?, Array.getElem?_eq_none beyond]
    rfl
  · rintro ⟨kind, identity⟩ stands
    obtain rfl : kind = eventKind := Subsingleton.elim _ _
    have among : identity ∈ (state.host.store.registry eventKind).table.values :=
      List.count_pos_iff.mp stands
    exact plain_of_endsAtOnce (List.all_eq_true.mp all identity among)

theorem left_of_household :
    ∃ outcomes state session after,
      (run tightEngine {} household [.session (.call "own" [])]).value = .ok (outcomes, state) ∧
      Left state session after ∧
      (session.close.on state.host.store).1 = .error (.invalidHandle 1) := by
  obtain ⟨outcomes, state, ran, closes⟩ := exists_ending tightEngine {} household
    [.session (.call "own" [])] (closesWith (.error (.invalidHandle 1))) (by decide +kernel)
  obtain ⟨session, after, left, failed⟩ := left_of_closesWith closes
  exact ⟨outcomes, state, session, after, ran, left, failed⟩

/-- Closing is not dropping the handles one by one: where a destructor drops a handle that the guest
still holds, only closing fails. -/
theorem close_ne_dismantle :
    ¬ ∀ (engine : Engine 1) (configuration : Configuration) (program : Program 1)
        (requests : List Request), (∀ number, .holding (.alias number) ∉ requests) →
          ∀ outcomes state,
            (run engine configuration program requests).value = .ok (outcomes, state) →
              ∀ session, state.session = some session →
                (∀ reference, state.host.outside reference = 0) →
                  ∀ after, (session.dismantle (Session.handlesOf state.host.store)).on
                      state.host.store = (.ok (), after) →
                    (∀ handle, (after.registry eventKind).table.get? handle = none) →
                      (session.close.on state.host.store).1 = .ok () := by
  intro agrees
  obtain ⟨outcomes, state, session, after, ran, left, failed⟩ := left_of_household
  have closed := agrees tightEngine {} household _ (by simp) outcomes state ran session
    left.opened left.returned after left.dismantled left.empty
  rw [failed] at closed
  cases closed

/-- Two events are destroyed once each in either order, also where closing fails because the first
one's destructor drops the second. Where the destructor does nothing, closing succeeds. -/
theorem dismantling_of_household :
    (∃ (state : SessionHost) (session : Session) (after : EventStore),
      state.session = some session ∧
      (session.dismantle (Session.handlesOf state.host.store)).on state.host.store =
        (.ok (), after) ∧
      (session.close.on state.host.store).1 = .error (.invalidHandle 1) ∧
      ∀ identity < 2, let event : EventReference := { kind := eventKind, identity }
        (after.log.toList.filter (·.destroys event)).length = 1 ∧
          ((session.closed state.host.store).log.toList.filter (·.destroys event)).length = 1) ∧
      ∃ (state : SessionHost) (session : Session) (after : EventStore),
        state.session = some session ∧
        (state.host.store.registry eventKind).resources.size = 2 ∧
        (session.dismantle (Session.handlesOf state.host.store)).on state.host.store =
          (.ok (), after) ∧
        session.close.on state.host.store = (.ok (), session.closed state.host.store) ∧
        session.closeAndDispose.on state.host.store =
          (.ok (), session.closed state.host.store) := by
  constructor
  · obtain ⟨outcomes, state, session, after, ran, left, failed⟩ := left_of_household
    obtain ⟨once, -⟩ :=
      dismantling_of_run (by simp) ran session left.returned left.dismantled left.empty
    refine ⟨state, session, after, left.opened, left.dismantled, failed, fun identity small => ?_⟩
    exact once { kind := eventKind, identity } (Nat.lt_of_lt_of_eq small left.two.symm)
  · obtain ⟨outcomes, state, ran, checked⟩ := exists_ending tightEngine {}
      (twoEvents fun _ => .done 0) [.session (.call "own" [])]
      (fun state => closesWith (.ok ()) state && destroysAtOnce state) (by decide +kernel)
    obtain ⟨closes, destroys⟩ := Bool.and_eq_true_iff.mp checked
    obtain ⟨session, after, left, -⟩ := left_of_closesWith closes
    obtain ⟨small, plain⟩ := plainlyDestroyed_of_destroysAtOnce left.opened destroys
    obtain ⟨-, succeeds⟩ :=
      dismantling_of_run (by simp) ran session left.returned left.dismantled left.empty
    exact ⟨state, session, after, left.opened, left.two, left.dismantled, succeeds small plain⟩

end SessionHost

end GuestBoundary.Event
