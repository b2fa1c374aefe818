import Mathlib.Data.List.Dedup
import GuestBoundary.Proofs.Event.Dismantling
import GuestBoundary.Proofs.Event.Duplication
import GuestBoundary.Proofs.Guest.Cascade

/-!
# Cascades end

When destructors do no more with handles than look at them and drop them, giving a reference back
ends, however their calls run into each other, and so do dropping a handle and closing a session.
The resources that go with a released one are among those in the table, and none goes twice. This
holds in every state that a run gets to, and of guests whose handles make no sense as well.
-/

namespace GuestBoundary.Event

/-- The calls in the part of a log that tells of a cascade. -/
structure Cascade (store final : EventStore) (added : List (Occurrence 1)) : Prop where
  log : final.log.toList = store.log.toList ++ added
  /-- No call is turned away for want of stack. -/
  letIn : ∀ call, .called call false ∉ added
  /-- No resource has its destructor called twice. -/
  once : ((destructions added).map Call.onBehalfOf).Nodup
  /-- Besides one resource, only those that were in the table are destroyed. -/
  bounded : (destructions added).length ≤ 1 + (store.parked eventKind).dedup.length

section

variable {store final : EventStore} {outside : Account 1}

/-- A cascade may destroy one resource besides those in the table. -/
theorem exists_cascade (others : List EventReference) (few : others.length ≤ 1)
    (subsides : store.Subsides (others ++ store.parked eventKind) final)
    (chronicled : final.Chronicled) : ∃ added, Cascade store final added := by
  have distinct : store.Subsides (others ++ (store.parked eventKind).dedup) final := by
    apply subsides.mono
    intro reference among
    rw [List.mem_append] at among ⊢
    exact among.imp_right List.mem_dedup.mpr
  obtain ⟨added, log, calls⟩ := subsides.told
  obtain ⟨once, bounded⟩ := distinct.length_destructions_le chronicled log
  refine ⟨added, log, fun call turnedAway => ?_, once, ?_⟩
  · cases (calls call false turnedAway).1
  · rw [List.length_append] at bounded
    omega

theorem count_parked_eq (store : EventStore) (reference : EventReference) :
    (store.parked eventKind).count reference = store.slots reference := by
  rw [Store.count_parked, if_pos (Subsingleton.elim _ _)]

theorem wraps_of_mem_parked (tracked : store.Tracked outside) {reference : EventReference}
    (among : reference ∈ store.parked eventKind) : store.Wraps reference := by
  apply tracked.known
  rw [← count_parked_eq]
  exact Nat.add_pos_right _ (List.count_pos_iff.mpr among)

theorem tamed_parked {running : Instance 1} (tracked : store.Tracked outside)
    (tame : ∀ reference, store.Wraps reference → store.TamelyDestroyed running reference) :
    store.Tamed running (store.parked eventKind) where
  listed reference := Nat.le_of_eq (count_parked_eq store reference).symm
  tame reference among := tame reference (wraps_of_mem_parked tracked among)

end

namespace Session

variable (session : Session)

/-- The same session on a stack of another size. -/
def onStack (stack : Nat) : Session := { session with running := session.running.onStack stack }

/-- What a session does ends if it comes to the same on every large enough stack. -/
def Ends {α : Type} (work : Session → Attempt EventStore α) (store : EventStore)
    (ending : Except Fault α × EventStore) : Prop :=
  ∃ enough, ∀ stack, enough ≤ stack → (work (session.onStack stack)).on store = ending

theorem on_close_eq_releaseAll (store : EventStore) :
    session.close.on store =
      (Store.releaseAll session.running.enter (store.parked eventKind)).on (emptied store) := by
  have taken : (Store.unparkAll eventKind).on store =
      (.ok (store.parked eventKind), store.withTable eventKind ∅) := rfl
  rw [close, Work.on_bind, taken]
  rfl

variable {session} {host : Host 1} {store : EventStore} {outside : Account 1}

theorem release_cascades (tracked : store.Tracked outside)
    (tame : ∀ reference, store.Wraps reference →
      store.TamelyDestroyed session.running reference)
    {reference : EventReference} (wrapped : store.Wraps reference) :
    ∃ ending added, session.Ends (·.release reference) store ending ∧
      Cascade store ending.2 added := by
  obtain ⟨ending, ends, subsides⟩ :=
    (session.running.calms (store.parked eventKind)).release (tamed_parked tracked tame)
      (tame reference wrapped)
  obtain ⟨enough, ended⟩ := ends.on_enter fun enter => Store.release enter reference
  have evolves : (store.giveBack true reference).Evolves (fun _ => False) ending.2 := by
    rw [← ended enough (Nat.le_refl _)]
    exact (session.running.onStack enough).release_evolves reference store
  have given : (store.giveBack true reference).Tracked outside :=
    (tracked.add_of_wraps wrapped).giveBack true
  have later := (Store.Tracked.invariant False).evolves given (fun _ => False.elim) evolves
  obtain ⟨added, cascade⟩ := exists_cascade [reference] (Nat.le_refl 1) subsides later.chronicled
  exact ⟨ending, added, ⟨enough, ended⟩, cascade⟩

/-- Inside a call, no more calls nest below dropping a handle than there are handles. -/
theorem drop_cascades {running : Instance 1} (tracked : store.Tracked outside)
    (tame : ∀ reference, store.Wraps reference → store.TamelyDestroyed running reference)
    (handle : Word) :
    ∃ ending added,
      Work.Ends
        (fun depth room => Store.lifecycle (running.within depth room) eventKind .drop handle)
        (store.parked eventKind).length store ending ∧
      Cascade store ending.2 added := by
  obtain ⟨ending, ends, subsides⟩ :=
    Instance.lifecycle_ends (fun _ _ => running.calms _) (tamed_parked tracked tame) eventKind
      (.inr rfl) handle
  have evolves : store.Evolves (fun _ => False) ending.2 := by
    obtain ⟨room, ended⟩ := ends
    rw [← ended _ room (Nat.le_refl _) (Nat.le_refl _)]
    have entry (room : Nat) : (running.within (store.parked eventKind).length room).Confined
        (fun _ => False) False := running.within_confined _ room
    exact (Store.lifecycle_confined (entry room) eventKind .drop handle store).final
  have later := (Store.Tracked.invariant False).evolves tracked (fun _ => False.elim) evolves
  obtain ⟨added, cascade⟩ := exists_cascade [] (Nat.zero_le 1) subsides later.chronicled
  exact ⟨ending, added, ends, cascade⟩

/-- While a session is closed the table is empty, so destructors find no handle to drop. -/
theorem close_cascades (tracked : host.store.Tracked host.outside)
    (tame : ∀ reference, host.store.Wraps reference →
      host.store.TamelyDestroyed session.running reference) :
    ∃ ending added, session.Ends (·.close) host.store ending ∧
      Cascade host.store ending.2 added := by
  have emptying : host.store.Subsides (host.store.parked eventKind) (emptied host.store) := by
    refine .of_views (fun reference => ?_) (resource_emptied host.store) rfl
    rw [slots_emptied]
    exact Nat.zero_le _
  have tamed : (emptied host.store).Tamed session.running [] := by
    refine ⟨fun reference => ?_, fun reference among => absurd among List.not_mem_nil⟩
    rw [slots_emptied]
    exact Nat.zero_le _
  obtain ⟨ending, ends, subsides⟩ := Store.releaseAll_ends tamed
    fun reference among =>
      (tame reference (wraps_of_mem_parked tracked among)).later emptying
  obtain ⟨enough, ended⟩ :=
    ends.on_enter fun enter => Store.releaseAll enter (host.store.parked eventKind)
  have closes (stack : Nat) (large : enough ≤ stack) :
      (session.onStack stack).close.on host.store = ending := by
    rw [on_close_eq_releaseAll]
    exact ended stack large
  have final : (session.onStack enough).closed host.store = ending.2 := by
    rw [← closes enough (Nat.le_refl _), on_close]
  have evolves : host.Evolves False (host.withStore ending.2) :=
    final ▸ (session.onStack enough).closed_evolves host
  have later := evolves.preserves (Store.Tracked.invariant False) tracked
  rw [List.append_nil] at subsides
  obtain ⟨added, cascade⟩ := exists_cascade [] (Nat.zero_le 1) (emptying.trans subsides)
    later.chronicled
  exact ⟨ending, added, ⟨enough, closes⟩, cascade⟩

end Session

namespace SessionHost

/-- In every state that a run gets to, and of whatever guest: if the code that destroys resources
does no more with handles than look at them and drop them, then giving a reference back, dropping a
handle and closing the session all end. None of them calls a destructor twice for a resource, or
more destructors than there are resources in the table, besides that of a reference given back. -/
theorem cascades_end {engine : Engine 1} {configuration : Configuration} {program : Program 1}
    {requests : List Request} {host : Host 1}
    (seen : (run engine configuration program requests).seen host) (session : Session)
    (tame : ∀ reference, host.store.Wraps reference →
      host.store.TamelyDestroyed session.running reference) :
    (∀ reference, host.store.Wraps reference →
      ∃ ending added, session.Ends (·.release reference) host.store ending ∧
        Cascade host.store ending.2 added) ∧
      (∀ handle, ∃ ending added,
        Work.Ends
          (fun depth room =>
            Store.lifecycle (session.running.within depth room) eventKind .drop handle)
          (host.store.parked eventKind).length host.store ending ∧
        Cascade host.store ending.2 added) ∧
      ∃ ending added, session.Ends (·.close) host.store ending ∧
        Cascade host.store ending.2 added := by
  obtain ⟨-, -, tracked⟩ := kept_of_seen_run engine configuration program seen
  exact ⟨fun _ wrapped => Session.release_cascades tracked tame wrapped,
    fun handle => Session.drop_cascades tracked tame handle,
    Session.close_cascades tracked tame⟩

/-- Whatever an event of the household stands for, its destructor drops at most a handle. -/
theorem tame_household (representation : Word) : (household.body 4 [representation]).Tame := by
  rw [body_household]
  split
  next =>
    refine .perform (fun action kind argument same => .inr ?_) fun answer => .done answer
    exact (Command.lifecycle.inj same).1.symm
  next => exact .done 0

/-- The host holds the event that owns the other one. -/
theorem cascades_end_of_household :
    let owner : EventReference := { kind := eventKind, identity := 0 }
    ∃ host : Host 1,
      (run tightEngine {} household
        [.session (.call "own" []), .session (.table (.lift 0))]).seen host ∧
      host.holdings owner = 1 ∧ (host.store.parked eventKind).length = 1 ∧
      ∀ contract, let session : Session :=
          { running := { program := household, engine := tightEngine }, contract }
        ∃ ending added, session.Ends (·.release owner) host.store ending ∧
          Cascade host.store ending.2 added := by
  intro owner
  obtain ⟨outcomes, state, ran, ending⟩ := exists_ending tightEngine {} household
    [.session (.call "own" []), .session (.table (.lift 0))]
    (fun state => state.host.holdings owner = 1 ∧
      (state.host.store.parked eventKind).length = 1 ∧ state.host.store.Wraps owner ∧
      ∀ identity < (state.host.store.registry eventKind).resources.size,
        (state.host.store.resource { kind := eventKind, identity }).destructor = 4)
    (by decide +kernel)
  obtain ⟨held, parked, wrapped, bound⟩ := of_decide_eq_true ending
  have seen := seen_of_run ran
  refine ⟨state.host, seen, held, parked, fun contract => ?_⟩
  apply (cascades_end seen { running := _, contract } _).1 owner wrapped
  rintro ⟨kind, identity⟩ wrapped
  obtain rfl : kind = eventKind := Subsingleton.elim _ _
  rw [Store.TamelyDestroyed, bound identity wrapped]
  exact tame_household _

end SessionHost

end GuestBoundary.Event
