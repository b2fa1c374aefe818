import GuestBoundary.Proofs.Event.Closing
import GuestBoundary.Proofs.Guest.Reaching

/-!
# Before a session is open

A guest already runs when it is started, and may ask for lifecycle functions then. But the
destructor is bound last of all, so until then nothing can be wrapped, no handle is ever given out,
and each lifecycle function fails and changes nothing. Whatever keeps a session from being opened,
no reference is stranded by it.
-/

namespace GuestBoundary

open Relation

variable {kinds : Nat}

namespace Store

/-- Nothing is wrapped and nothing can be. -/
structure Unbound (store : Store kinds) : Prop where
  destructor : ∀ kind, (store.registry kind).destructor = none
  table : ∀ kind, (store.registry kind).table = ∅

namespace Unbound

variable {store next later : Store kinds}

theorem vacant (unbound : store.Unbound) : store.Vacant := fun kind _ => by
  rw [unbound.table]
  rfl

/-- Without a destructor and without a handle, a guest can do nothing to the registries. -/
theorem registries_of_move (unbound : store.Unbound) (move : store.Move (fun _ => False) next) :
    next.registries = store.registries := by
  cases move with
  | inside => rfl
  | call => rfl
  | wrap kind representation function bound =>
      rw [unbound.destructor] at bound
      cases bound
  | lower reference known =>
      have none : store.slots reference = 0 := by
        rw [slots, unbound.table]
        rfl
      rw [none] at known
      exact known.elim False.elim fun some => absurd some (Nat.lt_irrefl 0)
  | drop kind handle identity table taken =>
      have held := (Slab.get?_of_take taken).1
      rw [unbound.vacant] at held
      cases held

theorem of_registries (unbound : store.Unbound) (same : next.registries = store.registries) :
    next.Unbound where
  destructor kind := by
    rw [registry, same]
    exact unbound.destructor kind
  table kind := by
    rw [registry, same]
    exact unbound.table kind

theorem registries_of_evolves (unbound : store.Unbound)
    (evolves : store.Evolves (fun _ => False) later) : later.registries = store.registries := by
  induction evolves with
  | refl => rfl
  | tail _ move inductionHypothesis =>
      exact ((unbound.of_registries inductionHypothesis).registries_of_move move).trans
        inductionHypothesis

end Unbound

end Store

namespace Event

/-- A store as it is until a session on it is open: no event was made and no handle given out, and
no destructor is bound. -/
structure Unopened (store : EventStore) : Prop where
  registry : store.registry eventKind = { name := resourceName }
  inFlight : store.inFlight = []

/-- How a lifecycle function fails until then. -/
def refusal : Lifecycle → Word → Fault
  | .new, _ => .missingExport ("drop entry point for `" ++ resourceName ++ "`")
  | _, handle => .invalidHandle handle

namespace Unopened

variable {store later : EventStore}

theorem unbound (unopened : Unopened store) : store.Unbound where
  destructor kind := by rw [Subsingleton.elim kind eventKind, unopened.registry]
  table kind := by rw [Subsingleton.elim kind eventKind, unopened.registry]

theorem fresh (configuration : Configuration) : Unopened (freshStore configuration) where
  registry := Store.registry_ofNames _ _ eventKind
  inFlight := rfl

theorem evolves (unopened : Unopened store) (evolves : store.Evolves (fun _ => False) later) :
    Unopened later where
  registry := by
    rw [Store.registry, unopened.unbound.registries_of_evolves evolves]
    exact unopened.registry
  inFlight := evolves.inFlight_eq.trans unopened.inFlight

/-- Every lifecycle function fails and changes nothing. -/
theorem on_lifecycle (unopened : Unopened store) (enter : Entry 1) (action : Lifecycle)
    (argument : Word) :
    (Store.lifecycle enter eventKind action argument).on store =
      (.error (refusal action argument), store) := by
  by_cases wrapping : action = .new
  · subst wrapping
    rw [Store.lifecycle, Store.wrapBound, Work.on_bind, Work.on_bind, Store.boundDestructor,
      Attempt.on_examine, unopened.registry]
    rfl
  · rw [unopened.unbound.vacant.on_lifecycle enter eventKind wrapping]
    cases action with
    | new => exact absurd rfl wrapping
    | _ => rfl

theorem leak?_eq_none (unopened : Unopened store) : store.leak? eventKind = none := by
  rw [Store.leak?, Store.parked, unopened.registry]
  rfl

end Unopened

namespace Session

variable (engine : Engine 1) (configuration : Configuration) (program : Program 1)

/-- A session is open only once the whole contract is found. Until then the store is unopened, and
so it stays if anything fails. -/
theorem start_unopened :
    (start engine configuration program).Ensures (freshStore configuration) Unopened
      (fun session final => ∃ middle function, Unopened middle ∧
        Contract.resolve session.running configuration.names = .ok (session.contract, function) ∧
          final = middle.rebind eventKind function)
      fun _ final => Unopened final := by
  have unopened := Unopened.fresh configuration
  simp only [start, Work.ensures_bind, Attempt.ensures_ofExcept]
  cases Linker.register {} configuration.names.importNamespace resourceName with
  | error fault => exact unopened
  | ok linker =>
      have made : (linker.instantiate engine program).Made { program, engine } (fun _ => False)
          False (freshStore configuration) := linker.instantiate_made engine program _
      refine made.confined.ensures.imp (fun _ => unopened.evolves)
        (fun running middle evolves => ?_) fun _ _ => unopened.evolves
      cases resolved : Contract.resolve running configuration.names with
      | error fault => exact unopened.evolves evolves
      | ok found =>
          simp only [Store.ensures_bindDestructor, Work.ensures_pure]
          exact ⟨middle, found.2, unopened.evolves evolves, resolved, rfl⟩

/-- A program that can be linked is started, and its start function gets to a lifecycle function. -/
def StartAsks (action : Lifecycle) (argument : Word) (middle : EventStore) : Prop :=
  ∃ linker function left next,
    Linker.register {} configuration.names.importNamespace resourceName = .ok linker ∧
      program.imports.all (linker.offered.contains ·) = true ∧
        program.pages ≤ maxPages ∧ configuration.maxMemory.all (program.pages * pageSize ≤ ·) ∧
          program.start = some function ∧
            ({ program, engine } : Instance 1).GetsTo (engine.stack + 1)
              (engine.stack + engine.callSize) { function, arguments := [] }
              { freshStore configuration with
                memory := Bytes.zeros (program.pages * pageSize)
                globals := program.globals }
              ⟨left, .perform (.lifecycle action eventKind argument) next, middle⟩

variable {engine configuration program}

/-- A lifecycle function that the start function gets to fails, and so does the start. -/
theorem on_start_of_asks {action : Lifecycle} {argument : Word} {middle : EventStore}
    (asks : StartAsks engine configuration program action argument middle) :
    (start engine configuration program).on (freshStore configuration) =
      (.error (refusal action argument), middle) := by
  obtain ⟨linker, function, left, next, registered, offered, addressable, limited, starting,
    reached⟩ := asks
  have unopened : Unopened middle := by
    apply Unopened.evolves _ reached.evolves
    exact ⟨(Unopened.fresh configuration).registry, rfl⟩
  have called : (({ program, engine } : Instance 1).call function []).on
      { freshStore configuration with
        memory := Bytes.zeros (program.pages * pageSize)
        globals := program.globals } = (.error (refusal action argument), middle) := by
    rw [Instance.call, Instance.enter_eq_within, GuestRun.toHost, Work.on_adapt,
      reached.on_within_of_fault (unopened.on_lifecycle _ action argument)]
    have direct : (refusal action argument).Direct := by
      intro abort same
      cases action <;> cases same
    change (Except.error (Abort.recover _), middle) = _
    rw [direct.recover_withNotes]
    cases action <;> rfl
  have linked : (linker.instantiate engine program).on (freshStore configuration) =
      (.error (refusal action argument), middle) := by
    have fits : program.pages ≤ maxPages ∧
        ((freshStore configuration).memoryLimit.all (program.pages * pageSize ≤ ·)) = true :=
      ⟨addressable, limited⟩
    unfold Linker.instantiate
    dsimp only
    rw [if_pos offered, Work.on_get_bind, if_pos fits, Work.on_modify_bind, starting]
    dsimp only
    rw [Work.on_bind, Work.on_discard, called]
    rfl
  rw [start, Work.on_bind, Attempt.on_ofExcept, registered]
  dsimp only
  rw [Work.on_bind, linked]

/-- While a session is being opened, the guest sees only stores without a handle in which every
lifecycle function fails and changes nothing. Where the start function gets to one, opening fails
with the same fault. The destructor is bound after the whole contract was found and nothing follows
it; if opening fails, the store holds no reference, and dropping it reports no leak. -/
theorem start_strands_nothing (engine : Engine 1) (configuration : Configuration)
    (program : Program 1) :
    (∀ moment, (start engine configuration program).Shows (freshStore configuration) moment →
        Unopened moment) ∧
      (∀ store, Unopened store → ∀ enter action argument,
        (Store.lifecycle enter eventKind action argument).on store =
          (.error (refusal action argument), store)) ∧
      (∀ action argument middle, StartAsks engine configuration program action argument middle →
        (start engine configuration program).on (freshStore configuration) =
          (.error (refusal action argument), middle)) ∧
      match (start engine configuration program).on (freshStore configuration) with
      | (.ok session, final) => ∃ middle function, Unopened middle ∧
          Contract.resolve session.running configuration.names = .ok (session.contract, function) ∧
            final = middle.rebind eventKind function
      | (.error _, final) => Unopened final ∧ dispose.on final = (.ok (), final) := by
  obtain ⟨shown, ending⟩ := start_unopened engine configuration program
  refine ⟨shown, fun store unopened => unopened.on_lifecycle, fun _ _ _ => on_start_of_asks, ?_⟩
  generalize (start engine configuration program).on (freshStore configuration) = outcome
    at ending ⊢
  rcases outcome with ⟨fault | session, final⟩
  · refine ⟨ending, ?_⟩
    rw [on_dispose, Unopened.leak?_eq_none ending]
  · exact ending

/-- A guest that wraps a word as soon as it is started. -/
def eager : Program 1 :=
  { SessionHost.countdown with
    functions := SessionHost.countdown.functions.push
      { signature := ⟨[], []⟩, body := fun _ => .ask .new eventKind 7 }
    start := some 5 }

theorem start_strands_nothing_of_eager :
    ∃ middle, StartAsks SessionHost.tightEngine {} eager .new 7 middle ∧
      (start SessionHost.tightEngine {} eager).on (freshStore {}) =
        (.error (.missingExport "drop entry point for `cloudevent`"), middle) ∧
        dispose.on middle = (.ok (), middle) := by
  have asks : StartAsks SessionHost.tightEngine {} eager .new 7 _ :=
    ⟨_, 5, _, _, rfl, by decide, by decide, by decide, rfl, by decide, by decide, .refl⟩
  have stranded := start_strands_nothing SessionHost.tightEngine {} eager
  have failed := stranded.2.2.1 .new 7 _ asks
  have ending := stranded.2.2.2
  rw [failed] at ending
  exact ⟨_, asks, failed, ending.2⟩

end Session

end Event

end GuestBoundary
