import GuestBoundary.Proofs.Guest.Failing
import GuestBoundary.Proofs.Resource.Lending

/-!
# What guest code leaves

A lifecycle function leaves a store in one of a few ways, and any other command changes only what
is the guest's own. They are listed once here; what none of them does, no code does, and no call,
however deep calls nest.

So the host's own calls are told from the log: whatever a guest does in a call makes the host call
destructors and nothing else.
-/

namespace GuestBoundary

variable {kinds : Nat} {α : Type}

namespace Store

/-- What a lifecycle function leaves, where `enter` is the way into the guest. -/
inductive Leaves (enter : Entry kinds) (store : Store kinds) (kind : Fin kinds) :
    Lifecycle → Word → Store kinds → Prop where
  | same (action : Lifecycle) (argument : Word) : Leaves enter store kind action argument store
  | wrapped (representation : Word) (function : FunctionId) :
      Leaves enter store kind .new representation
        ((store.enroll kind representation function).place (store.nextReference kind))
  | cloned {handle : Word} {identity : Nat}
      (found : (store.registry kind).table.fetch handle = .ok identity) :
      Leaves enter store kind .clone handle
        ((store.count { kind, identity }).place { kind, identity })
  | dropped {handle : Word} {identity : Nat} {table : Slab Nat}
      (taken : (store.registry kind).table.take handle = .ok (identity, table))
      (kept : ∀ call, (store.withTable kind table).verdict { kind, identity } ≠ .last call) :
      Leaves enter store kind .drop handle ((store.withTable kind table).book { kind, identity })
  | destroyed {handle : Word} {identity : Nat} {table : Slab Nat} {call : Call kinds}
      (taken : (store.registry kind).table.take handle = .ok (identity, table))
      (last : (store.withTable kind table).verdict { kind, identity } = .last call) :
      Leaves enter store kind .drop handle
        ((enter call).on ((store.withTable kind table).book { kind, identity })).2

/-- What a release leaves. -/
theorem release_leaves (enter : Entry kinds) (reference : Reference kinds) (store : Store kinds) :
    ((∀ call, store.verdict reference ≠ .last call) ∧
        ((release enter reference).on store).2 = store.book reference) ∨
      ∃ call, store.verdict reference = .last call ∧
        ((release enter reference).on store).2 = ((enter call).on (store.book reference)).2 := by
  rw [on_release, consequence]
  cases decided : store.verdict reference with
  | refused => exact .inl ⟨by rintro _ ⟨⟩, rfl⟩
  | shared => exact .inl ⟨by rintro _ ⟨⟩, rfl⟩
  | last call =>
      refine .inr ⟨call, rfl, ?_⟩
      dsimp only
      rw [GuestRun.toHost, Work.on_discard, Work.on_adapt]

theorem lifecycle_leaves (enter : Entry kinds) (kind : Fin kinds) (action : Lifecycle)
    (argument : Word) (store : Store kinds) :
    store.Leaves enter kind action argument
      ((lifecycle enter kind action argument).on store).2 := by
  cases action with
  | new =>
      rw [lifecycle, Work.on_bind, wrapBound, Work.on_bind, boundDestructor, Attempt.on_examine]
      dsimp only
      cases (store.registry kind).destructor with
      | none => exact .same _ _
      | some function => exact .wrapped argument function
  | clone =>
      rw [lifecycle, Work.on_bind, peek, Attempt.on_examine]
      cases found : (store.registry kind).table.fetch argument with
      | error fault => exact .same _ _
      | ok identity => exact .cloned found
  | get =>
      rw [lifecycle, Work.on_bind, peek, Attempt.on_examine]
      cases (store.registry kind).table.fetch argument with
      | error fault => exact .same _ _
      | ok identity => exact .same _ _
  | drop =>
      cases taken : (store.registry kind).table.take argument with
      | error fault =>
          rw [lifecycle, Work.on_bind, on_unpark_of_fault taken]
          exact .same _ _
      | ok found =>
          obtain ⟨identity, table⟩ := found
          rw [on_drop enter kind taken]
          rcases release_leaves enter { kind, identity } (store.withTable kind table) with
            ⟨kept, left⟩ | ⟨call, last, left⟩
          · rw [left]
            exact .dropped taken kept
          · rw [left]
            exact .destroyed taken last

/-- A command changes what is the guest's own, or it is a lifecycle function. -/
theorem execute_cases (enter : Entry kinds) (command : Command kinds) (store : Store kinds) :
    (∃ memory globals, ((execute enter command).on store).2 = { store with memory, globals }) ∨
      ∃ action kind argument, command = .lifecycle action kind argument ∧
        store.Leaves enter kind action argument ((execute enter command).on store).2 := by
  by_cases imported : ∃ action kind argument, command = .lifecycle action kind argument
  · obtain ⟨action, kind, argument, rfl⟩ := imported
    exact .inr ⟨action, kind, argument, rfl, lifecycle_leaves enter kind action argument store⟩
  · have own : ∀ action kind argument, command ≠ .lifecycle action kind argument :=
      fun action kind argument same => imported ⟨action, kind, argument, same⟩
    obtain ⟨outcome, memory, globals, executed, -⟩ :=
      execute_inward own store store ⟨rfl, rfl, rfl⟩
    rw [executed]
    exact .inl ⟨memory, globals, rfl⟩

end Store

/-- What no command changes, code does not change. -/
theorem Code.run_keeps {ν : Type} {view : Store kinds → ν} {enter : (room : Nat) → Entry kinds}
    (keeps : ∀ room command, (Store.execute (enter room) command).Keeps view)
    (code : Code kinds α) (room : Nat) : (code.run enter room).Keeps view := by
  intro store
  change view (Stage.run enter ⟨room, code, store⟩).2 = view store
  induction code generalizing room store with
  | done value => rfl
  | trap reason => rfl
  | perform command next inductionHypothesis =>
      cases fits : command.roomAfter room with
      | none =>
          have cramped := (Stage.Fails.cramped fits : Stage.Fails enter
            ⟨room, .perform command next, store⟩ _ _)
          rw [cramped.run_eq]
      | some after =>
          have executed := keeps room command store
          rw [Stage.run_perform fits]
          generalize (Store.execute (enter room) command).on store = ending at executed ⊢
          rcases ending with ⟨abort | answer, middle⟩
          · exact executed
          · exact (inductionHypothesis answer after middle).trans executed

/-! ### The host's own calls -/

/-- The call itself, unless it is made on behalf of a resource. -/
def Call.own? (call : Call kinds) : Option (Call kinds) :=
  if call.onBehalfOf.isNone then some call else none

/-- The call that the host made of its own accord. -/
def Occurrence.hostCall? : Occurrence kinds → Option (Call kinds)
  | .called call _ => call.own?
  | _ => none

/-- The calls that hosts made of their own accord, the latest one last. -/
def Store.hostCalls (store : Store kinds) : List (Call kinds) :=
  store.log.toList.filterMap Occurrence.hostCall?

/-- Of the host's own calls, a way into the guest adds only the one that it is taken for. -/
def Entry.AddsOne (enter : Entry kinds) : Prop :=
  ∀ call store, ((enter call).on store).2.hostCalls = store.hostCalls ++ call.own?.toList

namespace Store

theorem hostCalls_note (store : Store kinds) (occurrence : Occurrence kinds) :
    (store.note occurrence).hostCalls = store.hostCalls ++ occurrence.hostCall?.toList := by
  rw [hostCalls, hostCalls, log_note, Array.toList_push, List.filterMap_append,
    List.filterMap_cons, List.filterMap_nil]
  cases occurrence.hostCall? <;> rfl

theorem hostCalls_book (store : Store kinds) (reference : Reference kinds) :
    (store.book reference).hostCalls = store.hostCalls := by
  rw [book, hostCalls_note]
  exact List.append_nil _

/-- A destructor is called on behalf of its resource. -/
theorem onBehalfOf_of_last {store : Store kinds} {reference : Reference kinds}
    {call : Call kinds} (last : store.verdict reference = .last call) :
    call.onBehalfOf = some reference := by
  unfold verdict Resource.verdict at last
  split at last
  · cases last
  · split at last
    · cases last
      rfl
    · cases last

theorem hostCalls_of_leaves {enter : Entry kinds} (addsOne : enter.AddsOne)
    {store final : Store kinds} {kind : Fin kinds} {action : Lifecycle} {argument : Word}
    (leaves : store.Leaves enter kind action argument final) :
    final.hostCalls = store.hostCalls := by
  cases leaves with
  | same => rfl
  | wrapped representation function =>
      change (store.enroll kind argument function).hostCalls = store.hostCalls
      rw [enroll, hostCalls_note]
      exact List.append_nil _
  | cloned => rfl
  | dropped => exact hostCalls_book _ _
  | destroyed taken last =>
      rw [addsOne, hostCalls_book, Call.own?, onBehalfOf_of_last last]
      exact List.append_nil _

theorem execute_keeps_hostCalls {enter : Entry kinds} (addsOne : enter.AddsOne)
    (command : Command kinds) : (execute enter command).Keeps hostCalls := by
  intro store
  rcases execute_cases enter command store with
    ⟨memory, globals, left⟩ | ⟨action, kind, argument, -, leaves⟩
  · rw [left]
    rfl
  · exact hostCalls_of_leaves addsOne leaves

end Store

namespace Engine

variable (engine : Engine kinds)

theorem turnAway_addsOne : Entry.AddsOne (Store.turnAway : Entry kinds) :=
  fun call store => store.hostCalls_note (.called call false)

theorem enter_addsOne (body : FunctionId → List Word → Code kinds Word) (depth room : Nat) :
    (engine.enter body depth room).AddsOne := by
  induction depth generalizing room with
  | zero => exact turnAway_addsOne
  | succ depth inductionHypothesis =>
      intro call store
      have nested (room : Nat) : (engine.nested (engine.enter body depth) room).AddsOne := by
        intro call store
        unfold Engine.nested
        split
        next => exact turnAway_addsOne call store
        next => exact inductionHypothesis _ call store
      have ran := Code.run_keeps (fun room => Store.execute_keeps_hostCalls (nested room))
        (body call.function call.arguments) room (store.note (.called call true))
      rw [Engine.enter, Work.on_modify_bind, Work.on_adapt]
      exact ran.trans (store.hostCalls_note (.called call true))

end Engine

/-- A call of the host's own is the only one that it adds. -/
theorem Instance.hostCalls_call (running : Instance kinds) (function : FunctionId)
    (arguments : List Word) (store : Store kinds) :
    ((running.call function arguments).on store).2.hostCalls =
      store.hostCalls ++ [{ function, arguments : Call kinds }] :=
  running.engine.enter_addsOne running.program.body (running.engine.stack + 1)
    running.engine.stack { function, arguments } store

end GuestBoundary
