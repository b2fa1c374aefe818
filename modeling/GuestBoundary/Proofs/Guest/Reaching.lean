import GuestBoundary.Proofs.Guest.Agreement
import GuestBoundary.Proofs.Guest.Confinement
import GuestBoundary.Proofs.Guest.Plain

/-!
# What a call gets to

A call runs command by command, and what matters about it is often only which lifecycle functions it
gets to. A call that gets to none, or to none that succeeds, leaves the records and tables of its
store alone; it changes nothing but what is the guest's own.
-/

namespace GuestBoundary

open Relation

variable {kinds : Nat} {α : Type}

namespace Store

/-- No handle stands for anything. -/
def Vacant (store : Store kinds) : Prop :=
  ∀ kind handle, (store.registry kind).table.get? handle = none

/-- In a vacant store only wrapping can succeed. -/
theorem Vacant.on_lifecycle {store : Store kinds} (vacant : store.Vacant) (enter : Entry kinds)
    (kind : Fin kinds) {action : Lifecycle} (other : action ≠ .new) (argument : Word) :
    (lifecycle enter kind action argument).on store =
      (.error (.invalidHandle argument), store) := by
  have peeked : (peek kind argument).on store = (.error (.invalidHandle argument), store) := by
    rw [peek, Attempt.on_examine, Slab.fetch, vacant]
    rfl
  have unparked : (unpark kind argument).on store =
      (.error (.invalidHandle argument), store) := by
    rw [unpark, Work.on_bind, Attempt.on_examine, Slab.take, Slab.remove?, vacant]
  cases action with
  | new => exact absurd rfl other
  | clone => rw [lifecycle, Work.on_bind, peeked]
  | get => rw [lifecycle, Work.on_bind, peeked]
  | drop => rw [lifecycle, Work.on_bind, unparked]

end Store

namespace Stage

/-- Every lifecycle function that the code gets to fails, and leaves the store as it found it. -/
def Idle (enter : (room : Nat) → Entry kinds) (stage : Stage kinds α) : Prop :=
  ∀ left action kind argument next memory globals,
    ReflTransGen (Step enter) stage
        ⟨left, .perform (.lifecycle action kind argument) next,
          { stage.store with memory, globals }⟩ →
      ∃ fault, (Store.lifecycle (enter left) kind action argument).on
          { stage.store with memory, globals } =
        (.error fault, { stage.store with memory, globals })

variable {enter : (room : Nat) → Entry kinds}

theorem Idle.step {stage later : Stage kinds α} (idle : stage.Idle enter)
    (step : stage.Step enter later) {memory : Bytes} {globals : Array Word}
    (inside : later.store = { stage.store with memory, globals }) : later.Idle enter := by
  intro left action kind argument next memory' globals' reached
  have same : { later.store with memory := memory', globals := globals' } =
      { stage.store with memory := memory', globals := globals' } := by
    rw [inside]
  rw [same] at reached ⊢
  exact idle left action kind argument next memory' globals' (.head step reached)

/-- Code whose lifecycle functions all fail changes only what is the guest's own. -/
theorem Idle.run {stage : Stage kinds α} (idle : stage.Idle enter) : ∃ memory globals,
    (stage.run enter).2 = { stage.store with memory, globals } := by
  obtain ⟨room, code, store⟩ := stage
  induction code generalizing room store with
  | done value => exact ⟨store.memory, store.globals, rfl⟩
  | trap reason => exact ⟨store.memory, store.globals, rfl⟩
  | perform command next inductionHypothesis =>
      cases fits : command.roomAfter room with
      | none =>
          rw [Stage.run, Code.run, Work.on_bind, Work.on_expose]
          dsimp only
          rw [fits]
          exact ⟨store.memory, store.globals, rfl⟩
      | some after =>
          rw [run_perform fits]
          by_cases imported : ∃ action kind argument, command = .lifecycle action kind argument
          · obtain ⟨action, kind, argument, rfl⟩ := imported
            obtain ⟨fault, failed⟩ := idle room action kind argument next store.memory
              store.globals .refl
            rw [Store.execute, GuestRun.ofHost, Work.on_adapt, failed]
            exact ⟨store.memory, store.globals, rfl⟩
          · have own : ∀ action kind argument, command ≠ .lifecycle action kind argument :=
              fun action kind argument same => imported ⟨action, kind, argument, same⟩
            have inward : (Store.execute (enter room) command).Inward := Store.execute_inward own
            obtain ⟨outcome, memory, globals, executed, -⟩ := inward store store ⟨rfl, rfl, rfl⟩
            rw [executed]
            cases outcome with
            | error abort => exact ⟨memory, globals, rfl⟩
            | ok answer =>
                exact inductionHypothesis answer after { store with memory, globals }
                  (idle.step (.perform fits executed) rfl)

/-- What a guest has done when its code gets to a later stage, it has done by moves. -/
theorem evolves_of_reaches {owned : Reference kinds → Prop}
    (confined : ∀ room, (enter room).Confined owned False) {stage later : Stage kinds α}
    (reached : ReflTransGen (Step enter) stage later) : stage.store.Evolves owned later.store := by
  induction reached with
  | refl => exact .refl
  | tail _ step inductionHypothesis =>
      cases step with
      | @perform room _ command _ middle _ _ fits answered =>
          have evolves : middle.Evolves owned ((Store.execute (enter room) command).on middle).2 :=
            (Store.execute_confined (confined room) command middle).final
          rw [answered] at evolves
          exact inductionHypothesis.trans evolves

end Stage

namespace Instance

variable (running : Instance kinds)

/-- The way into the guest from inside a call, which leaves so many nested calls and so many bytes
of stack. -/
def within (depth room : Nat) : Entry kinds :=
  running.engine.nested (running.engine.enter running.program.body depth) room

theorem within_confined {owned : Reference kinds → Prop} {looking : Prop} (depth room : Nat) :
    (running.within depth room).Confined owned looking := by
  intro call store
  unfold within Engine.nested
  split
  next => exact ⟨false, Engine.turnAway_confined call store⟩
  next => exact running.engine.enter_confined running.program.body depth _ call store

/-- The host enters the guest like a call that has the whole stack left besides what it takes
itself. -/
theorem enter_eq_within :
    running.enter =
      running.within (running.engine.stack + 1)
        (running.engine.stack + running.engine.callSize) := by
  funext call
  rw [within, Engine.nested, if_neg (by omega), Nat.add_sub_cancel]
  rfl

/-- A call from inside another one is let in and gets to a stage. -/
def GetsTo (depth room : Nat) (call : Call kinds) (store : Store kinds)
    (stage : Stage kinds Word) : Prop :=
  0 < depth ∧ running.engine.callSize ≤ room ∧
    ReflTransGen (Stage.Step (running.within (depth - 1)))
      (running.opening (room - running.engine.callSize) call store) stage

/-- A call from inside another one gets to a lifecycle function. -/
def Asks (depth room : Nat) (call : Call kinds) (store : Store kinds) (action : Lifecycle) :
    Prop :=
  ∃ left kind argument next middle, running.GetsTo depth room call store
    ⟨left, .perform (.lifecycle action kind argument) next, middle⟩

variable {running} {depth room : Nat} {call : Call kinds} {store : Store kinds}

theorem on_within_of_short (short : depth = 0 ∨ room < running.engine.callSize) :
    (running.within depth room call).on store =
      (.error (.failure "call stack exhausted"), store.note (.called call false)) := by
  unfold within Engine.nested
  by_cases little : room < running.engine.callSize
  · rw [if_pos little]
    rfl
  · obtain rfl := short.resolve_right little
    rw [if_neg little]
    rfl

/-- A call that is let in comes to what its code comes to, with the notes of the call. -/
theorem on_within_of_fits (some : 0 < depth) (fits : running.engine.callSize ≤ room) :
    (running.within depth room call).on store =
      let ending := (running.opening (room - running.engine.callSize) call store).run
        (running.within (depth - 1))
      (ending.1.mapError (Abort.withNotes (running.engine.notes call)), ending.2) := by
  obtain ⟨depth, rfl⟩ := Nat.exists_eq_succ_of_ne_zero (Nat.ne_of_gt some)
  unfold within Engine.nested
  rw [if_neg (Nat.not_lt.mpr fits), Engine.enter, Work.on_modify_bind, Work.on_adapt]
  rfl

namespace GetsTo

theorem evolves {owned : Reference kinds → Prop} {stage : Stage kinds Word}
    (reached : running.GetsTo depth room call store stage) :
    (store.note (.called call true)).Evolves owned stage.store :=
  Stage.evolves_of_reaches (running.within_confined (depth - 1)) reached.2.2

/-- From the stage that it gets to, a call comes to what the stage comes to. -/
theorem on_within {stage : Stage kinds Word}
    (reached : running.GetsTo depth room call store stage) :
    (running.within depth room call).on store =
      let ending := stage.run (running.within (depth - 1))
      (ending.1.mapError (Abort.withNotes (running.engine.notes call)), ending.2) := by
  rw [on_within_of_fits reached.1 reached.2.1, Stage.run_eq_of_reaches reached.2.2]

/-- A lifecycle function that fails ends the call. -/
theorem on_within_of_fault {left : Nat} {action : Lifecycle} {kind : Fin kinds} {argument : Word}
    {next : Word → Code kinds Word} {middle final : Store kinds} {fault : Fault}
    (reached : running.GetsTo depth room call store
      ⟨left, .perform (.lifecycle action kind argument) next, middle⟩)
    (failed : (Store.lifecycle (running.within (depth - 1) left) kind action argument).on middle =
      (.error fault, final)) :
    (running.within depth room call).on store =
      (.error (fault.abort.withNotes (running.engine.notes call)), final) := by
  rw [reached.on_within, Stage.run_perform rfl, Store.execute, GuestRun.ofHost, Work.on_adapt,
    failed]
  rfl

end GetsTo

/-- A call whose lifecycle functions all fail is noted, and changes only what is the guest's own. -/
theorem within_inside
    (idle : 0 < depth → running.engine.callSize ≤ room →
      (running.opening (room - running.engine.callSize) call store).Idle
        (running.within (depth - 1))) : ∃ entered memory globals,
    ((running.within depth room call).on store).2 =
      { store.note (.called call entered) with memory, globals } := by
  by_cases letIn : 0 < depth ∧ running.engine.callSize ≤ room
  · obtain ⟨memory, globals, final⟩ := (idle letIn.1 letIn.2).run
    rw [on_within_of_fits letIn.1 letIn.2]
    exact ⟨true, memory, globals, final⟩
  · rw [on_within_of_short (by omega)]
    exact ⟨false, store.memory, store.globals, rfl⟩

/-- Lifecycle functions that a call does not get to cannot succeed. -/
theorem idle_of_not_asks (silent : ∀ action, ¬ running.Asks depth room call store action)
    (some : 0 < depth) (fits : running.engine.callSize ≤ room) :
    (running.opening (room - running.engine.callSize) call store).Idle
      (running.within (depth - 1)) :=
  fun left action kind argument next _ _ reached =>
    absurd ⟨left, kind, argument, next, _, some, fits, reached⟩ (silent action)

/-- In a vacant store a call that does not get to wrapping has no lifecycle function that
succeeds. -/
theorem idle_of_vacant (vacant : store.Vacant)
    (unwrapping : ¬ running.Asks depth room call store .new) (some : 0 < depth)
    (fits : running.engine.callSize ≤ room) :
    (running.opening (room - running.engine.callSize) call store).Idle
      (running.within (depth - 1)) := by
  intro left action kind argument next memory globals reached
  by_cases wrapping : action = .new
  · subst wrapping
    exact absurd ⟨left, kind, argument, next, _, some, fits, reached⟩ unwrapping
  · have still : { store.note (.called call true) with memory, globals }.Vacant := vacant
    exact ⟨_, still.on_lifecycle _ kind wrapping argument⟩

/-- Plain code gets to no lifecycle function. -/
theorem not_asks_of_plain (plain : (running.program.body call.function call.arguments).Plain)
    (action : Lifecycle) : ¬ running.Asks depth room call store action := by
  rintro ⟨left, kind, argument, next, middle, -, -, reached⟩
  have kept (stage : Stage kinds Word)
      (reached : ReflTransGen (Stage.Step (running.within (depth - 1)))
        (running.opening (room - running.engine.callSize) call store) stage) :
      stage.code.Plain := by
    induction reached with
    | refl => exact plain
    | tail _ step inductionHypothesis =>
        cases step with
        | perform =>
            cases inductionHypothesis with
            | perform own rest => exact rest _
  cases kept _ reached with
  | perform own => exact own action kind argument rfl

end Instance

namespace Store

variable {running : Instance kinds} {depth room : Nat} {reference : Reference kinds}
  {store : Store kinds}

variable (running depth room reference store) in
/-- Giving a reference back destroys its resource, and the destructor gets to a lifecycle
function. -/
def ReleaseAsks (action : Lifecycle) : Prop :=
  ∃ call, store.verdict reference = .last call ∧
    running.Asks depth room call (store.book reference) action

/-- Where the destructor has no lifecycle function that succeeds, all that a release does is to give
the reference back. -/
theorem release_inside
    (idle : ∀ call, store.verdict reference = .last call → 0 < depth →
      running.engine.callSize ≤ room →
        (running.opening (room - running.engine.callSize) call (store.book reference)).Idle
          (running.within (depth - 1))) : ∃ entered memory globals,
    ((release (running.within depth room) reference).on store).2 =
      { store.giveBack entered reference with memory, globals } := by
  rw [on_release, consequence]
  unfold giveBack
  cases decided : store.verdict reference with
  | refused => exact ⟨false, store.memory, store.globals, rfl⟩
  | shared => exact ⟨false, store.memory, store.globals, rfl⟩
  | last call =>
      obtain ⟨entered, memory, globals, final⟩ := Instance.within_inside (idle call decided)
      refine ⟨entered, memory, globals, ?_⟩
      dsimp only [GuestRun.toHost]
      rw [Work.on_discard, Work.on_adapt]
      exact final

theorem release_inside_of_silent
    (silent : ∀ action, ¬ store.ReleaseAsks running depth room reference action) :
    ∃ entered memory globals,
      ((release (running.within depth room) reference).on store).2 =
        { store.giveBack entered reference with memory, globals } :=
  release_inside fun call last =>
    Instance.idle_of_not_asks fun action asks => silent action ⟨call, last, asks⟩

end Store

end GuestBoundary
