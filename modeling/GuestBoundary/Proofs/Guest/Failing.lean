import GuestBoundary.Proofs.Guest.Reaching
import GuestBoundary.Proofs.Parts

/-!
# Why calls fail

A call ends early because of what ends its code, or because a destructor that it runs by dropping a
handle ends early in turn, and so on inwards. At the origin is either a failure of the engine or of
the guest, or a fault that a lifecycle function raised. On the way out an origin passes from abort
to fault and back once for every call that it leaves; a raised fault is the same outside, and a
failure becomes one fault of the engine, however many calls it leaves.
-/

namespace GuestBoundary

open Relation

variable {kinds : Nat} {α : Type}

/-! ### In and out of the engine -/

namespace Fault

/-- Not the engine's. -/
def Foreign (fault : Fault) : Prop := ∀ abort, fault ≠ .engine abort

theorem Foreign.abort_eq {fault : Fault} (foreign : fault.Foreign) :
    fault.abort = .raised fault := by
  cases fault with
  | engine abort => exact absurd rfl (foreign abort)
  | _ => rfl

theorem Foreign.direct {fault : Fault} (foreign : fault.Foreign) : fault.Direct :=
  fun abort same => absurd same (foreign abort)

theorem Foreign.leaving_eq {fault : Fault} (foreign : fault.Foreign) (notes : List String) :
    fault.leaving notes = fault := by
  cases fault with
  | engine abort => exact absurd rfl (foreign abort)
  | _ => rfl

theorem leaving_leaving (fault : Fault) (first second : List String) :
    (fault.leaving first).leaving second = fault.leaving (first ++ second) := by
  cases fault with
  | engine abort => simp only [leaving, Abort.withNotes, List.foldl_append]
  | _ => rfl

theorem leaving_nil (fault : Fault) : fault.leaving [] = fault := by
  cases fault <;> rfl

theorem Direct.leaving {fault : Fault} (direct : fault.Direct) (notes : List String) :
    (fault.leaving notes).Direct := by
  cases fault with
  | engine abort =>
      rintro _ ⟨⟩
      rw [Abort.fault?_withNotes]
      exact direct abort rfl
  | _ => exact nofun

/-- A fault that enters the engine and comes out of it again, with the notes that are added on the
way each time. -/
def afterRounds (rounds : List (List String)) (fault : Fault) : Fault :=
  rounds.foldl (fun fault notes => (fault.abort.withNotes notes).recover) fault

theorem Direct.afterRounds_eq {fault : Fault} (direct : fault.Direct)
    (rounds : List (List String)) : fault.afterRounds rounds = fault.leaving rounds.flatten := by
  induction rounds generalizing fault with
  | nil => exact fault.leaving_nil.symm
  | cons notes rounds inductionHypothesis =>
      have once : fault.afterRounds (notes :: rounds) =
          (fault.leaving notes).afterRounds rounds := by
        rw [← direct.recover_withNotes]
        rfl
      rw [once, inductionHypothesis (direct.leaving notes), leaving_leaving, List.flatten_cons]

/-- A fault that is not the engine's is the same after any number of rounds. -/
theorem Foreign.afterRounds_eq {fault : Fault} (foreign : fault.Foreign)
    (rounds : List (List String)) : fault.afterRounds rounds = fault := by
  rw [foreign.direct.afterRounds_eq, foreign.leaving_eq]

end Fault

namespace Abort

theorem recover_of_fault?_eq_none {abort : Abort} (unraised : abort.fault? = none) :
    abort.recover = .engine abort := by
  rw [recover, unraised, Option.getD_none]

/-- A fault of the engine gains the notes of all rounds, and nothing else. -/
theorem afterRounds_recover {abort : Abort} (unraised : abort.fault? = none)
    (rounds : List (List String)) :
    abort.recover.afterRounds rounds = .engine (abort.withNotes rounds.flatten) := by
  have direct : (Fault.engine abort).Direct := by
    rintro _ ⟨⟩
    exact unraised
  rw [recover_of_fault?_eq_none unraised, direct.afterRounds_eq]
  rfl

/-- What an abort starts with. -/
inductive Original : Abort → Prop where
  /-- The engine or the guest fails. -/
  | failure (text : String) : Original (.failure text)
  /-- A host function raises a fault. -/
  | raised {fault : Fault} (foreign : fault.Foreign) : Original (.raised fault)

/-- How a host sees what an abort started with: a raised fault as it is, and a failure as a fault of
the engine, under notes. -/
inductive SeenAs : Abort → Fault → Prop where
  | failure (text : String) (notes : List String) :
      SeenAs (.failure text) (.engine ((failure text).withNotes notes))
  | raised {fault : Fault} (foreign : fault.Foreign) : SeenAs (.raised fault) fault

theorem withNotes_withNotes (abort : Abort) (first second : List String) :
    (abort.withNotes first).withNotes second = abort.withNotes (first ++ second) := by
  simp only [withNotes, List.foldl_append]

theorem Original.recover_withNotes {origin : Abort} (original : origin.Original)
    (notes : List String) : origin.SeenAs (origin.withNotes notes).recover := by
  cases original with
  | failure text =>
      rw [recover_of_fault?_eq_none (by rw [fault?_withNotes]; rfl)]
      exact .failure text notes
  | @raised fault foreign =>
      rw [recover, fault?_withNotes]
      exact .raised foreign

/-- An abort without a raised fault is a failure under notes. -/
theorem exists_failure : (abort : Abort) → abort.fault? = none →
    ∃ text notes, abort = (failure text).withNotes notes
  | failure text, _ => ⟨text, [], rfl⟩
  | note outermost inner, unraised => by
      obtain ⟨text, notes, rfl⟩ := inner.exists_failure unraised
      exact ⟨text, notes ++ [outermost], (withNotes_withNotes _ notes [outermost])⟩

theorem SeenAs.direct {origin : Abort} {fault : Fault} (seen : origin.SeenAs fault) :
    fault.Direct := by
  cases seen with
  | failure text notes =>
      rintro _ ⟨⟩
      rw [fault?_withNotes]
      rfl
  | raised foreign => exact foreign.direct

/-- Between two calls a raised fault loses its notes, and a failure keeps them. -/
theorem SeenAs.abort_eq {origin : Abort} {fault : Fault} (seen : origin.SeenAs fault) :
    ∃ notes, fault.abort = origin.withNotes notes := by
  cases seen with
  | failure text notes => exact ⟨notes, rfl⟩
  | raised foreign => exact ⟨[], foreign.abort_eq⟩

end Abort

/-! ### Lifecycle functions that fail by themselves -/

namespace Store

variable {store final : Store kinds} {kind : Fin kinds} {action : Lifecycle} {argument : Word}
  {fault : Fault}

/-- A lifecycle function fails whatever calling the guest would do: it does not call the guest. -/
def Raises (store : Store kinds) (kind : Fin kinds) (action : Lifecycle) (argument : Word)
    (fault : Fault) (final : Store kinds) : Prop :=
  ∀ enter : Entry kinds, (lifecycle enter kind action argument).on store = (.error fault, final)

theorem foreign_of_wrapBound {representation : Word}
    (failed : (wrapBound kind representation).on store = (.error fault, final)) :
    fault.Foreign := by
  rcases Work.on_bind_eq_error_iff.mp failed with unbound | ⟨_, _, -, wrapping⟩
  · rw [boundDestructor, Attempt.on_examine] at unbound
    dsimp only at unbound
    split at unbound
    next => cases unbound
    next =>
      cases unbound
      rintro _ ⟨⟩
  · cases wrapping

theorem foreign_of_peek {handle : Word}
    (failed : (peek kind handle).on store = (.error fault, final)) : fault.Foreign := by
  rw [peek, Attempt.on_examine] at failed
  cases found : (store.registry kind).table.fetch handle with
  | ok identity =>
      rw [found] at failed
      cases failed
  | error other =>
      rw [found, Slab.fault_of_fetch found] at failed
      cases failed
      rintro _ ⟨⟩

/-- What the functions that give nothing back raise is not the engine's. -/
theorem foreign_of_lifecycle {enter : Entry kinds} (keeping : action ≠ .drop)
    (failed : (lifecycle enter kind action argument).on store = (.error fault, final)) :
    fault.Foreign := by
  cases action with
  | new =>
      rcases Work.on_bind_eq_error_iff.mp failed with wrapping | ⟨_, _, -, parking⟩
      · exact foreign_of_wrapBound wrapping
      · cases parking
  | clone =>
      rcases Work.on_bind_eq_error_iff.mp failed with peeking | ⟨_, _, -, lowering⟩
      · exact foreign_of_peek peeking
      · cases lowering
  | get =>
      rcases Work.on_bind_eq_error_iff.mp failed with peeking | ⟨_, _, -, reading⟩
      · exact foreign_of_peek peeking
      · cases reading
  | drop => exact absurd rfl keeping

/-- A lifecycle function fails by itself and raises what is not the engine's, or it drops a handle
and the destructor fails. -/
theorem raises_or_destroys {enter : Entry kinds}
    (failed : (lifecycle enter kind action argument).on store = (.error fault, final)) :
    (fault.Foreign ∧ store.Raises kind action argument fault final) ∨
      ∃ identity table call abort, action = .drop ∧
        (store.registry kind).table.take argument = .ok (identity, table) ∧
          (store.withTable kind table).verdict ⟨kind, identity⟩ = .last call ∧
            (enter call).on ((store.withTable kind table).book ⟨kind, identity⟩) =
              (.error abort, final) ∧ fault = abort.recover := by
  by_cases dropping : action = .drop
  · subst dropping
    cases taken : (store.registry kind).table.take argument with
    | error other =>
        have refused (enter : Entry kinds) : (lifecycle enter kind .drop argument).on store =
            (.error (.invalidHandle argument), store) := by
          rw [lifecycle, Work.on_bind, unpark, Work.on_bind, Attempt.on_examine, taken,
            Slab.fault_of_take taken]
        cases (refused enter).symm.trans failed
        refine .inl ⟨?_, refused⟩
        rintro _ ⟨⟩
    | ok found =>
        obtain ⟨identity, table⟩ := found
        have dropped (enter : Entry kinds) := on_drop enter kind taken
        simp only [on_release, consequence] at dropped
        rw [dropped] at failed
        cases decided : (store.withTable kind table).verdict ⟨kind, identity⟩ with
        | refused =>
            simp only [decided, Work.on_throw] at dropped failed
            cases failed
            refine .inl ⟨?_, dropped⟩
            rintro _ ⟨⟩
        | shared =>
            simp only [decided] at failed
            cases failed
        | last call =>
            right
            simp only [decided, Work.on_discard, GuestRun.toHost, Work.on_adapt] at failed
            cases called : (enter call).on
              ((store.withTable kind table).book ⟨kind, identity⟩) with
            | mk outcome left =>
            rw [called] at failed
            cases outcome with
            | ok value => cases failed
            | error abort =>
                cases failed
                exact ⟨identity, table, call, abort, rfl, rfl, decided, called, rfl⟩
  · left
    refine ⟨foreign_of_lifecycle dropping failed, fun other => ?_⟩
    cases action with
    | drop => exact absurd rfl dropping
    | _ => exact failed

/-- So a lifecycle function that fails by itself raises what is not the engine's. -/
theorem Raises.foreign (raises : store.Raises kind action argument fault final) :
    fault.Foreign := by
  -- Where every call succeeds, no destructor can be what fails.
  rcases raises_or_destroys (raises fun _ => pure 0) with
    ⟨foreign, -⟩ | ⟨_, _, _, _, -, -, -, failed, -⟩
  · exact foreign
  · cases failed

end Store

/-! ### Code that fails -/

namespace Store

/-- Where work is guarded by a check and cannot fail itself, what fails is the check. -/
theorem failure_of_guarded {condition : Prop} [Decidable condition] {work : GuestRun kinds α}
    {reason : String} {store final : Store kinds} {abort : Abort}
    (failed : (if condition then work else trap reason).on store = (.error abort, final))
    (sound : ∀ abort final, work.on store ≠ (.error abort, final)) :
    abort = .failure reason := by
  split at failed
  next => exact absurd failed (sound _ _)
  next =>
    cases failed
    rfl

/-- A command other than a lifecycle function fails as the guest's own failure, whatever calling the
guest would do. -/
theorem failure_of_execute {command : Command kinds}
    (own : ∀ action kind argument, command ≠ .lifecycle action kind argument)
    {enter : Entry kinds} {store final : Store kinds} {abort : Abort}
    (failed : (execute enter command).on store = (.error abort, final)) :
    ∃ reason, abort = .failure reason ∧
      ∀ other, (execute other command).on store = (.error (.failure reason), final) := by
  cases command with
  | read address length =>
      have guarded := failed
      rw [execute, Work.on_get_bind] at guarded
      obtain rfl := failure_of_guarded guarded (by rintro _ _ ⟨⟩)
      exact ⟨_, rfl, fun _ => failed⟩
  | write address data =>
      have guarded := failed
      rw [execute, Work.on_get_bind] at guarded
      obtain rfl := failure_of_guarded guarded (by rintro _ _ ⟨⟩)
      exact ⟨_, rfl, fun _ => failed⟩
  | copy target source length =>
      have guarded := failed
      rw [execute, Work.on_get_bind] at guarded
      obtain rfl := failure_of_guarded guarded (by rintro _ _ ⟨⟩)
      exact ⟨_, rfl, fun _ => failed⟩
  | grow pages =>
      rw [execute, Work.on_get_bind] at failed
      split at failed <;> cases failed
  | lifecycle action kind argument => exact absurd rfl (own action kind argument)
  | _ => cases failed

end Store

namespace Stage

variable {enter : (room : Nat) → Entry kinds}

/-- The next thing that the code does ends it early. -/
inductive Fails (enter : (room : Nat) → Entry kinds) :
    Stage kinds α → Abort → Store kinds → Prop where
  | trapped {room : Nat} {reason : String} {store : Store kinds} :
      Fails enter ⟨room, .trap reason, store⟩ (.failure reason) store
  /-- Too little stack is left for the command. -/
  | cramped {room : Nat} {command : Command kinds} {next : command.Answer → Code kinds α}
      {store : Store kinds} (short : command.roomAfter room = none) :
      Fails enter ⟨room, .perform command next, store⟩ (.failure "call stack exhausted") store
  | performed {room : Nat} {command : Command kinds} {next : command.Answer → Code kinds α}
      {store final : Store kinds} {abort : Abort} (fits : command.roomAfter room ≠ none)
      (failed : (Store.execute (enter room) command).on store = (.error abort, final)) :
      Fails enter ⟨room, .perform command next, store⟩ abort final

theorem Fails.run_eq {stage : Stage kinds α} {abort : Abort} {final : Store kinds}
    (fails : stage.Fails enter abort final) : stage.run enter = (.error abort, final) := by
  cases fails with
  | trapped => rfl
  | cramped short =>
      rw [run, Code.run, Work.on_bind, Work.on_expose]
      dsimp only
      rw [short]
      rfl
  | performed fits failed =>
      obtain ⟨after, fits⟩ := Option.ne_none_iff_exists'.mp fits
      rw [run_perform fits, failed]

/-- Code ends early just if it gets to where the next thing ends it. -/
theorem run_eq_error_iff {stage : Stage kinds α} {abort : Abort} {final : Store kinds} :
    stage.run enter = (.error abort, final) ↔
      ∃ later, ReflTransGen (Step enter) stage later ∧ later.Fails enter abort final := by
  constructor
  · obtain ⟨room, code, store⟩ := stage
    induction code generalizing room store with
    | done value => exact nofun
    | trap reason =>
        intro failed
        cases failed
        exact ⟨_, .refl, .trapped⟩
    | perform command next inductionHypothesis =>
        intro failed
        cases fits : command.roomAfter room with
        | none =>
            have cramped : Fails enter ⟨room, .perform command next, store⟩ _ store :=
              .cramped fits
            cases cramped.run_eq.symm.trans failed
            exact ⟨_, .refl, cramped⟩
        | some after =>
            rw [run_perform fits] at failed
            cases performed : (Store.execute (enter room) command).on store with
            | mk outcome middle =>
            rw [performed] at failed
            cases outcome with
            | error early =>
                cases failed
                exact ⟨_, .refl, .performed (by rw [fits]; exact nofun) performed⟩
            | ok answer =>
                obtain ⟨later, reached, fails⟩ := inductionHypothesis answer after middle failed
                exact ⟨later, .head (.perform fits performed) reached, fails⟩
  · rintro ⟨later, reached, fails⟩
    rw [run_eq_of_reaches reached, fails.run_eq]

end Stage

/-! ### Calls that break -/

namespace Instance

variable (running : Instance kinds)

/-- A call from inside another one ends early, with what that started with and the store that it
leaves. Either the call is turned away, or its code gets to where it fails by itself, or the code
drops a handle whose destructor breaks. -/
inductive Breaks : (depth room : Nat) → Call kinds → Store kinds → (origin : Abort) →
    (final : Store kinds) → Prop where
  | turnedAway {depth room : Nat} {call : Call kinds} {store : Store kinds}
      (short : depth = 0 ∨ room < running.engine.callSize) :
      Breaks depth room call store (.failure "call stack exhausted")
        (store.note (.called call false))
  | failed {depth room : Nat} {call : Call kinds} {store final : Store kinds}
      {stage : Stage kinds Word} {reason : String}
      (reached : running.GetsTo depth room call store stage)
      (fails : ∀ enter, stage.Fails enter (.failure reason) final) :
      Breaks depth room call store (.failure reason) final
  | raised {depth room left : Nat} {call : Call kinds} {store middle final : Store kinds}
      {action : Lifecycle} {kind : Fin kinds} {argument : Word} {next : Word → Code kinds Word}
      {fault : Fault}
      (reached : running.GetsTo depth room call store
        ⟨left, .perform (.lifecycle action kind argument) next, middle⟩)
      (raises : middle.Raises kind action argument fault final) :
      Breaks depth room call store (.raised fault) final
  | destroying {depth room left : Nat} {call inner : Call kinds} {store middle final : Store kinds}
      {kind : Fin kinds} {handle : Word} {identity : Nat} {table : Slab Nat}
      {next : Word → Code kinds Word} {origin : Abort}
      (reached : running.GetsTo depth room call store
        ⟨left, .perform (.lifecycle .drop kind handle) next, middle⟩)
      (taken : (middle.registry kind).table.take handle = .ok (identity, table))
      (last : (middle.withTable kind table).verdict ⟨kind, identity⟩ = .last inner)
      (breaks : Breaks (depth - 1) left inner
        ((middle.withTable kind table).book ⟨kind, identity⟩) origin final) :
      Breaks depth room call store origin final

variable {running} {depth room : Nat} {call : Call kinds} {store final : Store kinds}
  {origin : Abort}

namespace Breaks

theorem original (breaks : running.Breaks depth room call store origin final) :
    origin.Original := by
  induction breaks with
  | raised _ raises => exact .raised raises.foreign
  | destroying _ _ _ _ inductionHypothesis => exact inductionHypothesis
  | _ => exact .failure _

/-- A call that breaks fails with its origin, under notes. -/
theorem on_within (breaks : running.Breaks depth room call store origin final) :
    ∃ notes, (running.within depth room call).on store =
      (.error (origin.withNotes notes), final) := by
  induction breaks with
  | turnedAway short => exact ⟨[], on_within_of_short short⟩
  | @failed depth room call store final stage reason reached fails =>
      refine ⟨running.engine.notes call, ?_⟩
      rw [reached.on_within, (fails _).run_eq]
      rfl
  | @raised depth room left call store middle final action kind argument next fault reached
      raises =>
      refine ⟨running.engine.notes call, ?_⟩
      rw [reached.on_within_of_fault (raises _), raises.foreign.abort_eq]
  | @destroying depth room left call inner store middle final kind handle identity table next
      origin reached taken last breaks inductionHypothesis =>
      obtain ⟨notes, inwards⟩ := inductionHypothesis
      have destroyed : (Store.lifecycle (running.within (depth - 1) left) kind .drop handle).on
          middle = (.error (origin.withNotes notes).recover, final) := by
        rw [Store.on_drop _ kind taken, Store.on_release, Store.consequence, last]
        dsimp only
        rw [Work.on_discard, GuestRun.toHost, Work.on_adapt, inwards]
        rfl
      obtain ⟨kept, outwards⟩ := (breaks.original.recover_withNotes notes).abort_eq
      refine ⟨kept ++ running.engine.notes call, ?_⟩
      rw [reached.on_within_of_fault destroyed, outwards, Abort.withNotes_withNotes]

end Breaks

/-- Where code fails its call breaks, if calls from there on that fail break. -/
theorem breaks_of_fails {stage : Stage kinds Word} {abort : Abort}
    (inwards : ∀ {room : Nat} {call : Call kinds} {store final : Store kinds} {abort : Abort},
      (running.within (depth - 1) room call).on store = (.error abort, final) →
        ∃ origin notes, running.Breaks (depth - 1) room call store origin final ∧
          abort = origin.withNotes notes)
    (reached : running.GetsTo depth room call store stage)
    (fails : stage.Fails (running.within (depth - 1)) abort final) :
    ∃ origin notes, running.Breaks depth room call store origin final ∧
      abort = origin.withNotes notes := by
  cases fails with
  | trapped => exact ⟨_, [], .failed reached fun _ => .trapped, rfl⟩
  | cramped short => exact ⟨_, [], .failed reached fun _ => .cramped short, rfl⟩
  | @performed left command next middle _ _ fits failed =>
      by_cases imported : ∃ action kind argument, command = .lifecycle action kind argument
      · obtain ⟨action, kind, argument, rfl⟩ := imported
        obtain ⟨fault, answered, rfl⟩ := Work.on_adapt_eq_error_iff.mp failed
        rcases Store.raises_or_destroys answered with ⟨foreign, raises⟩ |
          ⟨identity, table, inner, abort, rfl, taken, last, called, rfl⟩
        · exact ⟨_, [], .raised reached raises, foreign.abort_eq⟩
        · obtain ⟨origin, notes, breaks, rfl⟩ := inwards called
          obtain ⟨kept, outwards⟩ := (breaks.original.recover_withNotes notes).abort_eq
          exact ⟨origin, kept, .destroying reached taken last breaks, outwards⟩
      · have own : ∀ action kind argument, command ≠ .lifecycle action kind argument :=
          fun action kind argument same => imported ⟨action, kind, argument, same⟩
        obtain ⟨reason, rfl, failing⟩ := Store.failure_of_execute own failed
        exact ⟨_, [], .failed reached fun _ => .performed fits (failing _), rfl⟩

/-- A call that fails breaks. -/
theorem breaks_of_on_within {abort : Abort}
    (failed : (running.within depth room call).on store = (.error abort, final)) :
    ∃ origin notes, running.Breaks depth room call store origin final ∧
      abort = origin.withNotes notes := by
  induction depth using Nat.strongRecOn generalizing room call store final abort with
  | _ depth inductionHypothesis =>
  by_cases letIn : 0 < depth ∧ running.engine.callSize ≤ room
  · obtain ⟨some, fits⟩ := letIn
    rw [on_within_of_fits some fits] at failed
    cases ended : (running.opening (room - running.engine.callSize) call store).run
      (running.within (depth - 1)) with
    | mk outcome left =>
    rw [ended] at failed
    cases outcome with
    | ok value => cases failed
    | error first =>
        cases failed
        obtain ⟨stage, reached, fails⟩ := Stage.run_eq_error_iff.mp ended
        obtain ⟨origin, notes, breaks, rfl⟩ :=
          breaks_of_fails (inductionHypothesis (depth - 1) (by omega)) ⟨some, fits, reached⟩ fails
        exact ⟨origin, _, breaks, Abort.withNotes_withNotes _ _ _⟩
  · have short : depth = 0 ∨ room < running.engine.callSize := by omega
    rw [on_within_of_short short] at failed
    cases failed
    exact ⟨_, [], .turnedAway short, rfl⟩

end Instance

end GuestBoundary
