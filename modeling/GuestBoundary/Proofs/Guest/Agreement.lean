import Mathlib.Logic.Relation
import GuestBoundary.Engine
import GuestBoundary.Proofs.Resource.Operations

/-!
# The guest's side and the host's side

A lifecycle function that a guest imports is what the host does with the same handle, done in the
middle of a call. One thing sets the two apart: the destructor of a resource that the guest drops
runs on what the call has left of the stack. So everything rests on one relation: work on less
stack follows work on more, which means that it does the same, or ends for want of stack.
-/

namespace GuestBoundary

variable {kinds : Nat} {ε δ σ α β : Type}

/-! ### Failures -/

/-- Whether the engine found too little stack. -/
def Abort.Exhausted : Abort → Prop
  | .failure text => text = "call stack exhausted"
  | .raised _ => False
  | .note _ inner => inner.Exhausted

def Fault.Exhausted : Fault → Prop
  | .engine abort => abort.Exhausted
  | _ => False

/-- What was raised below the notes is not the engine's own. -/
def Abort.Direct (abort : Abort) : Prop := ∀ inner, abort.fault? ≠ some (.engine inner)

@[inherit_doc Abort.Direct]
def Fault.Direct (fault : Fault) : Prop := ∀ abort, fault = .engine abort → abort.fault? = none

@[simp]
theorem Abort.fault?_withNotes (notes : List String) (abort : Abort) :
    (abort.withNotes notes).fault? = abort.fault? := by
  unfold withNotes
  induction notes generalizing abort with
  | nil => rfl
  | cons text notes inductionHypothesis => exact inductionHypothesis _

theorem Abort.Exhausted.withNotes {abort : Abort} (exhausted : abort.Exhausted)
    (notes : List String) : (abort.withNotes notes).Exhausted := by
  unfold Abort.withNotes
  induction notes generalizing abort with
  | nil => exact exhausted
  | cons text notes inductionHypothesis => exact inductionHypothesis exhausted

theorem Abort.Exhausted.fault? : {abort : Abort} → abort.Exhausted → abort.fault? = none
  | .failure _, _ => rfl
  | .note _ inner, exhausted => (show inner.Exhausted from exhausted).fault?

theorem Abort.Exhausted.recover {abort : Abort} (exhausted : abort.Exhausted) :
    abort.recover.Exhausted := by
  rw [Abort.recover, exhausted.fault?]
  exact exhausted

theorem Fault.Exhausted.abort {fault : Fault} (exhausted : fault.Exhausted) :
    fault.abort.Exhausted := by
  cases fault with
  | engine abort => exact exhausted
  | _ => exact exhausted.elim

theorem Abort.Direct.recover {abort : Abort} (direct : abort.Direct) : abort.recover.Direct := by
  intro inner same
  unfold Abort.recover at same
  cases raised : abort.fault? with
  | some fault =>
      rw [raised, Option.getD_some] at same
      exact absurd (same ▸ raised) (direct inner)
  | none =>
      rw [raised, Option.getD_none] at same
      exact Fault.engine.inj same ▸ raised

theorem Fault.Direct.abort {fault : Fault} (direct : fault.Direct) : fault.abort.Direct := by
  intro inner same
  cases fault with
  | engine abort => exact absurd ((direct abort rfl).symm.trans same) nofun
  | _ => cases same

theorem Abort.Direct.withNotes {abort : Abort} (direct : abort.Direct) (notes : List String) :
    (abort.withNotes notes).Direct := by
  intro inner
  rw [Abort.fault?_withNotes]
  exact direct inner

theorem Abort.direct_failure (text : String) : (Abort.failure text).Direct := nofun

/-! ### Work that follows other work -/

/-- In every state, work fails as `out` says, or it does what the other work does and then fails
only as `sound` says. -/
def Work.Follows (out sound : ε → Prop) (work other : Work ε σ α) : Prop :=
  ∀ state, (∃ failure final, work.on state = (.error failure, final) ∧ out failure) ∨
    (work.on state = other.on state ∧
      ∀ failure, (other.on state).1 = .error failure → sound failure)

namespace Work.Follows

variable {out sound : ε → Prop}

theorem self {work : Work ε σ α}
    (failing : ∀ state failure, (work.on state).1 = .error failure → sound failure) :
    work.Follows out sound work := fun state => .inr ⟨rfl, failing state⟩

theorem pure (value : α) : (Pure.pure value : Work ε σ α).Follows out sound (Pure.pure value) :=
  self nofun

theorem modify (change : σ → σ) :
    (modify change : Work ε σ Unit).Follows out sound (modify change) := self nofun

/-- Work that first looks at the state. -/
theorem get {next further : σ → Work ε σ α}
    (later : ∀ state, (next state).Follows out sound (further state)) :
    (MonadState.get >>= next).Follows out sound (MonadState.get >>= further) := by
  intro state
  rw [on_get_bind, on_get_bind]
  exact later state state

theorem bind {work other : Work ε σ α} {next further : α → Work ε σ β}
    (first : work.Follows out sound other)
    (later : ∀ value, (next value).Follows out sound (further value)) :
    (work >>= next).Follows out sound (other >>= further) := by
  intro state
  rw [on_bind, on_bind]
  rcases first state with ⟨failure, final, failed, ranOut⟩ | ⟨same, failing⟩
  · rw [failed]
    exact .inl ⟨failure, final, rfl, ranOut⟩
  · rw [same]
    generalize other.on state = ending at failing ⊢
    rcases ending with ⟨failure | value, final⟩
    · exact .inr ⟨rfl, fun _ failed => failing _ (Except.error.inj failed ▸ rfl)⟩
    · exact later value final

theorem adapt {out' sound' : δ → Prop} {work other : Work ε σ α} {change : ε → δ}
    (follows : work.Follows out sound other)
    (outToo : ∀ failure, out failure → out' (change failure))
    (soundToo : ∀ failure, sound failure → sound' (change failure)) :
    Work.Follows out' sound' (ExceptT.adapt change work) (ExceptT.adapt change other) := by
  intro state
  rw [on_adapt, on_adapt]
  rcases follows state with ⟨failure, final, failed, ranOut⟩ | ⟨same, failing⟩
  · rw [failed]
    exact .inl ⟨change failure, final, rfl, outToo failure ranOut⟩
  · rw [same]
    refine .inr ⟨rfl, fun failure failed => ?_⟩
    generalize other.on state = ending at failing failed
    rcases ending with ⟨first | value, final⟩
    · exact Except.error.inj failed ▸ soundToo first (failing first rfl)
    · cases failed

theorem discard {work other : Work ε σ α} (follows : work.Follows out sound other) :
    Work.Follows out sound (discard work) (discard other) :=
  follows.bind fun _ => pure ()

end Work.Follows

/-! ### Guest work on less stack -/

/-- Guest work that does the same as other guest work, or runs out of stack. -/
abbrev GuestRun.Follows (work other : GuestRun kinds α) : Prop :=
  Work.Follows Abort.Exhausted Abort.Direct work other

/-- Host work that does the same as other host work, or runs out of stack. -/
abbrev Attempt.Follows (work other : Attempt (Store kinds) α) : Prop :=
  Work.Follows Fault.Exhausted Fault.Direct work other

/-- One way into the guest that does the same as another, or runs out of stack. -/
def Entry.Follows (enter other : Entry kinds) : Prop := ∀ call, (enter call).Follows (other call)

theorem Fault.Exhausted.direct {fault : Fault} (exhausted : fault.Exhausted) : fault.Direct := by
  rintro abort rfl
  exact Abort.Exhausted.fault? exhausted

namespace Store

theorem trap_follows (reason : String) : (trap reason : GuestRun kinds α).Follows (trap reason) :=
  Work.Follows.self fun _ _ failed => Except.error.inj failed ▸ Abort.direct_failure reason

theorem expose_follows : GuestRun.Follows (Work.expose : GuestRun kinds Unit) Work.expose :=
  .self nofun

theorem exhausted_follows {work other : GuestRun kinds α}
    (ranOut : ∀ store, ∃ final, work.on store = (.error (.failure "call stack exhausted"), final)) :
    work.Follows other := by
  intro store
  obtain ⟨final, failed⟩ := ranOut store
  exact .inl ⟨_, final, failed, rfl⟩

theorem examine_follows {view : Store kinds → Except Fault α}
    (direct : ∀ store fault, view store = .error fault → fault.Direct) :
    Attempt.Follows (Attempt.examine view) (Attempt.examine view) :=
  Work.Follows.self fun store fault failed => direct store fault (by
    rwa [Attempt.on_examine] at failed)

/-- Booking looks at the record only; the destructor is where one way in may run out of stack. -/
theorem release_follows {enter other : Entry kinds} (follows : enter.Follows other)
    (reference : Reference kinds) :
    Attempt.Follows (release enter reference) (release other reference) := by
  intro store
  have consequence : Attempt.Follows (store.consequence enter reference)
      (store.consequence other reference) := by
    unfold Store.consequence
    split
    next => exact .self fun _ _ failed => Except.error.inj failed ▸ nofun
    next => exact .pure ()
    next call _ =>
      exact ((follows call).adapt (fun _ => Abort.Exhausted.recover)
        fun _ => Abort.Direct.recover).discard
  rw [on_release, on_release]
  exact consequence (store.book reference)

theorem peek_follows (kind : Fin kinds) (handle : Word) :
    Attempt.Follows (peek kind handle) (peek kind handle) := by
  apply examine_follows
  intro store fault failed
  cases found : (store.registry kind).table.fetch handle with
  | ok identity =>
      rw [found] at failed
      cases failed
  | error other =>
      rw [found, Slab.fault_of_fetch found] at failed
      cases failed
      exact nofun

theorem unpark_follows (kind : Fin kinds) (handle : Word) :
    Attempt.Follows (unpark kind handle) (unpark kind handle) := by
  refine Work.Follows.bind (examine_follows fun store fault failed => ?_) fun entry =>
    .bind (.modify _) fun _ => .pure _
  rw [Slab.fault_of_take failed]
  exact nofun

theorem wrapBound_follows (kind : Fin kinds) (representation : Word) :
    Attempt.Follows (wrapBound kind representation) (wrapBound kind representation) := by
  refine Work.Follows.bind (examine_follows fun store fault failed => ?_) fun destructor =>
    .self nofun
  dsimp only at failed
  split at failed
  next => cases failed
  next =>
    cases failed
    exact nofun

theorem lower_follows (reference : Reference kinds) :
    Attempt.Follows (lower reference) (lower reference) := .self nofun

/-- Only giving a reference up enters the guest. -/
theorem lifecycle_follows {enter other : Entry kinds} (follows : enter.Follows other)
    (kind : Fin kinds) (action : Lifecycle) (argument : Word) :
    Attempt.Follows (lifecycle enter kind action argument)
      (lifecycle other kind action argument) := by
  cases action with
  | new => exact (wrapBound_follows kind argument).bind fun reference => .self nofun
  | clone => exact (peek_follows kind argument).bind lower_follows
  | get => exact (peek_follows kind argument).bind fun reference => .get fun store => .pure _
  | drop =>
      exact (unpark_follows kind argument).bind fun reference =>
        (release_follows follows reference).bind fun _ => .pure 0

theorem direct_of_follows {work : Attempt (Store kinds) α} (follows : Attempt.Follows work work)
    (store : Store kinds) (fault : Fault) (failed : (work.on store).1 = .error fault) :
    fault.Direct := by
  rcases follows store with ⟨ranOut, final, ending, exhausted⟩ | ⟨-, direct⟩
  · rw [ending] at failed
    exact Except.error.inj failed ▸ exhausted.direct
  · exact direct fault failed

/-- Whatever does not give a reference up is the same on any stack. -/
theorem lifecycle_as_nested {enter other : Entry kinds} (follows : enter.Follows other)
    (kind : Fin kinds) (action : Lifecycle) (argument : Word) (store : Store kinds) :
    (action = .drop ∧ ∃ fault final,
      (lifecycle enter kind action argument).on store = (.error fault, final) ∧
        fault.Exhausted) ∨
      ((lifecycle enter kind action argument).on store =
          (lifecycle other kind action argument).on store ∧
        ∀ fault, ((lifecycle other kind action argument).on store).1 = .error fault →
          fault.Direct) := by
  have bothSides := lifecycle_follows follows kind action argument
  cases action with
  | drop => exact (bothSides store).imp (fun ranOut => ⟨rfl, ranOut⟩) id
  | new => exact .inr ⟨rfl, direct_of_follows bothSides store⟩
  | clone => exact .inr ⟨rfl, direct_of_follows bothSides store⟩
  | get => exact .inr ⟨rfl, direct_of_follows bothSides store⟩

theorem execute_follows {enter other : Entry kinds} (follows : enter.Follows other)
    (command : Command kinds) : (execute enter command).Follows (execute other command) := by
  cases command with
  | lifecycle action kind argument =>
      exact (lifecycle_follows follows kind action argument).adapt
        (fun _ => Fault.Exhausted.abort) fun _ => Fault.Direct.abort
  | read address length =>
      refine .get fun store => ?_
      dsimp only
      split
      next => exact .pure _
      next => exact trap_follows _
  | write address data =>
      refine .get fun store => ?_
      split
      next => exact .modify _
      next => exact trap_follows _
  | copy target source length =>
      refine .get fun store => ?_
      dsimp only
      split
      next => exact .modify _
      next => exact trap_follows _
  | pages => exact .self nofun
  | grow pages =>
      refine .get fun store => ?_
      split
      next => exact .self nofun
      next => exact .pure _
  | readGlobal index => exact .self nofun
  | writeGlobal index value => exact .modify _
  | enterFrame size => exact .pure ()
  | leaveFrame size => exact .pure ()

end Store

theorem Command.roomAfter_mono (command : Command kinds) {less more : Nat} (le : less ≤ more) :
    command.roomAfter less = none ∨ ∃ after further,
      command.roomAfter less = some after ∧ command.roomAfter more = some further ∧
        after ≤ further := by
  cases command with
  | enterFrame size =>
      by_cases fits : size ≤ less
      · exact .inr ⟨less - size, more - size, if_pos fits, if_pos (Nat.le_trans fits le), by omega⟩
      · exact .inl (if_neg fits)
  | leaveFrame size => exact .inr ⟨less + size, more + size, rfl, rfl, by omega⟩
  | _ => exact .inr ⟨less, more, rfl, rfl, le⟩

/-- Code on less stack follows the same code on more. -/
theorem Code.run_follows {enter other : (room : Nat) → Entry kinds}
    (follows : ∀ less more, less ≤ more → (enter less).Follows (other more))
    (code : Code kinds α) {less more : Nat} (le : less ≤ more) :
    (code.run enter less).Follows (code.run other more) := by
  induction code generalizing less more with
  | done value => exact Store.expose_follows.bind fun _ => .pure value
  | trap reason => exact Store.expose_follows.bind fun _ => Store.trap_follows reason
  | perform command next inductionHypothesis =>
      rw [Code.run, Code.run]
      refine Store.expose_follows.bind fun _ => ?_
      rcases command.roomAfter_mono le with ranOut | ⟨after, further, small, large, stillLe⟩
      · rw [ranOut]
        exact Store.exhausted_follows fun store => ⟨store, rfl⟩
      · rw [small, large]
        exact (Store.execute_follows (follows less more le) command).bind
          fun answer => inductionHypothesis answer stillLe

namespace Engine

variable (engine : Engine kinds) (body : FunctionId → List Word → Code kinds Word)

theorem nested_follows {enter other : (room : Nat) → Entry kinds}
    (follows : ∀ less more, less ≤ more → (enter less).Follows (other more))
    (less more : Nat) (le : less ≤ more) :
    (engine.nested enter less).Follows (engine.nested other more) := by
  intro call
  unfold nested
  by_cases small : less < engine.callSize
  · rw [if_pos small]
    exact Store.exhausted_follows fun store => ⟨_, rfl⟩
  · rw [if_neg small, if_neg (by omega)]
    exact follows _ _ (Nat.sub_le_sub_right le _) call

/-- A call with less depth and less stack follows the same call with more. -/
theorem enter_follows (shallow deep : Nat) (depthLe : shallow ≤ deep) (less more : Nat)
    (le : less ≤ more) :
    (engine.enter body shallow less).Follows (engine.enter body deep more) := by
  induction shallow generalizing deep less more with
  | zero =>
      intro call
      exact Store.exhausted_follows fun store => ⟨_, rfl⟩
  | succ shallow inductionHypothesis =>
      cases deep with
      | zero => cases depthLe
      | succ deep =>
          intro call
          have further := engine.nested_follows
            (inductionHypothesis deep (Nat.le_of_succ_le_succ depthLe))
          exact .bind (.modify _) fun _ => (Code.run_follows further _ le).adapt
            (fun _ exhausted => exhausted.withNotes _) fun _ direct => direct.withNotes _

end Engine

/-! ### A call, command by command -/

/-- Code about to be run on a store, with the stack that it has left. -/
structure Stage (kinds : Nat) (α : Type) where
  room : Nat
  code : Code kinds α
  store : Store kinds

namespace Stage

variable {enter : (room : Nat) → Entry kinds}

def run (enter : (room : Nat) → Entry kinds) (stage : Stage kinds α) :
    Except Abort α × Store kinds :=
  (stage.code.run enter stage.room).on stage.store

/-- One command is performed, and the code goes on with the answer. -/
inductive Step (enter : (room : Nat) → Entry kinds) : Stage kinds α → Stage kinds α → Prop where
  | perform {room after : Nat} {command : Command kinds} {next : command.Answer → Code kinds α}
      {store middle : Store kinds} {answer : command.Answer}
      (fits : command.roomAfter room = some after)
      (answered : (Store.execute (enter room) command).on store = (.ok answer, middle)) :
      Step enter ⟨room, .perform command next, store⟩ ⟨after, next answer, middle⟩

theorem run_perform {room after : Nat} {command : Command kinds}
    {next : command.Answer → Code kinds α} {store : Store kinds}
    (fits : command.roomAfter room = some after) :
    run enter ⟨room, .perform command next, store⟩ =
      match (Store.execute (enter room) command).on store with
      | (.ok answer, middle) => run enter ⟨after, next answer, middle⟩
      | (.error abort, middle) => (.error abort, middle) := by
  rw [run, Code.run, Work.on_bind, Work.on_expose]
  dsimp only
  rw [fits]
  dsimp only
  rw [Work.on_bind]
  rcases (Store.execute (enter room) command).on store with ⟨_ | _, _⟩ <;> rfl

theorem Step.run_eq {stage later : Stage kinds α} (step : stage.Step enter later) :
    stage.run enter = later.run enter := by
  cases step with
  | perform fits answered => rw [run_perform fits, answered]

theorem run_eq_of_reaches {stage later : Stage kinds α}
    (reached : Relation.ReflTransGen (Step enter) stage later) :
    stage.run enter = later.run enter := by
  induction reached with
  | refl => rfl
  | tail _ step inductionHypothesis => exact inductionHypothesis.trans step.run_eq

end Stage

/-- A fault as it leaves a call; what the engine reports is noted, and any other stays as it is. -/
def Fault.leaving (notes : List String) : Fault → Fault
  | .engine abort => .engine (abort.withNotes notes)
  | fault => fault

theorem Fault.Direct.recover_withNotes {fault : Fault} (direct : fault.Direct)
    (notes : List String) : (fault.abort.withNotes notes).recover = fault.leaving notes := by
  rw [Abort.recover, Abort.fault?_withNotes]
  cases fault with
  | engine abort => rw [show (Fault.engine abort).abort.fault? = none from direct abort rfl]; rfl
  | _ => rfl

namespace Instance

variable (running : Instance kinds)

/-- What the host does itself where a guest calls a lifecycle function: it looks up the bound
destructor, wraps a representation and parks the reference; looks a handle up and parks one more
reference; looks a handle up and reads the representation; takes a reference out and gives it
back. -/
def direct (kind : Fin kinds) : Lifecycle → Word → Attempt (Store kinds) Word
  | .new, representation => do
      let destructor ← Store.boundDestructor kind
      let reference ← Store.wrap kind representation destructor
      Store.park reference
  | .clone, handle => do
      let reference ← Store.peek kind handle
      Store.lower reference
  | .get, handle => do
      let reference ← Store.peek kind handle
      return ((← get).resource reference).representation
  | .drop, handle => do
      let reference ← Store.unpark kind handle
      Store.release running.enter reference
      return 0

theorem on_direct (kind : Fin kinds) (action : Lifecycle) (argument : Word) (store : Store kinds) :
    (running.direct kind action argument).on store =
      (Store.lifecycle running.enter kind action argument).on store := by
  cases action with
  | new =>
      dsimp only [direct, Store.lifecycle, Store.wrapBound]
      rw [Work.on_bind, Work.on_bind, Work.on_bind]
      rcases (Store.boundDestructor kind).on store with ⟨fault | destructor, middle⟩ <;> rfl
  | clone => rfl
  | get => rfl
  | drop => rfl

/-- The first stage of a call. -/
def opening (room : Nat) (call : Call kinds) (store : Store kinds) : Stage kinds Word :=
  { room
    code := running.program.body call.function call.arguments
    store := store.note (.called call true) }

/-- What the host sees of a call is what its code comes to, below the notes of the call. -/
theorem on_toHost_enter (depth room : Nat) (call : Call kinds) (store : Store kinds) :
    (running.engine.enter running.program.body (depth + 1) room call).toHost.on store =
      let ending := (running.opening room call store).run
        (running.engine.nested (running.engine.enter running.program.body depth))
      (ending.1.mapError fun abort => (abort.withNotes (running.engine.notes call)).recover,
        ending.2) := by
  rw [GuestRun.toHost, Work.on_adapt, Engine.enter, Work.on_modify_bind, Work.on_adapt]
  dsimp only [opening, Stage.run]
  rcases (Code.run _ room _).on _ with ⟨abort | value, final⟩ <;> rfl

/-- The way in from inside a call follows the way in from outside. -/
theorem nested_follows_enter {depth : Nat} (depthLe : depth ≤ running.engine.stack) {room : Nat}
    (roomLe : room ≤ running.engine.stack) :
    (running.engine.nested (running.engine.enter running.program.body depth) room).Follows
      running.enter := by
  intro call
  unfold Engine.nested
  split
  next => exact Store.exhausted_follows fun store => ⟨_, rfl⟩
  next =>
    exact running.engine.enter_follows running.program.body depth _ (by omega) _ _ (by omega) call

section

variable {running} {depth room left : Nat} {call : Call kinds} {store middle final : Store kinds}
  {kind : Fin kinds} {action : Lifecycle} {argument : Word} {next : Word → Code kinds Word}

/-- An answered lifecycle function is one more step. -/
theorem reaches_answer {enter : (room : Nat) → Entry kinds} {opening : Stage kinds Word}
    (reached : Relation.ReflTransGen (Stage.Step enter) opening
      ⟨left, .perform (.lifecycle action kind argument) next, middle⟩) {answer : Word}
    (answered : (Store.lifecycle (enter left) kind action argument).on middle =
      (.ok answer, final)) :
    Relation.ReflTransGen (Stage.Step enter) opening ⟨left, next answer, final⟩ := by
  refine reached.tail (.perform rfl ?_)
  rw [Store.execute, GuestRun.ofHost, Work.on_adapt, answered]
  rfl

/-- A lifecycle function that fails ends the call. -/
theorem on_toHost_enter_of_fault
    (reached : Relation.ReflTransGen
      (Stage.Step (running.engine.nested (running.engine.enter running.program.body depth)))
      (running.opening room call store)
      ⟨left, .perform (.lifecycle action kind argument) next, middle⟩) {fault : Fault}
    (failed : (Store.lifecycle
      (running.engine.nested (running.engine.enter running.program.body depth) left)
        kind action argument).on middle = (.error fault, final)) :
    (running.engine.enter running.program.body (depth + 1) room call).toHost.on store =
      (.error (fault.abort.withNotes (running.engine.notes call)).recover, final) := by
  rw [on_toHost_enter, Stage.run_eq_of_reaches reached, Stage.run_perform rfl, Store.execute,
    GuestRun.ofHost, Work.on_adapt, failed]
  rfl

end

/-- Where a call gets to a lifecycle function, the function does what the host would do itself on
the same store: the call goes on with the same answer and the same store, or fails with the same
fault, which the host sees as it leaves the call, and the same store. Only dropping may also run
out of the stack that the call has left. -/
theorem lifecycle_as_direct {depth room : Nat} (depthLe : depth ≤ running.engine.stack)
    (call : Call kinds) (store : Store kinds) {left : Nat} (leftLe : left ≤ running.engine.stack)
    {kind : Fin kinds} {action : Lifecycle} {argument : Word}
    {next : Word → Code kinds Word} {middle : Store kinds}
    (reached : Relation.ReflTransGen
      (Stage.Step (running.engine.nested (running.engine.enter running.program.body depth)))
      (running.opening room call store)
      ⟨left, .perform (.lifecycle action kind argument) next, middle⟩) :
    let seen :=
      (running.engine.enter running.program.body (depth + 1) room call).toHost.on store
    (action = .drop ∧ ∃ fault final, seen = (.error fault, final) ∧ fault.Exhausted) ∨
      match (running.direct kind action argument).on middle with
      | (.ok answer, final) =>
          Relation.ReflTransGen
            (Stage.Step (running.engine.nested (running.engine.enter running.program.body depth)))
            (running.opening room call store) ⟨left, next answer, final⟩
      | (.error fault, final) =>
          seen = (.error (fault.leaving (running.engine.notes call)), final) := by
  intro seen
  let enter := running.engine.nested (running.engine.enter running.program.body depth)
  rw [on_direct]
  rcases Store.lifecycle_as_nested (running.nested_follows_enter depthLe leftLe) kind action
    argument middle with ⟨drops, fault, final, failed, exhausted⟩ | ⟨same, direct⟩
  · refine .inl ⟨drops, _, final, on_toHost_enter_of_fault reached failed, ?_⟩
    exact (exhausted.abort.withNotes _).recover
  · right
    cases ending : (Store.lifecycle running.enter kind action argument).on middle with
    | mk outcome final =>
    rw [ending] at same direct
    cases outcome with
    | ok answer => exact reaches_answer reached same
    | error fault =>
        have seen_eq := on_toHost_enter_of_fault reached same
        rw [(direct fault rfl).recover_withNotes] at seen_eq
        exact seen_eq

/-- A guest that gives up the handle it gets, on the usual stack. Both this function and the
destructor take a frame of the same size. -/
def dropping (frame : Nat) : Instance 1 where
  program :=
    { functions := #[
        { signature := .words 1
          body := fun arguments => .perform (.enterFrame frame) fun _ =>
            .perform (.lifecycle .drop 0 (arguments.headD 0)) .done },
        { signature := .wordsToUnit 1
          body := fun _ => .perform (.enterFrame frame) fun _ => .done 0 }]
      imports := [Lifecycle.drop.hostFunction "canonical_abi" "cloudevent"]
      exports := [("give-up", .function 0), ("canonical_abi_drop_cloudevent", .function 1)] }
  engine := ({} : Configuration).engine

/-- A store with one resource under handle 0. -/
def oneParked : Store 1 where
  registries := #v[{
    name := "cloudevent"
    resources := #[{ representation := 5, references := 1, destroyed := false, destructor := 1 }]
    table := { slots := #[.occupied 0], head := 1, live := 1 }
    destructor := some 1 }]

theorem dropping_reaches (frame : Nat) (fits : frame ≤ 523264) :
    Relation.ReflTransGen
      (Stage.Step ((dropping frame).engine.nested
        ((dropping frame).engine.enter (dropping frame).program.body 523264)))
      ((dropping frame).opening 523264 { function := 0, arguments := [0] } oneParked)
      ⟨523264 - frame, .perform (.lifecycle .drop 0 0) .done,
        oneParked.note (.called { function := 0, arguments := [0] } true)⟩ :=
  .single (.perform (if_pos fits) rfl)

/-- With great frames the guest runs out of stack where the host, on the same store, does not. -/
theorem drop_ne_direct :
    Relation.ReflTransGen
        (Stage.Step ((dropping 300000).engine.nested
          ((dropping 300000).engine.enter (dropping 300000).program.body 523264)))
        ((dropping 300000).opening 523264 { function := 0, arguments := [0] } oneParked)
        ⟨223264, .perform (.lifecycle .drop 0 0) .done,
          oneParked.note (.called { function := 0, arguments := [0] } true)⟩ ∧
      (((dropping 300000).direct 0 .drop 0).on
        (oneParked.note (.called { function := 0, arguments := [0] } true))).1 = .ok 0 ∧
      (((dropping 300000).call 0 [0]).on oneParked).1 =
        .error (.engine (.note "in guest code" (.note "in guest code"
          (.failure "call stack exhausted")))) :=
  ⟨dropping_reaches 300000 (by decide), rfl, rfl⟩

/-- With small frames both sides succeed, and the guest goes on with what the host gets. -/
theorem lifecycle_as_direct_of_dropping :
    523264 ≤ (dropping 16).engine.stack ∧ 523248 ≤ (dropping 16).engine.stack ∧
      Relation.ReflTransGen
        (Stage.Step ((dropping 16).engine.nested
          ((dropping 16).engine.enter (dropping 16).program.body 523264)))
        ((dropping 16).opening 523264 { function := 0, arguments := [0] } oneParked)
        ⟨523248, .done 0, (((dropping 16).direct 0 .drop 0).on
          (oneParked.note (.called { function := 0, arguments := [0] } true))).2⟩ := by
  refine ⟨Nat.le_refl _, by decide, ?_⟩
  have answered : (((dropping 16).call 0 [0]).on oneParked).1 = .ok 0 := rfl
  rcases (dropping 16).lifecycle_as_direct (Nat.le_refl _) _ _ (by decide)
    (dropping_reaches 16 (by decide)) with ⟨-, fault, final, seen, -⟩ | goesOn
  · exact nomatch answered.symm.trans (congrArg Prod.fst seen)
  · exact goesOn

end Instance

end GuestBoundary
