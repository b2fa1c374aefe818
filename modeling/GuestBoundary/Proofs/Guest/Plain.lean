import GuestBoundary.Engine
import GuestBoundary.Proofs.Resource.Guarding

/-!
# Code that leaves handles alone

Code that performs no lifecycle function sees of a store only what is the guest's own. Run on two
stores that agree on this it does the same to both, and everything else in them stays as it is. So
a destructor of this kind ends in the same way whatever is in the table.
-/

namespace GuestBoundary

variable {kinds : Nat} {ε δ α β : Type}

/-- Code that performs no lifecycle function. -/
inductive Code.Plain : Code kinds α → Prop where
  | done (value : α) : Plain (.done value)
  | trap (reason : String) : Plain (.trap reason)
  | perform {command : Command kinds} {next : command.Answer → Code kinds α}
      (own : ∀ action kind argument, command ≠ .lifecycle action kind argument)
      (rest : ∀ answer, Plain (next answer)) : Plain (.perform command next)

/-- The guest finds the same in both stores of what is its own. -/
structure Store.Alike (store other : Store kinds) : Prop where
  memory : other.memory = store.memory
  globals : other.globals = store.globals
  memoryLimit : other.memoryLimit = store.memoryLimit

/-- Work that depends on what is the guest's own, and changes nothing else. -/
def Work.Inward (work : Work ε (Store kinds) α) : Prop :=
  ∀ store other : Store kinds, store.Alike other → ∃ outcome memory globals,
    work.on store = (outcome, { store with memory, globals }) ∧
      work.on other = (outcome, { other with memory, globals })

namespace Work.Inward

theorem pure (value : α) : (Pure.pure value : Work ε (Store kinds) α).Inward :=
  fun store _ alike => ⟨.ok value, store.memory, store.globals, rfl, by
    rw [← alike.memory, ← alike.globals]
    rfl⟩

theorem throw (failure : ε) : (MonadExcept.throw failure : Work ε (Store kinds) α).Inward :=
  fun store _ alike => ⟨.error failure, store.memory, store.globals, rfl, by
    rw [← alike.memory, ← alike.globals]
    rfl⟩

theorem ite {condition : Prop} [Decidable condition] {first second : Work ε (Store kinds) α}
    (ifSo : first.Inward) (ifNot : second.Inward) :
    (if condition then first else second).Inward := by
  split
  next => exact ifSo
  next => exact ifNot

/-- What is decided by the guest's own may be looked at. -/
theorem get {next : Store kinds → Work ε (Store kinds) α}
    (same : ∀ store other : Store kinds, store.Alike other → next other = next store)
    (later : ∀ store, (next store).Inward) : (MonadState.get >>= next).Inward := by
  intro store other alike
  rw [on_get_bind, on_get_bind, same store other alike]
  exact later store store other alike

theorem modify (change : Bytes → Array Word → Bytes × Array Word) :
    (modify fun store => { store with
      memory := (change store.memory store.globals).1
      globals := (change store.memory store.globals).2 } : Work ε (Store kinds) Unit).Inward := by
  intro store other alike
  rw [on_modify, on_modify, alike.memory, alike.globals]
  exact ⟨_, _, _, rfl, rfl⟩

theorem bind {work : Work ε (Store kinds) α} {next : α → Work ε (Store kinds) β}
    (first : work.Inward) (later : ∀ value, (next value).Inward) : (work >>= next).Inward := by
  intro store other alike
  obtain ⟨outcome, memory, globals, here, there⟩ := first store other alike
  rw [on_bind, on_bind, here, there]
  cases outcome with
  | error failure => exact ⟨.error failure, memory, globals, rfl, rfl⟩
  | ok value =>
      exact later value { store with memory, globals } { other with memory, globals }
        ⟨rfl, rfl, alike.memoryLimit⟩

theorem adapt {work : Work δ (Store kinds) α} (change : δ → ε) (inward : work.Inward) :
    Work.Inward (ExceptT.adapt change work) := by
  intro store other alike
  obtain ⟨outcome, memory, globals, here, there⟩ := inward store other alike
  rw [on_adapt, on_adapt, here, there]
  exact ⟨outcome.mapError change, memory, globals, rfl, rfl⟩

end Work.Inward

namespace Store

theorem trap_inward (reason : String) : (trap reason : GuestRun kinds α).Inward := .throw _

theorem Alike.grown? {store other : Store kinds} (alike : store.Alike other) (pages : Nat) :
    other.grown? pages = store.grown? pages := by
  simp only [Store.grown?, alike.memory, alike.memoryLimit]

theorem execute_inward {enter : Entry kinds} {command : Command kinds}
    (own : ∀ action kind argument, command ≠ .lifecycle action kind argument) :
    (execute enter command).Inward := by
  cases command with
  | read address length =>
      refine .get (fun store other alike => by rw [alike.memory]) fun store => ?_
      exact .ite (.pure _) (trap_inward _)
  | write address data =>
      refine .get (fun store other alike => by rw [alike.memory]) fun store => ?_
      exact .ite (.modify fun memory globals => (memory.write address data, globals))
        (trap_inward _)
  | copy target source length =>
      refine .get (fun store other alike => by rw [alike.memory]) fun store => ?_
      exact .ite (.modify fun memory globals => (memory.copy target source length, globals))
        (trap_inward _)
  | pages => exact .get (fun store other alike => by rw [alike.memory]) fun store => .pure _
  | grow pages =>
      intro store other alike
      rw [execute, Work.on_get_bind, Work.on_get_bind, alike.grown?]
      cases store.grown? pages.toNat with
      | some memory =>
          refine ⟨_, memory, store.globals, rfl, ?_⟩
          rw [← alike.globals, ← alike.memory]
          rfl
      | none => exact Work.Inward.pure _ store other alike
  | readGlobal index =>
      exact .get (fun store other alike => by rw [alike.globals]) fun store => .pure _
  | writeGlobal index value =>
      exact .modify fun memory globals => (memory, globals.setIfInBounds index value)
  | lifecycle action kind argument => exact absurd rfl (own action kind argument)
  | enterFrame size => exact .pure _
  | leaveFrame size => exact .pure _

end Store

theorem Work.expose_inward : (Work.expose : Work ε (Store kinds) Unit).Inward :=
  fun store other alike => Work.Inward.pure () store other alike

/-- Plain code does the same to every store that looks the same to the guest. -/
theorem Code.Plain.run {code : Code kinds α} (plain : code.Plain)
    (enter : (room : Nat) → Entry kinds) (room : Nat) : (code.run enter room).Inward := by
  induction plain generalizing room with
  | done value => exact Work.expose_inward.bind fun _ => .pure value
  | trap reason => exact Work.expose_inward.bind fun _ => Store.trap_inward reason
  | perform own rest inductionHypothesis =>
      rw [Code.run]
      apply Work.expose_inward.bind
      intro _
      split
      next after _ =>
          exact (Store.execute_inward own).bind fun answer => inductionHypothesis answer after
      next => exact Store.trap_inward _

/-! ### Releases -/

namespace Instance

variable (running : Instance kinds)

/-- A call that runs plain code is noted, and then does the same to every store that looks the same
to the guest. -/
theorem enter_of_plain {call : Call kinds}
    (plain : (running.program.body call.function call.arguments).Plain) {store other : Store kinds}
    (alike : store.Alike other) : ∃ outcome memory globals,
      (running.enter call).on store =
          (outcome, { store.note (.called call true) with memory, globals }) ∧
        (running.enter call).on other =
          (outcome, { other.note (.called call true) with memory, globals }) := by
  have inward := (plain.run (running.engine.nested
    (running.engine.enter running.program.body running.engine.stack))
      running.engine.stack).adapt (Abort.withNotes (running.engine.notes call))
  have noted : (store.note (.called call true)).Alike (other.note (.called call true)) :=
    ⟨alike.memory, alike.globals, alike.memoryLimit⟩
  exact inward _ _ noted

end Instance

namespace Store

/-- Two stores that differ at most in their tables, their logs and what is in flight. -/
structure Twin (store other : Store kinds) : Prop extends store.Alike other where
  resources : ∀ reference, other.resource reference = store.resource reference
  names : ∀ kind, (other.registry kind).name = (store.registry kind).name

theorem table_giveBack (store : Store kinds) (entered : Bool) (reference : Reference kinds)
    (kind : Fin kinds) :
    ((store.giveBack entered reference).registry kind).table = (store.registry kind).table := by
  unfold giveBack
  split <;> exact table_book store reference kind

theorem inside_giveBack (store : Store kinds) (entered : Bool) (reference : Reference kinds) :
    (store.giveBack entered reference).memory = store.memory ∧
      (store.giveBack entered reference).globals = store.globals ∧
        (store.giveBack entered reference).memoryLimit = store.memoryLimit := by
  unfold giveBack
  split <;> exact ⟨rfl, rfl, rfl⟩

theorem eq_of_verdict_last {store : Store kinds} {reference : Reference kinds} {call : Call kinds}
    (last : store.verdict reference = .last call) :
    call = (store.resource reference).destructorCall reference := by
  unfold verdict Resource.verdict at last
  split at last
  next => exact nomatch last
  next =>
      split at last
      next => exact (Verdict.last.inj last).symm
      next => exact nomatch last

/-- Whether a resource is destroyed by plain code. -/
def PlainlyDestroyed (running : Instance kinds) (store : Store kinds)
    (reference : Reference kinds) : Prop :=
  (running.program.body (store.resource reference).destructor
    [(store.resource reference).representation]).Plain

/-- How a resource is destroyed was settled when it was wrapped. -/
theorem body_eq_of_same {running : Instance kinds} {store other : Store kinds}
    {reference : Reference kinds}
    (same : (other.resource reference).original = (store.resource reference).original) :
    running.program.body (other.resource reference).destructor
        [(other.resource reference).representation] =
      running.program.body (store.resource reference).destructor
        [(store.resource reference).representation] := by
  have destructor := congrArg Resource.destructor same
  have representation := congrArg Resource.representation same
  dsimp only [Resource.original] at destructor representation
  rw [destructor, representation]

theorem PlainlyDestroyed.of_same {running : Instance kinds} {store other : Store kinds}
    {reference : Reference kinds} (plain : store.PlainlyDestroyed running reference)
    (same : (other.resource reference).original = (store.resource reference).original) :
    other.PlainlyDestroyed running reference := by
  rw [PlainlyDestroyed, body_eq_of_same same]
  exact plain

theorem original_giveBack (store : Store kinds) (entered : Bool)
    (reference other : Reference kinds) :
    ((store.giveBack entered reference).resource other).original =
      (store.resource other).original := by
  rw [resource_giveBack]
  split
  next same => rw [Resource.original_released, same]
  next => rfl

namespace Twin

variable {store other : Store kinds}

theorem withTable_land (twin : store.Twin other) (kind : Fin kinds) (table : Slab Nat)
    (reference : Reference kinds) : (store.withTable kind table).Twin (other.land reference) where
  memory := twin.memory
  globals := twin.globals
  memoryLimit := twin.memoryLimit
  resources record := by
    rw [resource_withTable]
    exact twin.resources record
  names other := (twin.names other).trans (store.name_withTable kind other table).symm

theorem giveBack (twin : store.Twin other) (reference : Reference kinds) (memory : Bytes)
    (globals : Array Word) :
    { store.giveBack true reference with memory, globals }.Twin
      { other.giveBack true reference with memory, globals } where
  memory := rfl
  globals := rfl
  memoryLimit := by
    rw [(inside_giveBack store true reference).2.2, (inside_giveBack other true reference).2.2,
      twin.memoryLimit]
  resources record := by
    have here := store.resource_giveBack true reference record
    have there := other.resource_giveBack true reference record
    rw [twin.resources, twin.resources] at there
    exact there.trans here.symm
  names kind := by
    have here := store.name_giveBack true reference kind
    have there := other.name_giveBack true reference kind
    exact there.trans ((twin.names kind).trans here.symm)

/-- A plain destructor leaves all tables alone, and ends in the same way whatever is in them. -/
theorem release (twin : store.Twin other) (running : Instance kinds) {reference : Reference kinds}
    (plain : store.PlainlyDestroyed running reference) : ∃ outcome memory globals,
      (Store.release running.enter reference).on store =
          (outcome, { store.giveBack true reference with memory, globals }) ∧
        (Store.release running.enter reference).on other =
          (outcome, { other.giveBack true reference with memory, globals }) := by
  have verdict : other.verdict reference = store.verdict reference := by
    rw [Store.verdict, Store.verdict, twin.resources]
  have alike : (store.book reference).Alike (other.book reference) :=
    ⟨twin.memory, twin.globals, twin.memoryLimit⟩
  rw [on_release, on_release, consequence, consequence, verdict, twin.names, twin.resources,
    Store.giveBack, Store.giveBack, verdict]
  cases decided : store.verdict reference with
  | refused => exact Work.Inward.throw _ _ _ alike
  | shared => exact Work.Inward.pure _ _ _ alike
  | last call =>
      have called : (running.program.body call.function call.arguments).Plain := by
        rw [eq_of_verdict_last decided]
        exact plain
      obtain ⟨outcome, memory, globals, here, there⟩ := running.enter_of_plain called alike
      dsimp only [GuestRun.toHost]
      rw [Work.on_discard, Work.on_discard, Work.on_adapt, Work.on_adapt, here, there]
      exact ⟨_, memory, globals, rfl, rfl⟩

end Twin

end Store

end GuestBoundary
