import GuestBoundary.Fault

/-!
# Work that may fail and can be watched

Guest code runs in the middle of the host's work and can look around. A watched value comes with
the moments at which somebody can look. The moments are only spoken of and never computed, so
watching costs nothing when the work is run.
-/

namespace GuestBoundary

/-- A value, and the moments at which somebody can look while it is worked out. -/
@[ext]
structure Watched (μ α : Type) where
  value : α
  seen : μ → Prop

namespace Watched

variable {μ ν α β : Type}

@[always_inline]
instance : Monad (Watched μ) where
  pure value := { value, seen := fun _ => False }
  bind first next :=
    { value := (next first.value).value
      seen := fun moment => first.seen moment ∨ (next first.value).seen moment }

instance : LawfulMonad (Watched μ) :=
  .mk' _ (fun _ => Watched.ext rfl (funext fun _ => or_false _))
    (fun _ _ => Watched.ext rfl (funext fun _ => false_or _))
    (fun _ _ _ => Watched.ext rfl (funext fun _ => propext or_assoc))

/-- Lets a moment be looked at. -/
@[inline]
def watch (moment : μ) : Watched μ Unit := { value := (), seen := (· = moment) }

/-- The same value where its moments are part of greater ones. -/
@[inline]
def embed (place : μ → ν) (watched : Watched μ α) : Watched ν α :=
  { value := watched.value
    seen := fun moment => ∃ inner, watched.seen inner ∧ place inner = moment }

@[simp]
theorem value_bind (first : Watched μ α) (next : α → Watched μ β) :
    (first >>= next).value = (next first.value).value := rfl

@[simp]
theorem seen_bind (first : Watched μ α) (next : α → Watched μ β) (moment : μ) :
    (first >>= next).seen moment ↔
      first.seen moment ∨ (next first.value).seen moment := Iff.rfl

end Watched

/-!
## Work

Work changes a state and may fail. What it did to the state before failing stays done: guest code
cannot be undone. Work also shows the states that it exposes on its way; an attempt is work that
fails with a fault.
-/

/-- Work on a state that may fail with an `ε`; the state survives the failure. -/
abbrev Work (ε σ : Type) := ExceptT ε (StateT σ (Watched σ))

/-- Work that may fail with a fault. -/
abbrev Attempt (σ : Type) := Work Fault σ

namespace Work

variable {ε δ σ α β : Type}

/-- The outcome and the final state, with the states shown on the way. -/
@[inline]
def watched (work : Work ε σ α) (state : σ) : Watched σ (Except ε α × σ) := work.run.run state

@[inline]
def on (work : Work ε σ α) (state : σ) : Except ε α × σ := (work.watched state).value

/-- Whether the work, begun in a state, shows a state before it ends. -/
def Shows (work : Work ε σ α) (state moment : σ) : Prop := (work.watched state).seen moment

/-- Shows the state as it is. -/
@[inline]
def expose : Work ε σ Unit := fun state => do
  Watched.watch state
  return (.ok (), state)

/-- The outcome as a value, so that what follows runs in any case. -/
def settle (work : Work ε σ α) : Work δ σ (Except ε α) := fun state => do
  let (outcome, state) ← work.watched state
  return (.ok outcome, state)

/-! ### Outcomes -/

@[simp]
theorem on_pure (value : α) (state : σ) :
    (pure value : Work ε σ α).on state = (.ok value, state) := rfl

@[simp]
theorem on_throw (failure : ε) (state : σ) :
    (throw failure : Work ε σ α).on state = (.error failure, state) := rfl

@[simp]
theorem on_get (state : σ) : (get : Work ε σ σ).on state = (.ok state, state) := rfl

@[simp]
theorem on_set (next state : σ) : (set next : Work ε σ Unit).on state = (.ok (), next) := rfl

@[simp]
theorem on_modify (change : σ → σ) (state : σ) :
    (modify change : Work ε σ Unit).on state = (.ok (), change state) := rfl

@[simp]
theorem on_expose (state : σ) : (expose : Work ε σ Unit).on state = (.ok (), state) := rfl

@[simp]
theorem on_settle (work : Work ε σ α) (state : σ) :
    (work.settle : Work δ σ _).on state = (.ok (work.on state).1, (work.on state).2) := rfl

@[simp]
theorem on_adapt (change : ε → δ) (work : Work ε σ α) (state : σ) :
    Work.on (ExceptT.adapt change work) state =
      ((work.on state).1.mapError change, (work.on state).2) := rfl

theorem on_bind (work : Work ε σ α) (next : α → Work ε σ β) (state : σ) :
    (work >>= next).on state =
      match work.on state with
      | (.ok value, state) => (next value).on state
      | (.error failure, state) => (.error failure, state) := by
  simp only [on, watched, bind, ExceptT.bind, ExceptT.run, ExceptT.mk, StateT.bind, StateT.run]
  rcases work state with ⟨⟨_ | _, _⟩, _⟩ <;> rfl

@[simp]
theorem on_discard (work : Work ε σ α) (state : σ) :
    Work.on (discard work) state = ((work.on state).1.map fun _ => (), (work.on state).2) := by
  change (work >>= fun _ => pure ()).on state = _
  rw [on_bind]
  rcases work.on state with ⟨_ | _, _⟩ <;> rfl

/-! ### States shown -/

@[simp]
theorem shows_pure (value : α) (state moment : σ) :
    ¬ (pure value : Work ε σ α).Shows state moment := id

@[simp]
theorem shows_throw (failure : ε) (state moment : σ) :
    ¬ (throw failure : Work ε σ α).Shows state moment := id

@[simp]
theorem shows_get (state moment : σ) : ¬ (get : Work ε σ σ).Shows state moment := by
  rintro (shown | shown) <;> exact shown

@[simp]
theorem shows_set (next state moment : σ) :
    ¬ (set next : Work ε σ Unit).Shows state moment := by
  rintro (shown | shown) <;> exact shown

@[simp]
theorem shows_modify (change : σ → σ) (state moment : σ) :
    ¬ (modify change : Work ε σ Unit).Shows state moment := by
  rintro (shown | shown) <;> exact shown

@[simp]
theorem shows_expose (state moment : σ) :
    (expose : Work ε σ Unit).Shows state moment ↔ moment = state := or_iff_left id

@[simp]
theorem shows_settle (work : Work ε σ α) (state moment : σ) :
    (work.settle : Work δ σ _).Shows state moment ↔ work.Shows state moment := or_iff_left id

@[simp]
theorem shows_adapt (change : ε → δ) (work : Work ε σ α) (state moment : σ) :
    Work.Shows (ExceptT.adapt change work) state moment ↔ work.Shows state moment :=
  or_iff_left id

/-- Work in two parts shows what its first part shows and, if that succeeds, what its second part
shows from there on. -/
theorem shows_bind (work : Work ε σ α) (next : α → Work ε σ β) (state moment : σ) :
    (work >>= next).Shows state moment ↔
      work.Shows state moment ∨
        ∃ value middle, work.on state = (.ok value, middle) ∧
          (next value).Shows middle moment := by
  simp only [Shows, on, watched, bind, ExceptT.bind, ExceptT.run, ExceptT.mk, StateT.bind,
    StateT.run]
  rcases work state with ⟨⟨failure | value, middle⟩, seen⟩
  · simp only [Prod.mk.injEq, reduceCtorEq, false_and, exists_false, or_false]
    exact or_iff_left id
  · simp only [Prod.mk.injEq, Except.ok.injEq, and_assoc, exists_and_left, exists_eq_left']
    rfl

@[simp]
theorem shows_discard (work : Work ε σ α) (state moment : σ) :
    Work.Shows (discard work) state moment ↔ work.Shows state moment := by
  change (work >>= fun _ => pure ()).Shows state moment ↔ _
  rw [shows_bind]
  simp

/-! ### First steps that show nothing -/

@[simp]
theorem on_get_bind (next : σ → Work ε σ α) (state : σ) :
    (get >>= next).on state = (next state).on state := rfl

@[simp]
theorem on_modify_bind (change : σ → σ) (next : Unit → Work ε σ α) (state : σ) :
    (modify change >>= next).on state = (next ()).on (change state) := rfl

@[simp]
theorem shows_get_bind (next : σ → Work ε σ α) (state moment : σ) :
    (get >>= next).Shows state moment ↔ (next state).Shows state moment := by
  simp [shows_bind, and_assoc]

@[simp]
theorem shows_modify_bind (change : σ → σ) (next : Unit → Work ε σ α) (state moment : σ) :
    (modify change >>= next).Shows state moment ↔ (next ()).Shows (change state) moment := by
  simp only [shows_bind, shows_modify, on_modify, false_or, Prod.mk.injEq, true_and,
    exists_eq_left']
  exact ⟨fun ⟨_, shown⟩ => shown, fun shown => ⟨(), shown⟩⟩

end Work

namespace Attempt

variable {σ α : Type}

/-- An attempt that only looks at the state. -/
def examine (view : σ → Except Fault α) : Attempt σ α := do
  match view (← get) with
  | .ok value => return value
  | .error fault => throw fault

def ofExcept : Except Fault α → Attempt σ α
  | .ok value => pure value
  | .error fault => throw fault

@[simp]
theorem on_ofExcept (result : Except Fault α) (state : σ) :
    (ofExcept result : Attempt σ α).on state = (result, state) := by
  cases result <;> rfl

@[simp]
theorem on_examine (view : σ → Except Fault α) (state : σ) :
    (examine view).on state = (view state, state) := by
  simp only [examine, Work.on_bind, Work.on_get]
  cases view state <;> rfl

@[simp]
theorem shows_ofExcept (result : Except Fault α) (state moment : σ) :
    ¬ (ofExcept result : Attempt σ α).Shows state moment := by
  cases result <;> exact id

@[simp]
theorem shows_examine (view : σ → Except Fault α) (state moment : σ) :
    ¬ (examine view).Shows state moment := by
  simp only [examine, Work.shows_bind, Work.shows_get, Work.on_get, false_or]
  rintro ⟨value, middle, -, shown⟩
  cases found : view value <;> simp [found] at shown

end Attempt

end GuestBoundary
