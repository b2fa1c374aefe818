import GuestBoundary.Attempt

/-!
# Work made of parts

Work gets to a part of itself once everything before that part has succeeded. If the part fails then
so does the work, in the same way and leaving the same state. What work shows, it may show in its
parts alone; and it may keep what a view shows of the state, whether it succeeds or fails.
-/

namespace GuestBoundary

namespace Except

variable {ε δ α β : Type}

/-- A first part that succeeded goes before the second one. -/
theorem of_bind_eq_ok {first : Except ε α} {next : α → Except ε β} {result : β}
    (done : first >>= next = .ok result) :
    ∃ value, first = .ok value ∧ next value = .ok result := by
  cases first with
  | error failure => cases done
  | ok value => exact ⟨value, rfl, done⟩

/-- Changing an answer makes up no failure. -/
theorem of_map_eq_error {outcome : Except ε α} {change : α → β} {failure : ε}
    (failed : outcome.map change = .error failure) : outcome = .error failure := by
  cases outcome with
  | error other => exact congrArg Except.error (Except.error.inj failed)
  | ok value => cases failed

/-- A changed failure was one before. -/
theorem of_mapError_eq_error {outcome : Except ε α} {change : ε → δ} {failure : δ}
    (failed : outcome.mapError change = .error failure) :
    ∃ earlier, outcome = .error earlier ∧ change earlier = failure := by
  cases outcome with
  | error earlier => exact ⟨earlier, rfl, Except.error.inj failed⟩
  | ok value => cases failed

end Except

namespace Work

variable {ι ε δ σ ν α β γ : Type}

/-- Work in two parts fails as one of them does. -/
theorem on_bind_eq_error_iff {work : Work ε σ α} {next : α → Work ε σ β} {state final : σ}
    {failure : ε} :
    (work >>= next).on state = (.error failure, final) ↔
      work.on state = (.error failure, final) ∨
        ∃ value middle, work.on state = (.ok value, middle) ∧
          (next value).on middle = (.error failure, final) := by
  rw [on_bind]
  rcases work.on state with ⟨earlier | value, middle⟩
  · simp
  · simp only [Prod.mk.injEq, reduceCtorEq, Except.ok.injEq, false_and, false_or]
    exact ⟨fun failed => ⟨value, middle, ⟨rfl, rfl⟩, failed⟩,
      fun ⟨_, _, ⟨same, there⟩, failed⟩ => same ▸ there ▸ failed⟩

/-- Work in two parts succeeds as its second part does after its first. -/
theorem on_bind_eq_ok_iff {work : Work ε σ α} {next : α → Work ε σ β} {state final : σ}
    {result : β} :
    (work >>= next).on state = (.ok result, final) ↔
      ∃ value middle, work.on state = (.ok value, middle) ∧
        (next value).on middle = (.ok result, final) := by
  rw [on_bind]
  rcases work.on state with ⟨earlier | value, middle⟩
  · simp
  · simp only [Prod.mk.injEq, Except.ok.injEq]
    exact ⟨fun succeeded => ⟨value, middle, ⟨rfl, rfl⟩, succeeded⟩,
      fun ⟨_, _, ⟨same, there⟩, succeeded⟩ => same ▸ there ▸ succeeded⟩

theorem on_adapt_eq_error_iff {change : ε → δ} {work : Work ε σ α} {state final : σ}
    {failure : δ} :
    Work.on (ExceptT.adapt change work) state = (.error failure, final) ↔
      ∃ earlier, work.on state = (.error earlier, final) ∧ change earlier = failure := by
  rw [on_adapt]
  rcases work.on state with ⟨earlier | value, left⟩
  · constructor
    · rintro ⟨⟩
      exact ⟨earlier, rfl, rfl⟩
    · rintro ⟨_, ⟨⟩, rfl⟩
      rfl
  · constructor
    · rintro ⟨⟩
    · rintro ⟨_, ⟨⟩, _⟩

/-- Work that is begun in a state gets to a part of itself, inside another state. -/
inductive Reaches : {α β : Type} → Work ε σ α → σ → Work ε σ β → σ → Prop where
  | here {α : Type} (work : Work ε σ α) (state : σ) : Reaches work state work state
  | first {α β γ : Type} {work : Work ε σ α} {next : α → Work ε σ γ} {part : Work ε σ β}
      {state inside : σ} (reaches : Reaches work state part inside) :
      Reaches (work >>= next) state part inside
  | later {α β γ : Type} {work : Work ε σ α} {next : α → Work ε σ γ} {part : Work ε σ β}
      {state middle inside : σ} {value : α} (done : work.on state = (.ok value, middle))
      (reaches : Reaches (next value) middle part inside) :
      Reaches (work >>= next) state part inside

namespace Reaches

variable {work : Work ε σ α} {part : Work ε σ β} {state inside : σ}

/-- A failure of a part is the failure of the work. -/
theorem on_eq_error (reaches : work.Reaches state part inside) {failure : ε} {final : σ}
    (failed : part.on inside = (.error failure, final)) :
    work.on state = (.error failure, final) := by
  induction reaches with
  | here => exact failed
  | first _ inductionHypothesis => rw [on_bind, inductionHypothesis failed]
  | later done _ inductionHypothesis =>
      rw [on_bind, done]
      exact inductionHypothesis failed

end Reaches

/-- Whatever the work shows, it shows in one of the parts that it gets to. -/
def Through (parts : ι → Work ε σ β) (work : Work ε σ α) : Prop :=
  ∀ state moment, work.Shows state moment →
    ∃ index inside, work.Reaches state (parts index) inside ∧ (parts index).Shows inside moment

namespace Through

variable {parts : ι → Work ε σ β}

theorem of_silent {work : Work ε σ α} (silent : ∀ state moment, ¬ work.Shows state moment) :
    work.Through parts := fun state moment shown => absurd shown (silent state moment)

theorem pure (value : α) : (Pure.pure value : Work ε σ α).Through parts :=
  of_silent (shows_pure value)

theorem throw (failure : ε) : (MonadExcept.throw failure : Work ε σ α).Through parts :=
  of_silent (shows_throw failure)

theorem get : (MonadState.get : Work ε σ σ).Through parts := of_silent shows_get

theorem modify (change : σ → σ) : (modify change : Work ε σ Unit).Through parts :=
  of_silent (shows_modify change)

theorem part (index : ι) : (parts index).Through parts :=
  fun state _ shown => ⟨index, state, .here _ _, shown⟩

theorem bind {work : Work ε σ α} {next : α → Work ε σ γ} (first : work.Through parts)
    (later : ∀ value, (next value).Through parts) : (work >>= next).Through parts := by
  intro state moment shown
  rcases (shows_bind _ _ _ _).mp shown with here | ⟨value, middle, done, here⟩
  · obtain ⟨index, inside, reaches, shown⟩ := first state moment here
    exact ⟨index, inside, reaches.first, shown⟩
  · obtain ⟨index, inside, reaches, shown⟩ := later value middle moment here
    exact ⟨index, inside, .later done reaches, shown⟩

theorem ite {condition : Prop} [Decidable condition] {first second : Work ε σ α}
    (ifSo : first.Through parts) (ifNot : second.Through parts) :
    (if condition then first else second).Through parts := by
  split
  next => exact ifSo
  next => exact ifNot

end Through

/-- What a view shows of the state is the same after the work, whether that succeeds or fails. -/
def Keeps (view : σ → ν) (work : Work ε σ α) : Prop :=
  ∀ state, view (work.on state).2 = view state

end Work

end GuestBoundary
