import Mathlib.Logic.Relation
import GuestBoundary.Proofs.Parts

/-!
# What work ensures

A statement about work speaks of three things: every state that it shows on its way, the value and
the state with which it ends, and the fault and the state with which it fails. The statement about
work in two parts is the one about its first part, with the one about the second part in place of
the end; so statements are worked out along the program.

Some changes of a state count as moves. Work is confined to them if every state that it shows, and
the one in which it ends or fails, comes about by moves, each later one from the earlier ones. What
it fails with was raised on the way, in a state that accounts for it. How work is put together is
said once; what its parts keep to, it keeps to.
-/

namespace GuestBoundary

open Relation

namespace Work

variable {ε δ σ α β : Type}

/-- Begun in a state, work shows only states that may be shown, and ends as `done` or `failed`
says. -/
def Ensures (work : Work ε σ α) (state : σ) (shown : σ → Prop) (done : α → σ → Prop)
    (failed : ε → σ → Prop) : Prop :=
  (∀ moment, work.Shows state moment → shown moment) ∧
    match work.on state with
    | (.ok value, final) => done value final
    | (.error failure, final) => failed failure final

variable {state : σ} {shown : σ → Prop} {done : α → σ → Prop} {failed : ε → σ → Prop}

theorem Ensures.imp {work : Work ε σ α} {shown' : σ → Prop} {done' : α → σ → Prop}
    {failed' : ε → σ → Prop} (ensured : work.Ensures state shown done failed)
    (ofShown : ∀ moment, shown moment → shown' moment)
    (ofDone : ∀ value final, done value final → done' value final)
    (ofFailed : ∀ failure final, failed failure final → failed' failure final) :
    work.Ensures state shown' done' failed' := by
  obtain ⟨seen, ending⟩ := ensured
  refine ⟨fun moment visible => ofShown moment (seen moment visible), ?_⟩
  generalize work.on state = outcome at ending ⊢
  rcases outcome with ⟨failure | value, final⟩
  · exact ofFailed failure final ending
  · exact ofDone value final ending

@[simp]
theorem ensures_pure (value : α) :
    (pure value : Work ε σ α).Ensures state shown done failed ↔ done value state := by
  simp [Ensures]

@[simp]
theorem ensures_throw (failure : ε) :
    (throw failure : Work ε σ α).Ensures state shown done failed ↔ failed failure state := by
  simp [Ensures]

@[simp]
theorem ensures_get {done : σ → σ → Prop} :
    (get : Work ε σ σ).Ensures state shown done failed ↔ done state state := by
  simp [Ensures]

@[simp]
theorem ensures_set (next : σ) {done : Unit → σ → Prop} :
    (set next : Work ε σ Unit).Ensures state shown done failed ↔ done () next := by
  simp [Ensures]

@[simp]
theorem ensures_modify (change : σ → σ) {done : Unit → σ → Prop} :
    (modify change : Work ε σ Unit).Ensures state shown done failed ↔
      done () (change state) := by
  simp [Ensures]

@[simp]
theorem ensures_bind (work : Work ε σ β) (next : β → Work ε σ α) :
    (work >>= next).Ensures state shown done failed ↔
      work.Ensures state shown
        (fun value middle => (next value).Ensures middle shown done failed) failed := by
  simp only [Ensures, shows_bind, on_bind]
  rcases work.on state with ⟨failure | value, middle⟩
  · simp
  · simp only [Prod.mk.injEq, Except.ok.injEq, and_assoc, exists_and_left, exists_eq_left',
      or_imp, forall_and]

@[simp]
theorem ensures_map (change : β → α) (work : Work ε σ β) :
    (change <$> work).Ensures state shown done failed ↔
      work.Ensures state shown (fun value => done (change value)) failed := by
  rw [← bind_pure_comp, ensures_bind]
  simp only [ensures_pure]

@[simp]
theorem ensures_discard (work : Work ε σ β) {done : Unit → σ → Prop} :
    Work.Ensures (discard work) state shown done failed ↔
      work.Ensures state shown (fun _ => done ()) failed := by
  simp only [Ensures, shows_discard, on_discard]
  rcases work.on state with ⟨failure | value, final⟩ <;> exact Iff.rfl

end Work

namespace Attempt

variable {σ α : Type} {state : σ} {shown : σ → Prop} {done : α → σ → Prop}
  {failed : Fault → σ → Prop}

@[simp]
theorem ensures_ofExcept (result : Except Fault α) :
    (ofExcept result : Attempt σ α).Ensures state shown done failed ↔
      match result with
      | .ok value => done value state
      | .error fault => failed fault state := by
  cases result <;> simp [Work.Ensures]

@[simp]
theorem ensures_examine (view : σ → Except Fault α) :
    (examine view).Ensures state shown done failed ↔
      match view state with
      | .ok value => done value state
      | .error fault => failed fault state := by
  simp only [Work.Ensures, shows_examine, on_examine, false_implies, implies_true, true_and]
  cases view state <;> exact Iff.rfl

end Attempt

namespace Work

variable {ε δ σ α β : Type}

/-- Work begun in a state shows nothing and makes only moves, counted from an origin at or before
its start; what it fails with is raised in the state that it leaves. -/
def Quiet (move : σ → σ → Prop) (raised : ε → σ → Prop) (work : Work ε σ α) (origin state : σ) :
    Prop :=
  work.Ensures state (fun _ => False) (fun _ => ReflTransGen move origin)
    fun failure final => ReflTransGen move origin final ∧ raised failure final

/-- Work begun in a state makes only moves, counted from an origin at or before its start. From each
state that it shows it makes moves to its end, and what it fails with is raised on the way. -/
structure Confined (move : σ → σ → Prop) (raised : ε → σ → Prop) (work : Work ε σ α)
    (origin state : σ) : Prop where
  final : ReflTransGen move origin (work.on state).2
  shown {moment : σ} : work.Shows state moment →
    ReflTransGen move origin moment ∧ ReflTransGen move moment (work.on state).2
  failing {failure : ε} : (work.on state).1 = .error failure →
    ∃ cause, ReflTransGen move origin cause ∧ ReflTransGen move cause (work.on state).2 ∧
      raised failure cause

section

variable {move : σ → σ → Prop} {raised : Fault → σ → Prop} {state : σ}

theorem quiet_ofExcept {result : Except Fault α}
    (raises : ∀ fault, result = .error fault → raised fault state) :
    (Attempt.ofExcept result : Attempt σ α).Quiet move raised state state := by
  rw [Quiet, Attempt.ensures_ofExcept]
  cases result with
  | ok value => exact .refl
  | error fault => exact ⟨.refl, raises fault rfl⟩

theorem quiet_examine {view : σ → Except Fault α}
    (raises : ∀ fault, view state = .error fault → raised fault state) :
    (Attempt.examine view).Quiet move raised state state := by
  rw [Quiet, Attempt.ensures_examine]
  cases found : view state with
  | ok value => exact .refl
  | error fault => exact ⟨.refl, raises fault found⟩

end

namespace Confined

variable {move : σ → σ → Prop} {raised : ε → σ → Prop} {origin state : σ}

theorem of_quiet {work : Work ε σ α} (quiet : work.Quiet move raised origin state) :
    work.Confined move raised origin state := by
  obtain ⟨silent, ending⟩ := quiet
  generalize ended : work.on state = outcome at ending
  rcases outcome with ⟨failure | value, final⟩
  · refine ⟨?_, fun visible => (silent _ visible).elim, fun failed => ?_⟩
    · rw [ended]
      exact ending.1
    · rw [ended] at failed ⊢
      cases failed
      exact ⟨final, ending.1, .refl, ending.2⟩
  · refine ⟨?_, fun visible => (silent _ visible).elim, fun failed => ?_⟩
    · rw [ended]
      exact ending
    · rw [ended] at failed
      cases failed

theorem of_moves {earlier : σ} {work : Work ε σ α} (moves : ReflTransGen move earlier origin)
    (confined : work.Confined move raised origin state) :
    work.Confined move raised earlier state where
  final := moves.trans confined.final
  shown visible := (confined.shown visible).imp_left moves.trans
  failing failed := (confined.failing failed).imp fun _ => And.imp_left moves.trans

theorem ensures {work : Work ε σ α} (confined : work.Confined move raised origin state) :
    work.Ensures state (ReflTransGen move origin) (fun _ => ReflTransGen move origin)
      fun _ => ReflTransGen move origin := by
  have final := confined.final
  refine ⟨fun moment visible => (confined.shown visible).1, ?_⟩
  generalize work.on state = outcome at final ⊢
  rcases outcome with ⟨failure | value, final⟩ <;> exact final

/-- Work that goes the way of other work, begun elsewhere, is confined as that is. -/
theorem of_course {work other : Work ε σ α} {begun : σ} (same : work.on state = other.on begun)
    (shows : ∀ moment, work.Shows state moment ↔ other.Shows begun moment)
    (confined : other.Confined move raised origin begun) :
    work.Confined move raised origin state where
  final := same ▸ confined.final
  shown visible := same ▸ confined.shown ((shows _).mp visible)
  failing failed := by
    rw [same] at failed ⊢
    exact confined.failing failed

/-- Fewer moves are moves, and failures that are accounted for in one way may be so in another. -/
theorem imp {work : Work ε σ α} {move' : σ → σ → Prop} {raised' : ε → σ → Prop}
    (confined : work.Confined move raised origin state)
    (ofMove : ∀ before after, move before after → move' before after)
    (ofRaised : ∀ failure cause, raised failure cause → raised' failure cause) :
    work.Confined move' raised' origin state := by
  have moves {before after : σ} (evolves : ReflTransGen move before after) :
      ReflTransGen move' before after := ReflTransGen.mono ofMove _ _ evolves
  exact {
    final := moves confined.final
    shown := fun visible => (confined.shown visible).imp moves moves
    failing := fun failed => (confined.failing failed).imp fun _ =>
      And.imp moves (And.imp moves (ofRaised _ _)) }

theorem pure (value : α) :
    (Pure.pure value : Work ε σ α).Confined move raised origin origin :=
  .of_quiet ((ensures_pure value).mpr .refl)

theorem throw {failure : ε} (raises : raised failure origin) :
    (MonadExcept.throw failure : Work ε σ α).Confined move raised origin origin :=
  .of_quiet ((ensures_throw failure).mpr ⟨.refl, raises⟩)

theorem modify {change : σ → σ} (moves : ReflTransGen move origin (change state)) :
    (modify change : Work ε σ Unit).Confined move raised origin state :=
  .of_quiet ((ensures_modify change).mpr moves)

/-- What comes after work that shows nothing may still be counted from where that work began. -/
theorem after {work : Work ε σ α} {next : α → Work ε σ β}
    (first : work.Ensures state (fun _ => False)
      (fun value middle => (next value).Confined move raised origin middle)
      fun failure final => ReflTransGen move origin final ∧ raised failure final) :
    (work >>= next).Confined move raised origin state := by
  obtain ⟨silent, ending⟩ := first
  have same (moment : σ) (visible : (work >>= next).Shows state moment) :
      ∃ value middle, work.on state = (.ok value, middle) ∧ (next value).Shows middle moment :=
    ((shows_bind work next state moment).mp visible).resolve_left (silent moment)
  generalize ended : work.on state = outcome at ending same
  have onward := on_bind work next state
  rw [ended] at onward
  rcases outcome with ⟨failure | value, middle⟩
  · refine ⟨?_, fun visible => ?_, fun failed => ?_⟩
    · rw [onward]
      exact ending.1
    · obtain ⟨_, _, ⟨⟩, _⟩ := same _ visible
    · rw [onward] at failed ⊢
      cases failed
      exact ⟨middle, ending.1, .refl, ending.2⟩
  · refine ⟨?_, fun visible => ?_, fun failed => ?_⟩
    · rw [onward]
      exact ending.final
    · obtain ⟨_, _, ⟨⟩, here⟩ := same _ visible
      rw [onward]
      exact ending.shown here
    · rw [onward] at failed ⊢
      exact ending.failing failed

theorem get {next : σ → Work ε σ α} (rest : (next state).Confined move raised origin state) :
    (MonadState.get >>= next).Confined move raised origin state :=
  .after (ensures_get.mpr rest)

theorem bind {work : Work ε σ α} {next : α → Work ε σ β}
    (first : work.Confined move raised origin state)
    (later : ∀ value middle, work.on state = (.ok value, middle) →
      (next value).Confined move raised middle middle) :
    (work >>= next).Confined move raised origin state := by
  have onward := on_bind work next state
  have visibly {moment : σ} := (shows_bind work next state moment).mp
  generalize ended : work.on state = outcome at onward visibly later
  obtain ⟨final, shown, failing⟩ := first
  rw [ended] at final shown failing
  rcases outcome with ⟨failure | value, middle⟩
  · refine ⟨onward ▸ final, fun visible => ?_, fun failed => ?_⟩
    · rcases visibly visible with early | ⟨_, _, ⟨⟩, _⟩
      exact onward ▸ shown early
    · rw [onward] at failed ⊢
      cases failed
      exact failing rfl
  · have rest := later value middle rfl
    refine ⟨onward ▸ final.trans rest.final, fun visible => ?_, fun failed => ?_⟩
    · rw [onward]
      rcases visibly visible with early | ⟨_, _, ⟨⟩, late⟩
      · exact (shown early).imp_right (·.trans rest.final)
      · exact (rest.shown late).imp_left final.trans
    · rw [onward] at failed ⊢
      exact (rest.failing failed).imp fun _ => And.imp_left final.trans

theorem expose {next : Unit → Work ε σ α}
    (rest : (next ()).Confined move raised origin origin) :
    (Work.expose >>= next).Confined move raised origin origin := by
  have exposed : (Work.expose : Work ε σ Unit).Confined move raised origin origin :=
    ⟨.refl, fun visible => (shows_expose _ _).mp visible ▸ ⟨.refl, .refl⟩, nofun⟩
  apply exposed.bind
  rintro _ _ ⟨⟩
  exact rest

/-- An outcome that is kept, and a failure among it that is reported in the end, was raised before
what follows. -/
theorem settle {work : Work ε σ α} {next : Except ε α → Work ε σ β}
    (first : work.Confined move raised origin state)
    (later : ∀ outcome middle, work.on state = (outcome, middle) →
      (next outcome).Confined move
        (fun failure cause => raised failure cause ∨ outcome = .error failure) middle middle) :
    (work.settle >>= next).Confined move raised origin state := by
  have rest := later _ _ rfl
  have onward : (work.settle >>= next).on state =
      (next (work.on state).1).on (work.on state).2 := by rw [on_bind, on_settle]
  refine ⟨onward ▸ first.final.trans rest.final, fun visible => ?_, fun failed => ?_⟩
  · rw [onward]
    rcases (shows_bind _ _ _ _).mp visible with early | ⟨_, _, ⟨⟩, late⟩
    · exact (first.shown ((shows_settle _ _ _).mp early)).imp_right (·.trans rest.final)
    · exact (rest.shown late).imp_left first.final.trans
  · rw [onward] at failed ⊢
    obtain ⟨cause, before, still, raises | earlier⟩ := rest.failing failed
    · exact ⟨cause, first.final.trans before, still, raises⟩
    · exact (first.failing earlier).imp fun _ =>
        And.imp_right (And.imp_left (·.trans rest.final))

theorem adapt {raisedInside : δ → σ → Prop} {change : δ → ε}
    (keeps : ∀ failure cause, raisedInside failure cause → raised (change failure) cause)
    {work : Work δ σ α} (confined : work.Confined move raisedInside origin state) :
    Work.Confined move raised (ExceptT.adapt change work) origin state where
  final := confined.final
  shown visible := confined.shown ((shows_adapt change work state _).mp visible)
  failing failed := by
    rw [on_adapt] at failed
    obtain ⟨earlier, inside, rfl⟩ := Except.of_mapError_eq_error failed
    exact (confined.failing inside).imp fun _ => And.imp_right (And.imp_right (keeps earlier _))

theorem discard {work : Work ε σ α} (confined : work.Confined move raised origin state) :
    Work.Confined move raised (Functor.discard work) origin state :=
  confined.bind fun _ _ _ => .pure ()

end Confined

/-! ### What work is made of -/

/-- How work begun in a state is put together: of steps that are quiet, and of visits. A visit may
be anything; what visits keep to and quiet steps do as well, the work keeps to. -/
inductive Made (move : σ → σ → Prop) (raised : ε → σ → Prop)
    (visit : (α : Type) → Work ε σ α → Prop) : {α : Type} → Work ε σ α → σ → Prop where
  | step {α : Type} {work : Work ε σ α} {state : σ}
      (quiet : work.Quiet move raised state state) : Made move raised visit work state
  | visit {α : Type} {work : Work ε σ α} (visits : visit α work) (state : σ) :
      Made move raised visit work state
  | bind {α β : Type} {work : Work ε σ α} {next : α → Work ε σ β} {state : σ}
      (first : Made move raised visit work state)
      (later : ∀ value middle, work.on state = (.ok value, middle) →
        Made move raised visit (next value) middle) :
      Made move raised visit (work >>= next) state

namespace Made

variable {ι : Type} {move : σ → σ → Prop} {raised : ε → σ → Prop}
  {visit : (α : Type) → Work ε σ α → Prop} {state : σ}

theorem pure (value : α) : (Pure.pure value : Work ε σ α).Made move raised visit state :=
  .step ((ensures_pure value).mpr .refl)

theorem get {next : σ → Work ε σ α} (rest : (next state).Made move raised visit state) :
    (MonadState.get >>= next).Made move raised visit state := by
  apply Made.bind (.step (ensures_get.mpr .refl))
  rintro _ _ ⟨⟩
  exact rest

/-- A failure ends the work; what would come next does not matter. -/
theorem throw_bind {failure : ε} {next : β → Work ε σ α} (raises : raised failure state) :
    (MonadExcept.throw failure >>= next).Made move raised visit state :=
  .bind (.step ((ensures_throw failure).mpr ⟨.refl, raises⟩)) nofun

theorem discard {work : Work ε σ α} (made : work.Made move raised visit state) :
    Work.Made move raised visit (Functor.discard work) state :=
  made.bind fun _ _ _ => .pure ()

/-- Fewer moves are moves, and failures that are accounted for in one way may be so in another. -/
theorem imp {work : Work ε σ α} {move' : σ → σ → Prop} {raised' : ε → σ → Prop}
    (made : work.Made move raised visit state)
    (ofMove : ∀ before after, move before after → move' before after)
    (ofRaised : ∀ failure cause, raised failure cause → raised' failure cause) :
    work.Made move' raised' visit state := by
  have moves {before after : σ} (evolves : ReflTransGen move before after) :
      ReflTransGen move' before after := ReflTransGen.mono ofMove _ _ evolves
  induction made with
  | step quiet =>
      exact .step (quiet.imp (fun _ => id) (fun _ _ => moves) fun _ _ =>
        And.imp moves (ofRaised _ _))
  | visit visits state => exact .visit visits state
  | bind _ _ first later => exact .bind first later

theorem confined {raised' : ε → σ → Prop} {work : Work ε σ α}
    (made : work.Made move raised visit state)
    (quietly : ∀ failure cause, raised failure cause → raised' failure cause)
    (visits : ∀ {α : Type} {work : Work ε σ α}, visit α work →
      ∀ state, work.Confined move raised' state state) :
    work.Confined move raised' state state := by
  induction made with
  | step quiet => exact (Confined.of_quiet quiet).imp (fun _ _ => id) quietly
  | visit visited state => exact visits visited state
  | bind _ _ first later => exact first.bind later

/-- What the work shows, it shows in one of its visits. -/
theorem through {parts : ι → Work ε σ β} {work : Work ε σ α}
    (made : work.Made move raised visit state)
    (visits : ∀ {α : Type} {work : Work ε σ α}, visit α work → work.Through parts) {moment : σ}
    (shown : work.Shows state moment) :
    ∃ index inside, work.Reaches state (parts index) inside ∧
      (parts index).Shows inside moment := by
  induction made with
  | step quiet => exact (quiet.1 moment shown).elim
  | visit visited state => exact visits visited state moment shown
  | bind _ _ first later =>
      rcases (shows_bind _ _ _ _).mp shown with early | ⟨value, middle, done, late⟩
      · obtain ⟨index, inside, reaches, visible⟩ := first early
        exact ⟨index, inside, reaches.first, visible⟩
      · obtain ⟨index, inside, reaches, visible⟩ := later value middle done late
        exact ⟨index, inside, .later done reaches, visible⟩

/-- What the work fails with, a quiet step or a visit failed with. -/
theorem fails {work : Work ε σ α} {expected : ε → Prop} (made : work.Made move raised visit state)
    (quietly : ∀ failure cause, raised failure cause → expected failure)
    (visits : ∀ {α : Type} {work : Work ε σ α}, visit α work →
      ∀ {state final failure}, work.on state = (.error failure, final) → expected failure)
    {final : σ} {failure : ε} (failed : work.on state = (.error failure, final)) :
    expected failure := by
  induction made with
  | step quiet =>
      have ending := quiet.2
      rw [failed] at ending
      exact quietly failure final ending.2
  | visit visited state => exact visits visited failed
  | bind _ _ first later =>
      rcases on_bind_eq_error_iff.mp failed with early | ⟨value, middle, done, late⟩
      · exact first early
      · exact later value middle done late

end Made

end Work

end GuestBoundary
