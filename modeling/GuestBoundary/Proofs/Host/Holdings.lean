import GuestBoundary.Host
import GuestBoundary.Proofs.Confinement

/-!
# The references that a host holds

A host's holdings are seen through one number for each resource: how many of its references the
host holds. One statement for each operation says how it ends and what it does to that number.
-/

namespace GuestBoundary

variable {kinds : Nat} {α β : Type}

namespace Host

/-- How many references to a resource the host holds. -/
def holdings (host : Host kinds) (reference : Reference kinds) : Nat :=
  (host.numbers reference.kind).count (some reference.identity)

/-- The host that holds one more reference, under the next number. -/
def enlist (reference : Reference kinds) : Host kinds → Host kinds :=
  onNumbers reference.kind (·.push (some reference.identity))

/-- The host with nothing under a number. -/
def withdraw (kind : Fin kinds) (number : Nat) : Host kinds → Host kinds :=
  onNumbers kind (·.setIfInBounds number none)

/-- The host with other contents of its store. -/
def withStore (store : Store kinds) (host : Host kinds) : Host kinds := { host with store }

theorem numbers_onNumbers (host : Host kinds) (kind other : Fin kinds)
    (change : Array (Option Nat) → Array (Option Nat)) :
    (host.onNumbers kind change).numbers other =
      if kind = other then change (host.numbers kind) else host.numbers other := by
  have stored : (host.onNumbers kind change).numbers other =
      (host.held.set kind (change (host.numbers kind)) kind.isLt)[other] := rfl
  rw [stored, Fin.getElem_fin, Vector.getElem_set]
  simp only [Fin.val_inj]
  rfl

@[simp]
theorem store_enlist (host : Host kinds) (reference : Reference kinds) :
    (host.enlist reference).store = host.store := rfl

@[simp]
theorem store_withdraw (host : Host kinds) (kind : Fin kinds) (number : Nat) :
    (host.withdraw kind number).store = host.store := rfl

@[simp]
theorem store_withStore (host : Host kinds) (store : Store kinds) :
    (host.withStore store).store = store := rfl

@[simp]
theorem leaked_enlist (host : Host kinds) (reference : Reference kinds) :
    (host.enlist reference).leaked = host.leaked := rfl

@[simp]
theorem leaked_withdraw (host : Host kinds) (kind : Fin kinds) (number : Nat) :
    (host.withdraw kind number).leaked = host.leaked := rfl

@[simp]
theorem leaked_withStore (host : Host kinds) (store : Store kinds) :
    (host.withStore store).leaked = host.leaked := rfl

@[simp]
theorem holdings_withStore (host : Host kinds) (store : Store kinds)
    (reference : Reference kinds) :
    (host.withStore store).holdings reference = host.holdings reference := rfl

theorem holdings_enlist (host : Host kinds) (enlisted reference : Reference kinds) :
    (host.enlist enlisted).holdings reference =
      host.holdings reference + if enlisted = reference then 1 else 0 := by
  obtain ⟨kind, identity⟩ := enlisted
  obtain ⟨otherKind, otherIdentity⟩ := reference
  simp only [holdings, enlist, numbers_onNumbers, Reference.mk.injEq]
  by_cases sameKind : kind = otherKind
  · subst sameKind
    simp [Array.count_push]
  · simp [sameKind]

theorem count_setIfInBounds_none {numbers : Array (Option Nat)} {number identity : Nat}
    (found : numbers[number]? = some (some identity)) (other : Nat) :
    numbers.count (some other) =
      (numbers.setIfInBounds number none).count (some other) +
        if identity = other then 1 else 0 := by
  obtain ⟨inside, content⟩ := Array.getElem?_eq_some_iff.mp found
  have counted := Array.boole_getElem_le_count (a := some other) inside
  rw [content] at counted
  rw [Array.setIfInBounds, dif_pos inside, Array.count_set, content]
  simp only [beq_iff_eq, Option.some.injEq, reduceCtorEq, if_false] at counted ⊢
  omega

theorem holdings_withdraw {host : Host kinds} {reference : Reference kinds} {number : Nat}
    (found : (host.numbers reference.kind)[number]? = some (some reference.identity))
    (other : Reference kinds) :
    host.holdings other =
      (host.withdraw reference.kind number).holdings other +
        if reference = other then 1 else 0 := by
  obtain ⟨kind, identity⟩ := reference
  obtain ⟨otherKind, otherIdentity⟩ := other
  simp only [holdings, withdraw, numbers_onNumbers, Reference.mk.injEq]
  by_cases sameKind : kind = otherKind
  · subst sameKind
    simpa using count_setIfInBounds_none found otherIdentity
  · simp [sameKind]

/-! ### Operations -/

variable {host : Host kinds} {shown : Host kinds → Prop} {failed : Refusal → Host kinds → Prop}

theorem on_attempt (work : Attempt (Store kinds) α) (host : Host kinds) :
    (attempt work).on host =
      ((work.on host.store).1.mapError Refusal.fault,
        host.withStore (work.on host.store).2) := rfl

theorem on_attempt_eq_error_iff {work : Attempt (Store kinds) α} {final : Host kinds}
    {refusal : Refusal} :
    (attempt work).on host = (.error refusal, final) ↔
      ∃ fault left, work.on host.store = (.error fault, left) ∧ .fault fault = refusal ∧
        host.withStore left = final := by
  rw [on_attempt]
  rcases work.on host.store with ⟨fault | value, left⟩
  · constructor
    · rintro ⟨⟩
      exact ⟨fault, left, rfl, rfl, rfl⟩
    · rintro ⟨_, _, ⟨⟩, rfl, rfl⟩
      rfl
  · constructor
    · rintro ⟨⟩
    · rintro ⟨_, _, ⟨⟩, _⟩

theorem shows_attempt (work : Attempt (Store kinds) α) (host moment : Host kinds) :
    (attempt work).Shows host moment ↔
      ∃ inner, work.Shows host.store inner ∧ host.withStore inner = moment := or_iff_left id

/-- Attempting work in two parts is attempting one part after the other. -/
theorem attempt_bind (work : Attempt (Store kinds) α) (next : α → Attempt (Store kinds) β) :
    attempt (work >>= next) = attempt work >>= fun value => attempt (next value) := by
  funext host
  apply Watched.ext
  · change (attempt (work >>= next)).on host =
      (attempt work >>= fun value => attempt (next value)).on host
    rw [Work.on_bind, on_attempt, on_attempt, Work.on_bind]
    rcases work.on host.store with ⟨fault | value, middle⟩ <;> rfl
  · funext moment
    apply propext
    change (attempt (work >>= next)).Shows host moment ↔
      (attempt work >>= fun value => attempt (next value)).Shows host moment
    rw [Work.shows_bind, shows_attempt, shows_attempt, on_attempt]
    constructor
    · rintro ⟨inner, shown, rfl⟩
      rcases (Work.shows_bind _ _ _ _).mp shown with first | ⟨value, middle, done, later⟩
      · exact .inl ⟨inner, first, rfl⟩
      · rw [done]
        exact .inr ⟨value, host.withStore middle, rfl,
          (shows_attempt _ _ _).mpr ⟨inner, later, rfl⟩⟩
    · rintro (⟨inner, first, rfl⟩ | ⟨value, after, done, later⟩)
      · exact ⟨inner, (Work.shows_bind _ _ _ _).mpr (.inl first), rfl⟩
      · obtain ⟨inner, shown, rfl⟩ := (shows_attempt _ _ _).mp later
        cases ended : work.on host.store with
        | mk outcome middle =>
        rw [ended] at done
        cases outcome with
        | error fault => cases done
        | ok found =>
            cases done
            exact ⟨inner, (Work.shows_bind _ _ _ _).mpr (.inr ⟨_, _, ended, shown⟩), rfl⟩

/-- What work on the store gets to, the host gets to by attempting it. -/
theorem attempt_reaches {work : Attempt (Store kinds) α} {part : Attempt (Store kinds) β}
    {host : Host kinds} {inside : Store kinds}
    (reaches : work.Reaches host.store part inside) :
    (attempt work).Reaches host (attempt part) (host.withStore inside) := by
  generalize start : host.store = state at reaches
  induction reaches generalizing host with
  | here work =>
      subst start
      exact .here _ host
  | first _ inductionHypothesis =>
      rw [attempt_bind]
      exact .first (inductionHypothesis start)
  | @later _ _ _ work next part state middle inside value done _ inductionHypothesis =>
      subst start
      rw [attempt_bind]
      have attempted : (attempt work).on host = (.ok value, host.withStore middle) := by
        rw [on_attempt, done]
        rfl
      have onwards := @inductionHypothesis (host.withStore middle) rfl
      exact .later attempted onwards

/-- Work on the store is work on the host that leaves the rest of it alone. -/
@[simp]
theorem ensures_attempt (work : Attempt (Store kinds) α) {done : α → Host kinds → Prop} :
    (attempt work).Ensures host shown done failed ↔
      work.Ensures host.store (fun moment => shown (host.withStore moment))
        (fun value final => done value (host.withStore final))
        (fun fault final => failed (.fault fault) (host.withStore final)) := by
  simp only [Work.Ensures, shows_attempt, on_attempt, forall_exists_index, and_imp]
  refine and_congr ⟨fun seen inner visible => seen _ inner visible rfl, ?_⟩ ?_
  · rintro seen _ inner visible rfl
    exact seen inner visible
  · rcases work.on host.store with ⟨fault | value, final⟩ <;> exact Iff.rfl

theorem reference_ensures {kind : Fin kinds} {number : Nat}
    {done : Reference kinds → Host kinds → Prop} (missing : failed .noReference host)
    (present : ∀ identity, (host.numbers kind)[number]? = some (some identity) →
      done { kind, identity } host) :
    (reference kind number).Ensures host shown done failed := by
  simp only [reference, Work.ensures_bind, Work.ensures_get]
  split
  next identity found => exact (Work.ensures_pure _).mpr (present identity found)
  next => exact (Work.ensures_throw _).mpr missing

theorem surrender_ensures {kind : Fin kinds} {number : Nat}
    {done : Reference kinds → Host kinds → Prop} (missing : failed .noReference host)
    (present : ∀ identity, (host.numbers kind)[number]? = some (some identity) →
      done { kind, identity } (host.withdraw kind number)) :
    (surrender kind number).Ensures host shown done failed := by
  simp only [surrender, Work.ensures_bind]
  apply reference_ensures missing
  intro identity found
  simp only [Work.ensures_modify, Work.ensures_pure]
  exact present identity found

@[simp]
theorem ensures_hold (reference : Reference kinds) {done : Nat → Host kinds → Prop} :
    (hold reference).Ensures host shown done failed ↔
      done (host.numbers reference.kind).size (host.enlist reference) := by
  simp [hold, enlist]

end Host

end GuestBoundary
