import GuestBoundary.Proofs.Parts
import GuestBoundary.Proofs.Slab.Growth
import GuestBoundary.Slab

/-!
# A slab never stops

Insertion relies on the free list to begin with a free slot or to be at its end. A slab with room
for its handles has such a free list whatever was done to it, because the end moves only while no
slot is free. So none of the operations that could stop does, whether sums without room stop or
wrap around, and they are the operations that answer everywhere. Draining a slab forgets its past;
only the slab at hand needs the room.
-/

namespace GuestBoundary

theorem Overflow.settle_of_lt (overflow : Overflow) {size result : Nat} {number : Int}
    (same : number = result) (fits : result < size) :
    overflow.settle size number = .ok result := by
  subst same
  have inside : 0 ≤ (result : Int) ∧ (result : Int) < size :=
    ⟨Int.natCast_nonneg result, Int.ofNat_lt.mpr fits⟩
  unfold settle
  rw [if_pos inside, Int.toNat_natCast]

namespace Slab

variable {α : Type} {slab : Slab α} {chain : List Nat} {overflow : Overflow}

/-- What a slab answers, and the slab afterwards, unless the operation stops. -/
def performOrStop (overflow : Overflow) (slab : Slab α) :
    SlabOperation α → Except SlabStop (SlabAnswer α × Slab α)
  | .insert value => do
      let (handle, grown) ← slab.putOrStop overflow value
      return (.handle handle.toNat, grown)
  | .remove handle => do
      match ← slab.takeOrStop overflow handle with
      | .ok (value, rest) => return (.value (.ok value), rest)
      | .error fault => return (.value (.error fault), slab)
  | operation => return slab.perform operation

def afterOrStop (overflow : Overflow) (slab : Slab α) (operations : List (SlabOperation α)) :
    Except SlabStop (Slab α) :=
  operations.foldlM
    (fun slab operation => return (← slab.performOrStop overflow operation).2) slab

/-! ### The values are counted right -/

theorem length_values (slab : Slab α) :
    slab.values.length = slab.slots.countP Slot.isOccupied := by
  rw [values, List.length_filterMap_eq_countP, ← Array.countP_toList]
  rfl

theorem HasFreeList.live_le (freeList : slab.HasFreeList chain) :
    slab.live ≤ slab.slots.size := by
  rw [freeList.live_eq, freeList.size_slots]
  exact Nat.le_add_right ..

theorem HasFreeList.live_pos (freeList : slab.HasFreeList chain) {handle : Nat} {value : α}
    (held : slab.get? handle = some value) : 0 < slab.live := by
  rw [freeList.live_eq]
  exact List.length_pos_of_mem ((slab.mem_values_iff value).mpr ⟨handle, held⟩)

/-! ### How many slots there are afterwards -/

theorem size_perform_remove (slab : Slab α) (handle : Word) :
    (slab.perform (.remove handle)).2.slots.size = slab.slots.size := by
  cases held : slab.get? handle.toNat with
  | none => simp only [perform, take, remove?, held]
  | some value => simp only [perform, take, remove?, held, Array.size_setIfInBounds]

theorem size_put_cases (slab : Slab α) (value : α) :
    (slab.put value).2.slots.size = slab.slots.size ∨
      (slab.put value).2.slots.size = slab.slots.size + 1 := by
  change (slab.insert value).2.slots.size = _ ∨ (slab.insert value).2.slots.size = _
  unfold insert
  split
  next => exact .inl Array.size_setIfInBounds
  next => exact .inr (Array.size_push _)

theorem size_perform_le (slab : Slab α) (operation : SlabOperation α) :
    (slab.perform operation).2.slots.size ≤ slab.slots.size + 1 := by
  cases operation with
  | insert value =>
      have grown := slab.size_put_cases value
      simp only [perform]
      omega
  | remove handle => exact (slab.size_perform_remove handle).trans_le (Nat.le_succ _)
  | drain => exact Nat.zero_le _
  | get | size | isEmpty => exact Nat.le_succ _

theorem size_le_perform (slab : Slab α) {operation : SlabOperation α}
    (keeps : operation ≠ .drain) :
    slab.slots.size ≤ (slab.perform operation).2.slots.size := by
  cases operation with
  | insert value =>
      have grown := slab.size_put_cases value
      simp only [perform]
      omega
  | remove handle => exact (slab.size_perform_remove handle).ge
  | drain => exact absurd rfl keeps
  | get | size | isEmpty => exact Nat.le_refl _

theorem size_of_putOrStop {value : α} {handle : Word} {grown : Slab α}
    (done : slab.putOrStop overflow value = .ok (handle, grown)) :
    grown.slots.size = (slab.put value).2.slots.size := by
  obtain ⟨live, -, done⟩ := Except.of_bind_eq_ok done
  split at done
  next atEnd =>
    obtain ⟨head, -, done⟩ := Except.of_bind_eq_ok done
    cases done
    simp only [put, insert_of_end atEnd]
  next =>
    split at done
    next => cases done
    next => cases done
    next next found =>
      cases done
      simp only [put, insert_of_free found]

theorem size_of_takeOrStop {handle : Word} {value : α} {rest : Slab α}
    (done : slab.takeOrStop overflow handle = .ok (.ok (value, rest))) :
    rest.slots.size = slab.slots.size := by
  unfold takeOrStop at done
  split at done
  next => cases done
  next => cases done
  next =>
    obtain ⟨live, -, done⟩ := Except.of_bind_eq_ok done
    cases done
    exact Array.size_setIfInBounds

/-- Also with numbers that wrapped around, a slab gets no other number of slots. -/
theorem size_of_performOrStop {operation : SlabOperation α} {answer : SlabAnswer α}
    {rest : Slab α} (done : slab.performOrStop overflow operation = .ok (answer, rest)) :
    rest.slots.size = (slab.perform operation).2.slots.size := by
  cases operation with
  | insert value =>
      obtain ⟨⟨handle, grown⟩, placed, done⟩ := Except.of_bind_eq_ok done
      cases done
      exact size_of_putOrStop placed
  | remove handle =>
      obtain ⟨outcome, taken, done⟩ := Except.of_bind_eq_ok done
      rw [slab.size_perform_remove]
      rcases outcome with fault | ⟨value, remaining⟩
      · cases done
        rfl
      · cases done
        exact size_of_takeOrStop taken
  | get | drain | size | isEmpty =>
      cases done
      rfl

/-! ### One operation -/

theorem HasFreeList.putOrStop_eq (freeList : slab.HasFreeList chain) (overflow : Overflow)
    (value : α) (fits : (slab.put value).2.slots.size < UInt32.size) :
    slab.putOrStop overflow value = .ok (slab.put value) := by
  have grown : (slab.put value).2.slots.size = max slab.slots.size (slab.values.length + 1) :=
    freeList.size_insert value
  have wide : UInt32.size ≤ UInt64.size := by decide
  have live : overflow.settle UInt64.size (slab.live + 1) = .ok (slab.live + 1) := by
    have counted := freeList.live_eq
    exact overflow.settle_of_lt rfl (by omega)
  rcases freeList.head_cases with atEnd | ⟨next, found⟩
  · have head : overflow.settle UInt32.size (slab.head + 1) = .ok (slab.head + 1) := by
      rw [put, insert_of_end atEnd, Array.size_push, ← atEnd] at fits
      exact overflow.settle_of_lt rfl fits
    rw [put, insert_of_end atEnd]
    simp only [putOrStop, live, if_pos atEnd, head]
    rw [atEnd]
    rfl
  · have inside : slab.head ≠ slab.slots.size :=
      Nat.ne_of_lt (Array.getElem?_eq_some_iff.mp found).1
    rw [put, insert_of_free found]
    simp only [putOrStop, live, if_neg inside, found]
    rfl

theorem HasFreeList.takeOrStop_eq (freeList : slab.HasFreeList chain) (overflow : Overflow)
    (handle : Word) (fits : slab.slots.size < UInt32.size) :
    slab.takeOrStop overflow handle = .ok (slab.take handle) := by
  unfold takeOrStop
  split
  next absent =>
    have free : slab.get? handle.toNat = none := by
      rw [Option.eq_none_iff_forall_ne_some]
      intro value held
      have present := (slab.get?_eq_some_iff ..).mp held
      simp [present, Slot.isOccupied, Slot.value?] at absent
    simp only [take, remove?, free]
    rfl
  next next found =>
    have occupied := (Option.filter_eq_some_iff.mp found).2
    simp [Slot.isOccupied, Slot.value?] at occupied
  next value found =>
    have held : slab.get? handle.toNat = some value :=
      (slab.get?_eq_some_iff ..).mpr (Option.filter_eq_some_iff.mp found).1
    have live : overflow.settle UInt64.size (slab.live - 1) = .ok (slab.live - 1) := by
      have used := freeList.live_pos held
      have counted := freeList.live_le
      have wide : UInt32.size ≤ UInt64.size := by decide
      exact overflow.settle_of_lt (by omega) (by omega)
    simp only [live, take, remove?, held]
    rfl

/-- With a free list and room for the handles, no operation stops. -/
theorem HasFreeList.performOrStop_eq (freeList : slab.HasFreeList chain) (overflow : Overflow)
    {operation : SlabOperation α} (fits : (slab.perform operation).2.slots.size < UInt32.size) :
    slab.performOrStop overflow operation = .ok (slab.perform operation) := by
  cases operation with
  | insert value =>
      rw [performOrStop, freeList.putOrStop_eq overflow value fits]
      rfl
  | remove handle =>
      rw [slab.size_perform_remove] at fits
      rw [performOrStop, freeList.takeOrStop_eq overflow handle fits, perform]
      cases slab.take handle <;> rfl
  | get | drain | size | isEmpty => rfl

/-! ### A whole history -/

theorem afterOrStop_append_singleton_eq_ok_iff {operations : List (SlabOperation α)}
    {operation : SlabOperation α} {rest : Slab α} :
    slab.afterOrStop overflow (operations ++ [operation]) = .ok rest ↔
      ∃ before answer, slab.afterOrStop overflow operations = .ok before ∧
        before.performOrStop overflow operation = .ok (answer, rest) := by
  simp only [afterOrStop, List.foldlM_append, List.foldlM_cons, List.foldlM_nil, bind_pure]
  constructor
  · intro done
    obtain ⟨before, reached, done⟩ := Except.of_bind_eq_ok done
    obtain ⟨⟨answer, final⟩, performed, done⟩ := Except.of_bind_eq_ok done
    cases done
    exact ⟨before, answer, reached, performed⟩
  · rintro ⟨before, answer, reached, performed⟩
    rw [reached]
    change performOrStop overflow before operation >>= _ = _
    rw [performed]
    rfl

theorem FitsWords.init {operations : List (SlabOperation α)} {operation : SlabOperation α}
    (fits : slab.FitsWords (operations ++ [operation])) : slab.FitsWords operations := by
  intro done membership
  have start : done <+: operations := (List.mem_inits _ _).mp membership
  exact fits done ((List.mem_inits _ _).mpr (start.trans (List.prefix_append ..)))

theorem FitsWords.last {operations : List (SlabOperation α)} (fits : slab.FitsWords operations) :
    (slab.after operations).slots.size < 2 ^ 32 - 1 :=
  fits operations ((List.mem_inits _ _).mpr List.prefix_rfl)

theorem afterOrStop_eq {operations : List (SlabOperation α)} (overflow : Overflow)
    (fits : (∅ : Slab α).FitsWords operations) :
    (∅ : Slab α).afterOrStop overflow operations = .ok ((∅ : Slab α).after operations) := by
  induction operations using List.reverseRecOn with
  | nil => rfl
  | append_singleton operations operation inductionHypothesis =>
      obtain ⟨chain, stack, represents⟩ := exists_represents operations
      have small := fits.last.trans_le (by decide : 2 ^ 32 - 1 ≤ UInt32.size)
      rw [after_append, after_singleton] at small ⊢
      exact afterOrStop_append_singleton_eq_ok_iff.mpr
        ⟨_, _, inductionHypothesis fits.init, represents.freeList.performOrStop_eq overflow small⟩

/-- A slab with room for its handles that is reached without a stop is the one that operations
lead to where they answer everywhere. -/
theorem eq_after_of_afterOrStop {operations : List (SlabOperation α)}
    (reached : (∅ : Slab α).afterOrStop overflow operations = .ok slab)
    (fits : slab.slots.size < UInt32.size) : slab = (∅ : Slab α).after operations := by
  induction operations using List.reverseRecOn generalizing slab with
  | nil => exact (Except.ok.inj reached).symm
  | append_singleton operations operation inductionHypothesis =>
      obtain ⟨before, answer, begun, performed⟩ :=
        afterOrStop_append_singleton_eq_ok_iff.mp reached
      have sized := size_of_performOrStop performed
      rw [after_append, after_singleton]
      by_cases drained : operation = .drain
      · -- However large the slab before was, nothing of it is left.
        subst drained
        cases performed
        rfl
      · have small : before.slots.size < UInt32.size :=
          (before.size_le_perform drained).trans_lt (sized ▸ fits)
        obtain rfl := inductionHypothesis begun small
        obtain ⟨chain, stack, represents⟩ := exists_represents operations
        rw [represents.freeList.performOrStop_eq overflow (sized ▸ fits)] at performed
        rw [Except.ok.inj performed]

/-- Operations that leave every slab on the way room for its handles do not stop. And whatever was
done to a slab that has this room, its free list goes from the head through every free slot once,
through no other slot, and ends at the number of slots; its values are counted right; and no
operation stops. -/
theorem free_list_intact (overflow : Overflow) (operations : List (SlabOperation α)) :
    ((∅ : Slab α).FitsWords operations →
        (∅ : Slab α).afterOrStop overflow operations = .ok ((∅ : Slab α).after operations)) ∧
      ∀ slab : Slab α, (∅ : Slab α).afterOrStop overflow operations = .ok slab →
        slab.slots.size < 2 ^ 32 - 1 →
          slab = (∅ : Slab α).after operations ∧
          (∃ chain, Linked slab.slots slab.head chain ∧ chain.Nodup ∧
            ∀ handle, handle ∈ chain ↔ ∃ next, slab.slots[handle]? = some (.free next)) ∧
          slab.live = slab.slots.countP Slot.isOccupied ∧
          ∀ operation,
            slab.performOrStop overflow operation = .ok (slab.perform operation) := by
  refine ⟨afterOrStop_eq overflow, fun slab reached fits => ?_⟩
  obtain rfl := eq_after_of_afterOrStop reached (fits.trans_le (by decide))
  obtain ⟨chain, stack, represents⟩ := exists_represents operations
  have freeList := represents.freeList
  refine ⟨rfl, ⟨chain, freeList.linked, freeList.distinct, freeList.mem_iff⟩,
    freeList.live_eq.trans (length_values _), fun operation => ?_⟩
  apply freeList.performOrStop_eq
  have grown := ((∅ : Slab α).after operations).size_perform_le operation
  simp only [UInt32.size]
  omega

/-- A slab with two free slots, after a drain, a failed removal, reuse and growth. -/
theorem free_list_intact_of_growth :
    let operations : List (SlabOperation Nat) :=
      [.insert 5, .remove 0, .drain, .insert 6, .insert 7, .remove 0, .remove 0, .remove 1,
        .insert 8, .insert 9, .insert 4, .get 2, .remove 0, .remove 2]
    let slab : Slab Nat := { slots := #[.free 3, .occupied 8, .free 0], head := 2, live := 1 }
    (∅ : Slab Nat).FitsWords operations ∧
      (∅ : Slab Nat).afterOrStop .wraps operations = .ok slab ∧
      slab.slots.size < 2 ^ 32 - 1 ∧
      slab = (∅ : Slab Nat).after operations ∧
      (∃ chain, Linked slab.slots slab.head chain ∧ chain.Nodup ∧
        ∀ handle, handle ∈ chain ↔ ∃ next, slab.slots[handle]? = some (.free next)) ∧
      slab.live = slab.slots.countP Slot.isOccupied ∧
      ∀ operation, slab.performOrStop .wraps operation = .ok (slab.perform operation) :=
  ⟨by decide, (free_list_intact .wraps _).1 (by decide), by decide,
    (free_list_intact .wraps _).2 _ (by decide) (by decide)⟩

end Slab

end GuestBoundary
