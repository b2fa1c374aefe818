import GuestBoundary.Proofs.Slab.Refinement

/-!
# Insertions and removals that undo each other

Removing the handle of the last insertion gives a slab that may have one slot more than before.
Its free list starts with that slot, which is the handle the old slab would have grown by: both
slabs stand for one map with one stack, and slabs that do so cannot be told apart. Removing a
value and inserting it again restores the slab itself.
-/

namespace GuestBoundary

variable {α : Type}

/-- Removing the handle of an insertion, if it was not in use, undoes the insertion. -/
theorem FreeStack.remove?_insert {stack : FreeStack α}
    (unused : stack.get? (stack.free 0) = none) (value : α) :
    (stack.insert value).2.remove? (stack.insert value).1 = some (value, stack) := by
  have held : (stack.insert value).2.get? (stack.insert value).1 = some value :=
    List.lookup_cons_self
  have others : (stack.insert value).2.values.filter (·.1 ≠ (stack.insert value).1) =
      stack.values := by
    change ((stack.free 0, value) :: stack.values).filter (·.1 ≠ stack.free 0) = _
    rw [List.filter_cons_of_neg (by simp), List.filter_eq_self]
    intro entry membership
    have different := List.lookup_eq_none_iff.mp unused entry membership
    exact decide_eq_true (Ne.symm (by simpa using different))
  have restored : push (stack.insert value).1 (stack.insert value).2.free = stack.free := by
    funext depth
    cases depth <;> rfl
  simp only [remove?, held, others, restored]

namespace Slab

namespace Represents

variable {slab other : Slab α} {chain otherChain : List Nat} {stack : FreeStack α}

/-- Slabs that stand for the same map with the same stack answer an operation alike. -/
theorem perform_congr (represents : slab.Represents chain stack)
    (otherRepresents : other.Represents otherChain stack) (operation : SlabOperation α) :
    (slab.perform operation).1 = (other.perform operation).1 := by
  cases operation with
  | insert value =>
      simp only [Slab.perform, put, (represents.insert value).1, (otherRepresents.insert value).1]
  | get handle =>
      simp only [Slab.perform, fetch, ← represents.get?_eq, ← otherRepresents.get?_eq]
  | remove handle =>
      rcases represents.remove handle.toNat with
        ⟨slabNone, stackNone⟩ | ⟨value, slabRest, stackRest, slabSome, stackSome, -⟩ <;>
      rcases otherRepresents.remove handle.toNat with
        ⟨otherNone, otherStack⟩ | ⟨otherValue, otherRest, _, otherSome, otherStack, -⟩
      · simp only [Slab.perform, take, slabNone, otherNone]
      · cases stackNone.symm.trans otherStack
      · cases stackSome.symm.trans otherStack
      · obtain ⟨rfl, rfl⟩ := Prod.mk.inj (Option.some.inj (stackSome.symm.trans otherStack))
        simp only [Slab.perform, take, slabSome, otherSome]
  | drain =>
      exact congrArg SlabAnswer.values (represents.drain_eq.trans otherRepresents.drain_eq.symm)
  | size | isEmpty =>
      simp only [Slab.perform, Slab.isEmpty, represents.size_eq, otherRepresents.size_eq]

theorem answers_congr (represents : slab.Represents chain stack)
    (otherRepresents : other.Represents otherChain stack) (operations : List (SlabOperation α)) :
    answers Slab.perform slab operations = answers Slab.perform other operations := by
  induction operations generalizing slab other chain otherChain stack with
  | nil => rfl
  | cons operation operations inductionHypothesis =>
      obtain ⟨_, after⟩ := represents.perform_snd operation
      obtain ⟨_, otherAfter⟩ := otherRepresents.perform_snd operation
      simp only [answers, represents.perform_congr otherRepresents operation,
        inductionHypothesis after otherAfter]

/-- Removing what was just inserted leaves a slab that stands for what the slab stood for. -/
theorem remove_insert (represents : slab.Represents chain stack) (value : α) :
    ∃ rest restChain, (slab.insert value).2.remove? (slab.insert value).1 = some (value, rest) ∧
      rest.Represents restChain stack := by
  obtain ⟨handle, grownChain, grown⟩ := represents.insert value
  have unused : stack.get? (stack.free 0) = none := by
    rw [represents.get?_eq, ← slab.get?_insert_fst value, handle]
    rfl
  have undone := FreeStack.remove?_insert unused value
  rw [← handle] at undone
  rcases grown.remove (slab.insert value).1 with
    ⟨-, none⟩ | ⟨removed, rest, stackRest, slabSome, stackSome, after⟩
  · exact nomatch none.symm.trans undone
  · obtain ⟨rfl, rfl⟩ := Prod.mk.inj (Option.some.inj (stackSome.symm.trans undone))
    exact ⟨rest, _, slabSome, after⟩

end Represents

/-- Inserting what was just removed restores the slab. -/
theorem HasFreeList.insert_of_remove? {slab rest : Slab α} {chain : List Nat} {handle : Nat}
    {value : α} (freeList : slab.HasFreeList chain)
    (removed : slab.remove? handle = some (value, rest)) :
    rest.insert value = (handle, slab) := by
  have counted := (values_perm_of_remove? removed).length_eq
  unfold remove? at removed
  split at removed
  next => exact nomatch removed
  next held found =>
    simp only [Option.some.injEq, Prod.mk.injEq] at removed
    obtain ⟨rfl, rfl⟩ := removed
    have present := (slab.get?_eq_some_iff handle held).mp found
    obtain ⟨inside, slot⟩ := Array.getElem?_eq_some_iff.mp present
    have live : slab.live - 1 + 1 = slab.live := by
      rw [freeList.live_eq, counted]
      simp
    have slots : (slab.slots.setIfInBounds handle (.free slab.head)).setIfInBounds handle
        slab.slots[handle] = slab.slots := by
      simp [Array.setIfInBounds, inside]
    simp only [insert, Array.getElem?_setIfInBounds_self_of_lt inside, live, ← slot, slots]

/-- An insertion and the removal of its handle together cannot be noticed, whatever the slab is
asked afterwards, and a removal is undone by inserting the value again. -/
theorem insertion_and_removal_cancel {slab : Slab α} (history : List (SlabOperation α))
    (reached : (∅ : Slab α).after history = slab) (fits : slab.slots.size < 2 ^ 32 - 1) :
    (∀ value, ∃ rest,
      (slab.put value).2.take (slab.put value).1 = .ok (value, rest) ∧
        ∀ further, answers perform rest further = answers perform slab further) ∧
      ∀ handle value, slab.fetch handle = .ok value →
        ∃ rest, slab.take handle = .ok (value, rest) ∧ rest.put value = (handle, slab) := by
  obtain ⟨chain, stack, represents⟩ := exists_represents history
  rw [reached] at represents
  refine ⟨fun value => ?_, fun handle value held => ?_⟩
  · obtain ⟨rest, restChain, removed, after⟩ := represents.remove_insert value
    have small : (slab.insert value).1 < 2 ^ 32 := by
      have := slab.insert_fst_le value
      omega
    have same : (slab.put value).1.toNat = (slab.insert value).1 :=
      UInt32.toNat_ofNat_of_lt' small
    refine ⟨rest, ?_, after.answers_congr represents⟩
    rw [take_eq_ok_iff, same]
    exact removed
  · obtain ⟨rest, taken⟩ := exists_take_of_get? ((fetch_eq_ok_iff ..).mp held)
    have restored := represents.freeList.insert_of_remove? ((take_eq_ok_iff ..).mp taken)
    exact ⟨rest, taken, by simp [put, restored]⟩

/-- A full slab, which an insertion makes grow and a removal leaves with one slot more. -/
theorem insertion_and_removal_cancel_of_full :
    let slab : Slab Nat := (∅ : Slab Nat).after [.insert 5, .insert 7, .remove 0, .insert 8]
    let grown := (slab.put 9).2
    slab.slots.size < 2 ^ 32 - 1 ∧ slab.slots.size < grown.slots.size ∧
      (∃ rest, grown.take (slab.put 9).1 = .ok (9, rest) ∧
        ∀ further, answers perform rest further = answers perform slab further) ∧
      ∃ rest, slab.take 0 = .ok (8, rest) ∧ rest.put 8 = (0, slab) :=
  ⟨by decide, by decide,
    (insertion_and_removal_cancel _ rfl (by decide)).1 9,
    (insertion_and_removal_cancel _ rfl (by decide)).2 0 8 rfl⟩

end Slab

end GuestBoundary
