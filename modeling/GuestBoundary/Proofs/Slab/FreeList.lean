import GuestBoundary.Proofs.Slab.Values

/-!
# The free list of a slab

Followed from its head, the free list is a chain of distinct slots, each of which names the next,
and it ends at the number of slots. The chain holds every free slot. Insertion takes the first
slot of the chain and removal puts one in front; the end of the chain moves only while the chain
is empty, so no free slot ever names an end that has passed.
-/

namespace GuestBoundary.Slab

variable {α : Type}

/-- The free list from `head` on goes through the slots of `chain` and ends at the number of
slots. -/
def Linked (slots : Array (Slot α)) : (head : Nat) → (chain : List Nat) → Prop
  | head, [] => head = slots.size
  | head, handle :: rest =>
      head = handle ∧ ∃ next, slots[handle]? = some (.free next) ∧ Linked slots next rest

/-- The free list of a slab is `chain`, and the values are counted right. -/
structure HasFreeList (slab : Slab α) (chain : List Nat) : Prop where
  linked : Linked slab.slots slab.head chain
  distinct : chain.Nodup
  complete : ∀ handle next, slab.slots[handle]? = some (.free next) → handle ∈ chain
  live_eq : slab.live = slab.values.length

theorem Linked.free_of_mem {slots : Array (Slot α)} {head : Nat} {chain : List Nat}
    (linked : Linked slots head chain) {handle : Nat} (membership : handle ∈ chain) :
    ∃ next, slots[handle]? = some (.free next) := by
  induction chain generalizing head with
  | nil => simp at membership
  | cons first rest inductionHypothesis =>
      obtain ⟨-, next, found, tail⟩ := linked
      rcases List.mem_cons.mp membership with equality | inRest
      · exact ⟨next, equality ▸ found⟩
      · exact inductionHypothesis tail inRest

theorem Linked.set_of_notMem {slots : Array (Slot α)} {head : Nat} {chain : List Nat}
    (linked : Linked slots head chain) {handle : Nat} (outside : handle ∉ chain)
    (slot : Slot α) : Linked (slots.setIfInBounds handle slot) head chain := by
  induction chain generalizing head with
  | nil => simpa [Linked] using linked
  | cons first rest inductionHypothesis =>
      obtain ⟨equality, next, found, tail⟩ := linked
      simp only [List.mem_cons, not_or] at outside
      refine ⟨equality, next, ?_, inductionHypothesis tail outside.2⟩
      rw [Array.getElem?_setIfInBounds_ne outside.1]
      exact found

theorem hasFreeList_empty : HasFreeList (∅ : Slab α) [] where
  linked := rfl
  distinct := List.nodup_nil
  complete := by
    intro handle next found
    change (#[] : Array (Slot α))[handle]? = _ at found
    simp at found
  live_eq := rfl

theorem HasFreeList.notMem_of_get? {slab : Slab α} {chain : List Nat}
    (freeList : slab.HasFreeList chain) {handle : Nat} {value : α}
    (found : slab.get? handle = some value) : handle ∉ chain := by
  intro membership
  obtain ⟨next, free⟩ := freeList.linked.free_of_mem membership
  simp [get?, free, Slot.value?] at found

theorem HasFreeList.mem_iff {slab : Slab α} {chain : List Nat}
    (freeList : slab.HasFreeList chain) (handle : Nat) :
    handle ∈ chain ↔ ∃ next, slab.slots[handle]? = some (.free next) := by
  constructor
  · exact freeList.linked.free_of_mem
  · rintro ⟨next, found⟩
    exact freeList.complete handle next found

/-- The free list begins with a free slot, unless it is at its end. -/
theorem HasFreeList.head_cases {slab : Slab α} {chain : List Nat}
    (freeList : slab.HasFreeList chain) :
    slab.head = slab.slots.size ∨ ∃ next, slab.slots[slab.head]? = some (.free next) := by
  cases chain with
  | nil => exact .inl freeList.linked
  | cons handle rest =>
      obtain ⟨same, next, found, -⟩ := freeList.linked
      exact .inr ⟨next, same ▸ found⟩

theorem insert_of_free {slab : Slab α} {next : Nat}
    (found : slab.slots[slab.head]? = some (.free next)) (value : α) :
    slab.insert value =
      (slab.head,
        { slots := slab.slots.setIfInBounds slab.head (.occupied value)
          head := next
          live := slab.live + 1 }) := by
  simp only [insert, found]

theorem insert_of_end {slab : Slab α} (atEnd : slab.head = slab.slots.size) (value : α) :
    slab.insert value =
      (slab.slots.size,
        { slots := slab.slots.push (.occupied value)
          head := slab.slots.size + 1
          live := slab.live + 1 }) := by
  simp [insert, atEnd]

/-- With a free slot, insertion takes the first one. -/
theorem HasFreeList.insert_cons {slab : Slab α} {handle : Nat} {rest : List Nat}
    (freeList : slab.HasFreeList (handle :: rest)) (value : α) :
    (slab.insert value).1 = handle ∧ (slab.insert value).2.HasFreeList rest ∧
      (slab.insert value).2.slots = slab.slots.setIfInBounds handle (.occupied value) := by
  obtain ⟨headEquality, next, found, tail⟩ := freeList.linked
  obtain ⟨outside, distinct⟩ := List.nodup_cons.mp freeList.distinct
  have inserted := insert_of_free (headEquality ▸ found) value
  rw [headEquality] at inserted
  have counted := (slab.values_insert_perm value).length_eq
  rw [inserted] at counted ⊢
  refine ⟨rfl, ?_, rfl⟩
  constructor
  · exact tail.set_of_notMem outside _
  · exact distinct
  · intro other otherNext free
    by_cases same : handle = other
    · subst same
      obtain ⟨inside, -⟩ := Array.getElem?_eq_some_iff.mp found
      simp [inside] at free
    · rw [Array.getElem?_setIfInBounds_ne same] at free
      rcases List.mem_cons.mp (freeList.complete other otherNext free) with equality | inRest
      · exact absurd equality.symm same
      · exact inRest
  · simpa [freeList.live_eq] using counted.symm

/-- Without a free slot, insertion adds one at the end. -/
theorem HasFreeList.insert_nil {slab : Slab α} (freeList : slab.HasFreeList [])
    (value : α) :
    (slab.insert value).1 = slab.slots.size ∧ (slab.insert value).2.HasFreeList [] ∧
      (slab.insert value).2.slots = slab.slots.push (.occupied value) := by
  have inserted := insert_of_end freeList.linked value
  have counted := (slab.values_insert_perm value).length_eq
  rw [inserted] at counted ⊢
  refine ⟨rfl, ?_, rfl⟩
  constructor
  · simp [Linked]
  · exact List.nodup_nil
  · intro other next free
    rw [Array.getElem?_push] at free
    split at free
    next => simp at free
    next => exact freeList.complete other next free
  · simpa [freeList.live_eq] using counted.symm

theorem HasFreeList.remove {slab rest : Slab α} {chain : List Nat} {handle : Nat} {value : α}
    (freeList : slab.HasFreeList chain)
    (removed : slab.remove? handle = some (value, rest)) :
    rest.HasFreeList (handle :: chain) ∧
      rest.slots = slab.slots.setIfInBounds handle (.free slab.head) := by
  have counted := (values_perm_of_remove? removed).length_eq
  unfold remove? at removed
  split at removed
  next => simp at removed
  next held found =>
    simp only [Option.some.injEq, Prod.mk.injEq] at removed
    obtain ⟨rfl, rfl⟩ := removed
    have outside := freeList.notMem_of_get? found
    obtain ⟨slot, present, -⟩ := Option.bind_eq_some_iff.mp found
    obtain ⟨inside, -⟩ := Array.getElem?_eq_some_iff.mp present
    refine ⟨?_, rfl⟩
    constructor
    · exact ⟨rfl, slab.head, by simp [inside], freeList.linked.set_of_notMem outside _⟩
    · exact List.nodup_cons.mpr ⟨outside, freeList.distinct⟩
    · intro other next free
      by_cases same : handle = other
      · exact List.mem_cons.mpr (.inl same.symm)
      · rw [Array.getElem?_setIfInBounds_ne same] at free
        exact List.mem_cons_of_mem _ (freeList.complete other next free)
    · have total := freeList.live_eq
      simp only [List.length_cons] at counted
      simp only
      omega

end GuestBoundary.Slab
