import Mathlib.Order.Bounds.Basic
import GuestBoundary.Proofs.Slab.Refinement

/-!
# When a slab grows

Each slot either holds a value or is on the free list, so the number of slots is the number of
values together with the length of the free list. An insertion thus leaves as many slots as there
were, or as many as there are values now, whichever is more. Over a whole history, a slab has as
many slots as it ever held values at once since it was last drained.
-/

namespace GuestBoundary.Slab

variable {α : Type}

/-- The handles in use and the free list share out the slots. -/
theorem HasFreeList.perm_range {slab : Slab α} {chain : List Nat}
    (freeList : slab.HasFreeList chain) :
    (slab.entries.map (·.1) ++ chain).Perm (List.range slab.slots.size) := by
  have used (handle : Nat) : handle ∈ slab.entries.map (·.1) ↔
      ∃ value, slab.get? handle = some value := by
    simp
  have ascending : (slab.entries.map (·.1)).Nodup :=
    List.pairwise_map.mpr (slab.pairwise_entries.imp Nat.ne_of_lt)
  have apart : (slab.entries.map (·.1)).Disjoint chain := by
    intro handle inUse inChain
    obtain ⟨value, found⟩ := (used handle).mp inUse
    exact freeList.notMem_of_get? found inChain
  rw [List.perm_ext_iff_of_nodup (ascending.append freeList.distinct apart) List.nodup_range]
  intro handle
  simp only [List.mem_append, used, freeList.mem_iff, get?_eq_some_iff, List.mem_range]
  constructor
  · rintro (⟨value, present⟩ | ⟨next, present⟩)
    · exact (Array.getElem?_eq_some_iff.mp present).1
    · exact (Array.getElem?_eq_some_iff.mp present).1
  · intro inside
    have present := Array.getElem?_eq_getElem inside
    cases slot : slab.slots[handle] with
    | free next => exact .inr ⟨next, slot ▸ present⟩
    | occupied value => exact .inl ⟨value, slot ▸ present⟩

theorem HasFreeList.size_slots {slab : Slab α} {chain : List Nat}
    (freeList : slab.HasFreeList chain) :
    slab.slots.size = slab.values.length + chain.length := by
  have counted := freeList.perm_range.length_eq
  rw [List.length_append, List.length_range, List.length_map] at counted
  rw [← counted, ← map_snd_entries, List.length_map]

theorem HasFreeList.eq_nil_iff {slab : Slab α} {chain : List Nat}
    (freeList : slab.HasFreeList chain) :
    chain = [] ↔ ∀ handle < slab.slots.size, (slab.get? handle).isSome := by
  simp only [Option.isSome_iff_exists, get?_eq_some_iff]
  constructor
  · rintro rfl handle inside
    have present := Array.getElem?_eq_getElem inside
    cases slot : slab.slots[handle] with
    | free next => exact nomatch freeList.complete handle next (slot ▸ present)
    | occupied value => exact ⟨value, slot ▸ present⟩
  · intro used
    cases chain with
    | nil => rfl
    | cons handle rest =>
        obtain ⟨next, free⟩ := freeList.linked.free_of_mem (List.mem_cons_self ..)
        obtain ⟨value, held⟩ := used handle (Array.getElem?_eq_some_iff.mp free).1
        exact nomatch free.symm.trans held

/-! ### One operation -/

/-- An insertion adds a slot only for a value that has none. -/
theorem HasFreeList.size_insert {slab : Slab α} {chain : List Nat}
    (freeList : slab.HasFreeList chain) (value : α) :
    (slab.insert value).2.slots.size = max slab.slots.size (slab.values.length + 1) := by
  have shared := freeList.size_slots
  cases chain with
  | nil =>
      obtain ⟨-, -, slots⟩ := freeList.insert_nil value
      rw [slots, Array.size_push, shared]
      simp
  | cons handle rest =>
      obtain ⟨-, -, slots⟩ := freeList.insert_cons value
      rw [slots, Array.size_setIfInBounds, shared]
      simp

theorem insert_fst_lt (slab : Slab α) (value : α) :
    (slab.insert value).1 < (slab.insert value).2.slots.size := by
  unfold insert
  split
  next next found =>
    obtain ⟨inside, -⟩ := Array.getElem?_eq_some_iff.mp found
    simpa using inside
  next => simp

/-- Unless it drains the slab, an operation adds slots only for values that have none. -/
theorem HasFreeList.size_perform {slab : Slab α} {chain : List Nat}
    (freeList : slab.HasFreeList chain) {operation : SlabOperation α}
    (keeps : operation ≠ .drain) :
    (slab.perform operation).2.slots.size =
      max slab.slots.size (slab.perform operation).2.values.length := by
  have shared := freeList.size_slots
  have unchanged : slab.slots.size = max slab.slots.size slab.values.length := by omega
  cases operation with
  | insert value =>
      have counted := (slab.values_insert_perm value).length_eq
      rw [List.length_cons] at counted
      change (slab.insert value).2.slots.size = max _ (slab.insert value).2.values.length
      rw [counted, freeList.size_insert]
  | remove handle =>
      cases removed : slab.remove? handle.toNat with
      | none => simpa [Slab.perform, take, removed] using unchanged
      | some taken =>
          obtain ⟨value, rest⟩ := taken
          have counted := (values_perm_of_remove? removed).length_eq
          rw [List.length_cons] at counted
          have slots := (freeList.remove removed).2
          simp only [Slab.perform, take, removed, slots, Array.size_setIfInBounds]
          omega
  | drain => exact absurd rfl keeps
  | get | size | isEmpty => exact unchanged

/-! ### A whole history -/

theorem after_drain (slab : Slab α) : slab.after [.drain] = ∅ :=
  rfl

@[simp]
theorem values_empty : (∅ : Slab α).values = [] :=
  rfl

/-- The numbers of values that a slab held at one time since it was created or, if that is later,
last drained. -/
def liveCounts (operations : List (SlabOperation α)) : Set Nat :=
  {count | ∃ done rest, done ++ rest = operations ∧ .drain ∉ rest ∧
    ((∅ : Slab α).after done).values.length = count}

theorem liveCounts_append_subset {operations more : List (SlabOperation α)}
    (keeps : .drain ∉ more) : liveCounts operations ⊆ liveCounts (operations ++ more) := by
  rintro count ⟨done, rest, rfl, undrained, counted⟩
  refine ⟨done, rest ++ more, (List.append_assoc ..).symm, ?_, counted⟩
  simp [undrained, keeps]

theorem mem_liveCounts_append_singleton (operations : List (SlabOperation α))
    (operation : SlabOperation α) (count : Nat) :
    count ∈ liveCounts (operations ++ [operation]) ↔
      count = ((∅ : Slab α).after (operations ++ [operation])).values.length ∨
        operation ≠ .drain ∧ count ∈ liveCounts operations := by
  constructor
  · rintro ⟨done, rest, split, undrained, rfl⟩
    induction rest using List.reverseRecOn with
    | nil =>
        rw [List.append_nil] at split
        exact .inl (by rw [split])
    | append_singleton middle last =>
        rw [← List.append_assoc] at split
        obtain ⟨before, same⟩ := List.append_inj' split rfl
        obtain rfl := List.singleton_inj.mp same
        simp only [List.mem_append, List.mem_singleton, not_or] at undrained
        exact .inr ⟨Ne.symm undrained.2, done, middle, before, undrained.1, rfl⟩
  · rintro (rfl | ⟨keeps, held⟩)
    · exact ⟨_, [], List.append_nil _, List.not_mem_nil, rfl⟩
    · exact liveCounts_append_subset (by simpa using keeps.symm) held

theorem isGreatest_liveCounts (operations : List (SlabOperation α)) :
    IsGreatest (liveCounts operations) ((∅ : Slab α).after operations).slots.size := by
  induction operations using List.reverseRecOn with
  | nil =>
      refine ⟨⟨[], [], rfl, List.not_mem_nil, rfl⟩, ?_⟩
      rintro count ⟨done, rest, split, -, rfl⟩
      obtain ⟨rfl, -⟩ := List.append_eq_nil_iff.mp split
      exact Nat.le_refl _
  | append_singleton operations operation inductionHypothesis =>
      by_cases drained : operation = .drain
      · -- A drain forgets the past: only the empty slab after it counts.
        subst drained
        have counts : liveCounts (operations ++ [.drain]) = {0} := by
          ext count
          simp [mem_liveCounts_append_singleton, after_append, after_drain]
        rw [counts, after_append, after_drain]
        exact isGreatest_singleton
      · obtain ⟨chain, stack, represents⟩ := exists_represents operations
        have counts : liveCounts (operations ++ [operation]) =
            Insert.insert ((∅ : Slab α).after (operations ++ [operation])).values.length
              (liveCounts operations) := by
          ext count
          simp [mem_liveCounts_append_singleton, drained]
        have grown := represents.freeList.size_perform drained
        rw [counts, after_append, after_singleton, grown, max_comm]
        exact inductionHypothesis.insert _

/-- A slab has as many slots as it held values at once, at most, since it was created or last
drained: an insertion adds a slot exactly when every slot is in use, and a handle is less than the
number of slots from its insertion until the slab is drained. -/
theorem slots_eq_peak (operations : List (SlabOperation α)) :
    IsGreatest (liveCounts operations) ((∅ : Slab α).after operations).slots.size ∧
      (∀ value,
        ((∅ : Slab α).after operations).slots.size <
            (((∅ : Slab α).after operations).put value).2.slots.size ↔
          ∀ handle < ((∅ : Slab α).after operations).slots.size,
            (((∅ : Slab α).after operations).get? handle).isSome) ∧
      ∀ done value rest, operations = done ++ .insert value :: rest → .drain ∉ rest →
        (((∅ : Slab α).after done).put value).1.toNat <
          ((∅ : Slab α).after operations).slots.size := by
  obtain ⟨chain, stack, represents⟩ := exists_represents operations
  refine ⟨isGreatest_liveCounts operations, fun value => ?_, ?_⟩
  · have shared := represents.freeList.size_slots
    have grown := represents.freeList.size_insert value
    rw [← represents.freeList.eq_nil_iff, ← List.length_eq_zero_iff]
    change _ < (Slab.insert _ value).2.slots.size ↔ _
    omega
  · rintro done value rest rfl undrained
    have inserted := ((∅ : Slab α).after done).insert_fst_lt value
    have narrowed : (((∅ : Slab α).after done).put value).1.toNat ≤
        (((∅ : Slab α).after done).insert value).1 := Nat.mod_le _ _
    have later := (isGreatest_liveCounts (done ++ [.insert value])).mono
      (isGreatest_liveCounts (done ++ [.insert value] ++ rest))
      (liveCounts_append_subset undrained)
    rw [after_append, after_singleton] at later
    rw [List.append_cons]
    exact (narrowed.trans_lt inserted).trans_le later

end GuestBoundary.Slab
