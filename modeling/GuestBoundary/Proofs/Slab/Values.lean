import GuestBoundary.Slab

/-!
# The values of a slab

Inserting adds one value to a slab and removing takes one away, wherever the slab puts them. No
statement here needs the free list, so all of them hold of every slab.
-/

namespace GuestBoundary.Slab

variable {α β γ : Type}

/-- What a partial map makes of a list with one element replaced: the new element's part, and
the parts of the others. -/
theorem filterMap_set_perm (select : β → Option γ) (elements : List β) (index : Nat) (new : β)
    (inside : index < elements.length) :
    ((elements.set index new).filterMap select).Perm
      ((select new).toList ++ (elements.eraseIdx index).filterMap select) := by
  induction elements generalizing index with
  | nil => simp at inside
  | cons head rest inductionHypothesis =>
      cases index with
      | zero => cases selected : select new <;> simp [selected]
      | succ index =>
          have tail := inductionHypothesis index (by simpa using inside)
          cases selected : select head with
          | none => simpa [selected] using tail
          | some part =>
              simp only [List.set_cons_succ, List.filterMap_cons, selected,
                List.eraseIdx_cons_succ]
              exact (tail.cons part).trans List.perm_middle.symm

theorem filterMap_perm_eraseIdx (select : β → Option γ) (elements : List β) (index : Nat)
    (old : β) (found : elements[index]? = some old) :
    (elements.filterMap select).Perm
      ((select old).toList ++ (elements.eraseIdx index).filterMap select) := by
  obtain ⟨inside, equality⟩ := List.getElem?_eq_some_iff.mp found
  have unchanged : elements.set index old = elements := by
    rw [← equality, List.set_getElem_self]
  simpa only [unchanged] using filterMap_set_perm select elements index old inside

theorem values_insert_perm (slab : Slab α) (value : α) :
    (slab.insert value).2.values.Perm (value :: slab.values) := by
  unfold insert
  split
  next next found =>
    obtain ⟨inside, -⟩ := Array.getElem?_eq_some_iff.mp found
    have before := filterMap_perm_eraseIdx Slot.value? slab.slots.toList slab.head
      (.free next) (by simpa using found)
    have after := filterMap_set_perm Slot.value? slab.slots.toList slab.head
      (.occupied value) (by simpa using inside)
    simp only [values, Array.toList_setIfInBounds]
    exact after.trans (before.symm.cons value)
  next =>
    simp only [values, Array.toList_push, List.filterMap_append]
    exact List.perm_append_singleton value _

theorem values_perm_of_remove? {slab rest : Slab α} {handle : Nat} {value : α}
    (removed : slab.remove? handle = some (value, rest)) :
    slab.values.Perm (value :: rest.values) := by
  unfold remove? at removed
  split at removed
  next => simp at removed
  next held found =>
    simp only [Option.some.injEq, Prod.mk.injEq] at removed
    obtain ⟨rfl, rfl⟩ := removed
    obtain ⟨slot, present, occupied⟩ := Option.bind_eq_some_iff.mp found
    obtain ⟨inside, -⟩ := Array.getElem?_eq_some_iff.mp present
    have before := filterMap_perm_eraseIdx Slot.value? slab.slots.toList handle
      slot (by simpa using present)
    have after := filterMap_set_perm Slot.value? slab.slots.toList handle
      (.free slab.head) (by simpa using inside)
    rw [occupied] at before
    simp only [values, Array.toList_setIfInBounds]
    exact before.trans (after.symm.cons held)

/-! ### Under their handles -/

theorem get?_insert_fst (slab : Slab α) (value : α) :
    slab.get? (slab.insert value).1 = none := by
  unfold insert
  split
  next next found => simp [get?, found, Slot.value?]
  next => simp [get?]

theorem insert_fst_le (slab : Slab α) (value : α) :
    (slab.insert value).1 ≤ slab.slots.size := by
  unfold insert
  split
  next next found =>
    obtain ⟨inside, -⟩ := Array.getElem?_eq_some_iff.mp found
    exact Nat.le_of_lt inside
  next => exact Nat.le_refl _

theorem get?_insert (slab : Slab α) (value : α) (other : Nat) :
    (slab.insert value).2.get? other =
      if (slab.insert value).1 = other then some value else slab.get? other := by
  unfold insert
  split
  next next found =>
    obtain ⟨inside, -⟩ := Array.getElem?_eq_some_iff.mp found
    by_cases same : slab.head = other
    · subst same
      simp [get?, inside, Slot.value?]
    · simp [get?, same]
  next =>
    by_cases same : slab.slots.size = other
    · subst same
      simp [get?, Slot.value?]
    · simp [get?, Array.getElem?_push, same, Ne.symm same]

theorem get?_of_remove? {slab rest : Slab α} {handle : Nat} {value : α}
    (removed : slab.remove? handle = some (value, rest)) :
    slab.get? handle = some value ∧
      ∀ other, rest.get? other = if handle = other then none else slab.get? other := by
  unfold remove? at removed
  split at removed
  next => simp at removed
  next held found =>
    simp only [Option.some.injEq, Prod.mk.injEq] at removed
    obtain ⟨rfl, rfl⟩ := removed
    obtain ⟨slot, present, -⟩ := Option.bind_eq_some_iff.mp found
    obtain ⟨inside, -⟩ := Array.getElem?_eq_some_iff.mp present
    refine ⟨found, fun other => ?_⟩
    by_cases same : handle = other
    · subst same
      simp [get?, inside, Slot.value?]
    · simp [get?, same]

theorem remove?_eq_none_iff (slab : Slab α) (handle : Nat) :
    slab.remove? handle = none ↔ slab.get? handle = none := by
  unfold remove?
  split <;> simp [*]

theorem get?_eq_some_iff (slab : Slab α) (handle : Nat) (value : α) :
    slab.get? handle = some value ↔ slab.slots[handle]? = some (.occupied value) := by
  rw [get?]
  cases slab.slots[handle]? with
  | none => simp
  | some slot => cases slot <;> simp [Slot.value?]

theorem mem_values_iff (slab : Slab α) (value : α) :
    value ∈ slab.values ↔ ∃ handle, slab.get? handle = some value := by
  simp only [values, List.mem_filterMap, Array.mem_toList_iff, Array.mem_iff_getElem?, get?,
    Option.bind_eq_bind, Option.bind_eq_some_iff]
  constructor
  · rintro ⟨slot, ⟨handle, present⟩, occupied⟩
    exact ⟨handle, slot, present, occupied⟩
  · rintro ⟨handle, slot, present, occupied⟩
    exact ⟨slot, ⟨handle, present⟩, occupied⟩

/-- The values with their handles, in the order of these. -/
def entries (slab : Slab α) : List (Nat × α) :=
  slab.slots.toList.zipIdx.filterMap fun place => place.1.value?.map fun value => (place.2, value)

@[simp]
theorem mem_entries_iff (slab : Slab α) (handle : Nat) (value : α) :
    (handle, value) ∈ slab.entries ↔ slab.get? handle = some value := by
  simp only [entries, List.mem_filterMap, Prod.exists, List.mem_zipIdx_iff_getElem?,
    Array.getElem?_toList, Option.map_eq_some_iff, Prod.mk.injEq, get?, Option.bind_eq_bind,
    Option.bind_eq_some_iff]
  constructor
  · rintro ⟨slot, place, present, held, occupied, rfl, rfl⟩
    exact ⟨slot, present, occupied⟩
  · rintro ⟨slot, present, occupied⟩
    exact ⟨slot, handle, present, value, occupied, rfl, rfl⟩

theorem map_snd_entries (slab : Slab α) : slab.entries.map (·.2) = slab.values := by
  have slots : slab.slots.toList = slab.slots.toList.zipIdx.map Prod.fst :=
    (List.zipIdx_map_fst 0 _).symm
  rw [values, slots, List.filterMap_map, entries, List.map_filterMap]
  congr 1
  funext place
  cases selected : place.1.value? <;> simp [selected]

theorem pairwise_entries (slab : Slab α) :
    slab.entries.Pairwise fun left right => left.1 < right.1 := by
  have ascending : slab.slots.toList.zipIdx.Pairwise fun left right => left.2 < right.2 := by
    rw [← List.pairwise_map (f := Prod.snd) (R := (· < ·)), List.zipIdx_map_snd]
    exact List.pairwise_lt_range'
  apply ascending.filterMap
  intro left right before leftEntry leftFound rightEntry rightFound
  obtain ⟨_, -, rfl⟩ := Option.map_eq_some_iff.mp leftFound
  obtain ⟨_, -, rfl⟩ := Option.map_eq_some_iff.mp rightFound
  exact before

/-- What is under each handle settles the values and their order. -/
theorem values_eq_of_get?_eq {slab other : Slab α}
    (same : ∀ handle, slab.get? handle = other.get? handle) : slab.values = other.values := by
  have distinct (slab : Slab α) : slab.entries.Nodup := by
    apply slab.pairwise_entries.imp
    rintro left _ before rfl
    exact Nat.lt_irrefl _ before
  have rearranged : slab.entries.Perm other.entries := by
    rw [List.perm_ext_iff_of_nodup (distinct slab) (distinct other)]
    rintro ⟨handle, value⟩
    rw [mem_entries_iff, mem_entries_iff, same]
  have ordered : slab.entries = other.entries :=
    rearranged.eq_of_pairwise
      (fun left right _ _ before after => absurd after (Nat.lt_asymm before))
      slab.pairwise_entries other.pairwise_entries
  rw [← map_snd_entries, ← map_snd_entries, ordered]

/-- The value under the lowest handle in use is the first one. -/
theorem head?_values_of_lowest {slab : Slab α} {handle : Nat} {value : α}
    (held : slab.get? handle = some value)
    (lowest : ∀ lower, lower < handle → slab.get? lower = none) :
    slab.values.head? = some value := by
  have present := (slab.mem_entries_iff handle value).mpr held
  have ascending := slab.pairwise_entries
  rw [← map_snd_entries]
  cases listed : slab.entries with
  | nil =>
      rw [listed] at present
      exact nomatch present
  | cons first rest =>
      rw [listed] at present ascending
      rcases List.mem_cons.mp present with rfl | later
      · rfl
      · have free := lowest first.1 ((List.pairwise_cons.mp ascending).1 _ later)
        have used : slab.get? first.1 = some first.2 :=
          (slab.mem_entries_iff first.1 first.2).mp (by simp [listed])
        exact nomatch free.symm.trans used

theorem values_eq_nil_iff (slab : Slab α) :
    slab.values = [] ↔ ∀ handle, slab.get? handle = none := by
  simp only [List.eq_nil_iff_forall_not_mem, mem_values_iff, not_exists,
    Option.eq_none_iff_forall_ne_some]
  exact forall_comm

/-! ### As the guest asks for them -/

theorem fetch_eq_ok_iff (slab : Slab α) (handle : Word) (value : α) :
    slab.fetch handle = .ok value ↔ slab.get? handle.toNat = some value := by
  unfold fetch
  split <;> simp [*]

theorem take_eq_ok_iff (slab : Slab α) (handle : Word) (taken : α × Slab α) :
    slab.take handle = .ok taken ↔ slab.remove? handle.toNat = some taken := by
  unfold take
  split <;> simp [*]

theorem exists_take_of_get? {slab : Slab α} {handle : Word} {value : α}
    (held : slab.get? handle.toNat = some value) :
    ∃ rest, slab.take handle = .ok (value, rest) := by
  rw [take, remove?, held]
  exact ⟨_, rfl⟩

theorem get?_of_take {slab rest : Slab α} {handle : Word} {value : α}
    (taken : slab.take handle = .ok (value, rest)) :
    slab.get? handle.toNat = some value ∧
      ∀ other, rest.get? other = if handle.toNat = other then none else slab.get? other :=
  get?_of_remove? ((take_eq_ok_iff ..).mp taken)

/-! ### Handles that hold nothing -/

theorem fault_of_fetch {slab : Slab α} {handle : Word} {fault : Fault}
    (failed : slab.fetch handle = .error fault) : fault = .invalidHandle handle := by
  unfold fetch at failed
  split at failed
  next => exact nomatch failed
  next => exact (Except.error.inj failed).symm

theorem fault_of_take {slab : Slab α} {handle : Word} {fault : Fault}
    (failed : slab.take handle = .error fault) : fault = .invalidHandle handle := by
  unfold take at failed
  split at failed
  next => exact nomatch failed
  next => exact (Except.error.inj failed).symm

end GuestBoundary.Slab
