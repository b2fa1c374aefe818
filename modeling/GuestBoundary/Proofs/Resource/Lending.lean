import GuestBoundary.Proofs.Resource.Balance

/-!
# References on their way in and out

A reference goes to the guest when one more is counted and parked, and comes back when it is taken
out of its slot. A host that only calls the guest with a resource lends it a reference: the guest
drops the handle before it returns, and since the host keeps a reference of its own, nothing is
destroyed. Afterwards every record and every handle is as it was, down to the handle that will be
used next.
-/

namespace GuestBoundary

namespace Slab

variable {α : Type}

theorem get?_of_fault {slab : Slab α} {handle : Word} {fault : Fault}
    (failed : slab.take handle = .error fault) : slab.get? handle.toNat = none := by
  unfold take at failed
  split at failed
  next => cases failed
  next nothing => exact (slab.remove?_eq_none_iff _).mp nothing

/-- Where a value goes does not depend on the value. -/
theorem insert_fst_congr (slab : Slab α) (value other : α) :
    (slab.insert value).1 = (slab.insert other).1 := by
  unfold insert
  split <;> rfl

/-- The slot of a value that was taken out is the next one to be used. -/
theorem insert_fst_of_take {slab rest : Slab α} {handle : Word} {value : α}
    (taken : slab.take handle = .ok (value, rest)) (other : α) :
    (rest.insert other).1 = handle.toNat := by
  have held := (get?_of_take taken).1
  rw [take, remove?, held] at taken
  obtain ⟨-, rfl⟩ := Prod.mk.inj (Except.ok.inj taken)
  obtain ⟨slot, present, -⟩ := Option.bind_eq_some_iff.mp held
  obtain ⟨inside, -⟩ := Array.getElem?_eq_some_iff.mp present
  have freed : (slab.slots.setIfInBounds handle.toNat (.free slab.head))[handle.toNat]? =
      some (.free slab.head) := Array.getElem?_setIfInBounds_self_of_lt inside
  rw [insert, freed]

end Slab

/-- A reference that is given back while others remain undoes one that was counted. -/
theorem Resource.released_more {resource : Resource} (alive : resource.destroyed = false)
    (counted : 0 < resource.references) :
    Resource.released { resource with references := resource.references + 1 } = resource := by
  obtain ⟨representation, references, destroyed, destructor⟩ := resource
  subst alive
  have several : references ≠ 0 := Nat.ne_of_gt counted
  simp [Resource.released, several]

theorem Resource.representation_released (resource : Resource) :
    resource.released.representation = resource.representation := by
  unfold Resource.released
  split <;> rfl

namespace Store

variable {kinds : Nat}

/-! ### One reference in or out -/

/-- One more reference to a resource was counted and parked under a free handle, and nothing else
has changed. -/
structure Parks (store : Store kinds) (reference : Reference kinds) (handle : Nat)
    (parked : Store kinds) : Prop where
  free : (store.registry reference.kind).table.get? handle = none
  occupied : (parked.registry reference.kind).table.get? handle = some reference.identity
  others : ∀ other, other ≠ handle →
    (parked.registry reference.kind).table.get? other =
      (store.registry reference.kind).table.get? other
  counted : ∀ other, parked.resource other =
    if reference = other ∧ store.Wraps reference then
      { store.resource other with references := (store.resource other).references + 1 }
    else store.resource other
  rest : parked =
    (store.count reference).withTable reference.kind (parked.registry reference.kind).table

/-- The reference under a handle was taken out of its slot, and nothing else has changed. -/
structure Takes (store : Store kinds) (reference : Reference kinds) (handle : Nat)
    (taken : Store kinds) : Prop where
  occupied : (store.registry reference.kind).table.get? handle = some reference.identity
  freed : (taken.registry reference.kind).table.get? handle = none
  others : ∀ other, other ≠ handle →
    (taken.registry reference.kind).table.get? other =
      (store.registry reference.kind).table.get? other
  counted : ∀ other, taken.resource other = store.resource other
  rest : taken = store.withTable reference.kind (taken.registry reference.kind).table

theorem table_count (store : Store kinds) (reference : Reference kinds) (kind : Fin kinds) :
    ((store.count reference).registry kind).table = (store.registry kind).table := by
  rw [count, onResource, registry_onRegistry]
  split
  next here => rw [here]
  next => rfl

/-- Where the next reference to a resource will be parked. -/
def nextSlot (store : Store kinds) (reference : Reference kinds) : Nat :=
  ((store.registry reference.kind).table.insert reference.identity).1

theorem on_lower (store : Store kinds) (reference : Reference kinds) :
    (lower reference).on store =
      (.ok (UInt32.ofNat (store.nextSlot reference)), (store.count reference).place reference) := by
  rw [nextSlot, ← store.table_count reference]
  rfl

theorem parks_place_count (store : Store kinds) (reference : Reference kinds) :
    store.Parks reference (store.nextSlot reference)
      ((store.count reference).place reference) where
  free := Slab.get?_insert_fst _ _
  occupied := by
    rw [place, table_withTable, nextSlot, ← store.table_count reference]
    exact (Slab.get?_insert _ _ _).trans (if_pos rfl)
  others := by
    intro other different
    rw [place, table_withTable, ← store.table_count reference]
    rw [nextSlot, ← store.table_count reference] at different
    exact (Slab.get?_insert _ _ _).trans (if_neg different.symm)
  counted := by
    intro other
    rw [resource_place, count, resource_onResource]
    split
    next here => rw [here.1]
    next => rfl
  rest := by rw [place, table_withTable]

theorem on_unpark_of_fault {store : Store kinds} {kind : Fin kinds} {handle : Word} {fault : Fault}
    (failed : (store.registry kind).table.take handle = .error fault) :
    (unpark kind handle).on store = (.error fault, store) := by
  rw [unpark, Work.on_bind, Attempt.on_examine, failed]

theorem takes_of_take {store : Store kinds} {kind : Fin kinds} {handle : Word} {identity : Nat}
    {table : Slab Nat}
    (taken : (store.registry kind).table.take handle = .ok (identity, table)) :
    store.Takes { kind, identity } handle.toNat (store.withTable kind table) where
  occupied := (Slab.get?_of_take taken).1
  freed := by rw [table_withTable, (Slab.get?_of_take taken).2, if_pos rfl]
  others := by
    intro other different
    rw [table_withTable, (Slab.get?_of_take taken).2, if_neg different.symm]
  counted := resource_withTable store kind table
  rest := by rw [table_withTable]

/-! ### Lending -/

/-- A reference of the host's can be lent: its resource is alive, and there is a handle for it. -/
structure Lendable (store : Store kinds) (reference : Reference kinds) : Prop where
  alive : (store.resource reference).destroyed = false
  counted : 0 < (store.resource reference).references
  fits : store.nextSlot reference < UInt32.size

/-- A handle stands for a reference to a resource, and it is not the last one. -/
structure Lent (store : Store kinds) (reference : Reference kinds) (handle : Word) : Prop where
  held : (store.registry reference.kind).table.get? handle.toNat = some reference.identity
  shared : store.verdict reference = .shared

theorem Lent.wraps {store : Store kinds} {reference : Reference kinds} {handle : Word}
    (lent : store.Lent reference handle) : store.Wraps reference := by
  by_contra unwrapped
  have shared := lent.shared
  rw [verdict, resource_of_not_wraps unwrapped] at shared
  cases shared

theorem Lent.of_registries {store other : Store kinds} {reference : Reference kinds} {handle : Word}
    (lent : store.Lent reference handle) (same : other.registries = store.registries) :
    other.Lent reference handle := by
  obtain ⟨held, shared⟩ := lent
  refine ⟨?_, ?_⟩
  · rw [registry, same]
    exact held
  · rw [verdict, resource, registry, same]
    exact shared

/-- The store after the reference under a handle was taken out and given back. -/
def dropped (reference : Reference kinds) (handle : Word) (store : Store kinds) : Store kinds :=
  match (store.registry reference.kind).table.take handle with
  | .ok (_, table) => (store.withTable reference.kind table).book reference
  | .error _ => store

section

variable (store : Store kinds) (reference : Reference kinds) (handle : Word)

theorem memory_dropped : (store.dropped reference handle).memory = store.memory := by
  unfold dropped
  split <;> rfl

theorem globals_dropped : (store.dropped reference handle).globals = store.globals := by
  unfold dropped
  split <;> rfl

/-- What is dropped depends on the registries only. -/
theorem registries_dropped_congr {store other : Store kinds}
    (same : other.registries = store.registries) :
    (other.dropped reference handle).registries = (store.dropped reference handle).registries := by
  have sameRegistry (kind : Fin kinds) : other.registry kind = store.registry kind := by
    rw [registry, registry, same]
  rw [dropped, dropped, sameRegistry]
  cases (store.registry reference.kind).table.take handle with
  | ok entry =>
      simp only [book, note, onResource, withTable, onRegistry, registry, same]
  | error fault => exact same

theorem wraps_dropped (other : Reference kinds) :
    (store.dropped reference handle).Wraps other ↔ store.Wraps other := by
  unfold dropped
  split
  next => rw [book, wraps_note, wraps_onResource, wraps_withTable]
  next => exact Iff.rfl

theorem representation_dropped (other : Reference kinds) :
    ((store.dropped reference handle).resource other).representation =
      (store.resource other).representation := by
  unfold dropped
  split
  next =>
    rw [resource_book, resource_withTable, resource_withTable]
    split
    next here => rw [Resource.representation_released, here]
    next => rfl
  next => rfl

end

/-- Every record and every handle is as it was, and the same slots will be used next. -/
structure Settled (store other : Store kinds) : Prop where
  resources : ∀ reference, other.resource reference = store.resource reference
  wraps : ∀ reference, other.Wraps reference ↔ store.Wraps reference
  handles : ∀ kind handle,
    (other.registry kind).table.get? handle = (store.registry kind).table.get? handle
  nextSlot : ∀ reference, other.nextSlot reference = store.nextSlot reference

namespace Settled

variable {store middle other : Store kinds}

theorem refl (store : Store kinds) : store.Settled store :=
  ⟨fun _ => rfl, fun _ => Iff.rfl, fun _ _ => rfl, fun _ => rfl⟩

theorem trans (first : store.Settled middle) (second : middle.Settled other) :
    store.Settled other where
  resources reference := (second.resources reference).trans (first.resources reference)
  wraps reference := (second.wraps reference).trans (first.wraps reference)
  handles kind handle := (second.handles kind handle).trans (first.handles kind handle)
  nextSlot reference := (second.nextSlot reference).trans (first.nextSlot reference)

/-- Nothing but the registries counts. -/
theorem of_registries (same : other.registries = store.registries) : store.Settled other where
  resources reference := by simp only [resource, registry, same]
  wraps reference := by simp only [Wraps, registry, same]
  handles kind handle := by simp only [registry, same]
  nextSlot reference := by simp only [Store.nextSlot, registry, same]

end Settled

section

variable {store final : Store kinds} {reference : Reference kinds}

theorem Lendable.settled (lendable : store.Lendable reference) (settled : store.Settled final) :
    final.Lendable reference := by
  obtain ⟨alive, counted, fits⟩ := lendable
  rw [← settled.resources] at alive counted
  rw [← settled.nextSlot] at fits
  exact ⟨alive, counted, fits⟩

/-- A reference that is parked beside the host's own is not the last one. -/
theorem Lendable.lent (lendable : store.Lendable reference) :
    ((store.count reference).place reference).Lent reference
      (UInt32.ofNat (store.nextSlot reference)) := by
  obtain ⟨alive, counted, fits⟩ := lendable
  have parks := store.parks_place_count reference
  have record := parks.counted reference
  rw [if_pos ⟨rfl, wraps_of_references_pos counted⟩] at record
  refine ⟨?_, ?_⟩
  · rw [UInt32.toNat_ofNat_of_lt' fits]
    exact parks.occupied
  · rw [verdict, record, Resource.verdict, if_neg (by simp [alive]), if_neg (by dsimp only; omega)]

theorem table_withTable_of_ne (store : Store kinds) {kind other : Fin kinds} (table : Slab Nat)
    (different : kind ≠ other) :
    ((store.withTable kind table).registry other).table = (store.registry other).table := by
  rw [withTable, registry_onRegistry, if_neg different]

theorem Parks.wraps_iff {parked : Store kinds} {handle : Nat}
    (parks : store.Parks reference handle parked) (other : Reference kinds) :
    parked.Wraps other ↔ store.Wraps other := by
  rw [parks.rest, wraps_withTable, count, wraps_onResource]

theorem Parks.table_of_ne {parked : Store kinds} {handle : Nat}
    (parks : store.Parks reference handle parked) {kind : Fin kinds}
    (different : reference.kind ≠ kind) :
    (parked.registry kind).table = (store.registry kind).table := by
  rw [parks.rest, table_withTable_of_ne _ _ different, table_count]

/-- Once the lent reference is dropped, nothing of it is left. -/
theorem settled_of_dropped (lendable : store.Lendable reference)
    (same : final.registries = (((store.count reference).place reference).dropped reference
      (UInt32.ofNat (store.nextSlot reference))).registries) : store.Settled final := by
  have parks := store.parks_place_count reference
  have lent := lendable.lent
  obtain ⟨alive, counted, fits⟩ := lendable
  have word : (UInt32.ofNat (store.nextSlot reference)).toNat = store.nextSlot reference :=
    UInt32.toNat_ofNat_of_lt' fits
  generalize (store.count reference).place reference = parked at parks lent same
  generalize UInt32.ofNat (store.nextSlot reference) = handle at word lent same
  obtain ⟨table, taken⟩ := Slab.exists_take_of_get? lent.held
  rw [dropped, taken] at same
  dsimp only at same
  have emptied := (Slab.get?_of_take taken).2
  have tableOf (kind : Fin kinds) :
      (((parked.withTable reference.kind table).book reference).registry kind).table =
        if reference.kind = kind then table else (store.registry kind).table := by
    rw [table_book]
    split
    next here => rw [← here, table_withTable]
    next different => rw [table_withTable_of_ne _ _ different, parks.table_of_ne different]
  refine .trans ⟨?_, ?_, ?_, ?_⟩ (.of_registries same)
  · intro other
    by_cases here : reference = other
    · subst here
      rw [resource_book, if_pos rfl, resource_withTable, parks.counted,
        if_pos ⟨rfl, wraps_of_references_pos counted⟩]
      exact Resource.released_more alive counted
    · rw [resource_book, if_neg here, resource_withTable, parks.counted,
        if_neg fun both => here both.1]
  · intro other
    rw [book, wraps_note, wraps_onResource, wraps_withTable, parks.wraps_iff]
  · intro kind other
    rw [tableOf]
    split
    next here =>
      subst here
      rw [emptied, word]
      split
      next freed => rw [← freed, parks.free]
      next different => exact parks.others other (Ne.symm different)
    next => rfl
  · intro other
    rw [nextSlot, tableOf]
    split
    next here =>
      rw [Slab.insert_fst_of_take taken, word, nextSlot, nextSlot, ← here]
      exact Slab.insert_fst_congr _ _ _
    next => rfl

end

end Store

end GuestBoundary
