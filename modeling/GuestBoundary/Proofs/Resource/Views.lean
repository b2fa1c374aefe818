import Mathlib.Data.List.Count
import GuestBoundary.Proofs.Slab.Values
import GuestBoundary.Store

/-!
# Records and handles in a store

A store is seen through two views: the record that a reference names, and the number of handles
that stand for the same resource. Each change of a store is described by what it does to the two;
nothing later looks below them.
-/

namespace GuestBoundary.Store

variable {kinds : Nat}

/-- How many handles stand for the resource of a reference. -/
def slots (store : Store kinds) (reference : Reference kinds) : Nat :=
  (store.registry reference.kind).table.values.count reference.identity

/-- Whether the record that a reference names has been made. -/
def Wraps (store : Store kinds) (reference : Reference kinds) : Prop :=
  reference.identity < (store.registry reference.kind).resources.size

instance (store : Store kinds) (reference : Reference kinds) :
    Decidable (store.Wraps reference) := inferInstanceAs (Decidable (_ < _))

/-- The reference that the next resource of a kind will get. -/
def nextReference (store : Store kinds) (kind : Fin kinds) : Reference kinds :=
  { kind, identity := (store.registry kind).resources.size }

theorem nextReference_not_wraps (store : Store kinds) (kind : Fin kinds) :
    ¬ store.Wraps (store.nextReference kind) := Nat.lt_irrefl _

theorem registry_onRegistry (store : Store kinds) (kind other : Fin kinds)
    (change : Registry → Registry) :
    (store.onRegistry kind change).registry other =
      if kind = other then change (store.registry kind) else store.registry other := by
  simp only [onRegistry, registry, Fin.getElem_fin, Vector.getElem_set, Fin.val_inj]

theorem resource_of_not_wraps {store : Store kinds} {reference : Reference kinds}
    (unwrapped : ¬ store.Wraps reference) : store.resource reference = .absent := by
  unfold Wraps at unwrapped
  simp only [resource, Array.getD_eq_getD_getElem?]
  simp [Nat.le_of_not_lt unwrapped]

/-! ### Registries -/

theorem destructor_onRegistry (store : Store kinds) (kind other : Fin kinds)
    {change : Registry → Registry}
    (same : ∀ registry, (change registry).destructor = registry.destructor) :
    ((store.onRegistry kind change).registry other).destructor =
      (store.registry other).destructor := by
  rw [registry_onRegistry]
  split
  next here => rw [same, here]
  next => rfl

theorem wraps_onRegistry (store : Store kinds) (kind : Fin kinds) (reference : Reference kinds)
    {change : Registry → Registry}
    (same : ∀ registry, (change registry).resources.size = registry.resources.size) :
    (store.onRegistry kind change).Wraps reference ↔ store.Wraps reference := by
  unfold Wraps
  rw [registry_onRegistry]
  split
  next here => rw [same, here]
  next => exact Iff.rfl

@[simp]
theorem destructor_onResource (store : Store kinds) (reference : Reference kinds)
    (change : Resource → Resource) (kind : Fin kinds) :
    ((store.onResource reference change).registry kind).destructor =
      (store.registry kind).destructor :=
  destructor_onRegistry _ _ _ fun _ => rfl

@[simp]
theorem wraps_onResource (store : Store kinds) (reference other : Reference kinds)
    (change : Resource → Resource) :
    (store.onResource reference change).Wraps other ↔ store.Wraps other :=
  wraps_onRegistry _ _ _ fun _ => Array.size_modify

@[simp]
theorem destructor_withTable (store : Store kinds) (kind other : Fin kinds) (table : Slab Nat) :
    ((store.withTable kind table).registry other).destructor =
      (store.registry other).destructor :=
  destructor_onRegistry _ _ _ fun _ => rfl

@[simp]
theorem wraps_withTable (store : Store kinds) (kind : Fin kinds) (table : Slab Nat)
    (reference : Reference kinds) :
    (store.withTable kind table).Wraps reference ↔ store.Wraps reference :=
  wraps_onRegistry _ _ _ fun _ => rfl

@[simp]
theorem destructor_addResource (store : Store kinds) (kind other : Fin kinds)
    (record : Resource) :
    ((store.addResource kind record).registry other).destructor =
      (store.registry other).destructor :=
  destructor_onRegistry _ _ _ fun _ => rfl

theorem wraps_addResource (store : Store kinds) (kind : Fin kinds) (record : Resource)
    (reference : Reference kinds) :
    (store.addResource kind record).Wraps reference ↔
      store.nextReference kind = reference ∨ store.Wraps reference := by
  obtain ⟨otherKind, identity⟩ := reference
  simp only [Wraps, addResource, nextReference, registry_onRegistry, Reference.mk.injEq]
  by_cases sameKind : kind = otherKind
  · subst sameKind
    simp only [if_true, Array.size_push, true_and]
    omega
  · simp [sameKind]

@[simp]
theorem registry_note (store : Store kinds) (occurrence : Occurrence kinds) (kind : Fin kinds) :
    (store.note occurrence).registry kind = store.registry kind := rfl

@[simp]
theorem wraps_note (store : Store kinds) (occurrence : Occurrence kinds)
    (reference : Reference kinds) :
    (store.note occurrence).Wraps reference ↔ store.Wraps reference := Iff.rfl

/-! ### Records -/

theorem resource_congr {store other : Store kinds} {reference : Reference kinds}
    (same : (store.registry reference.kind).resources =
      (other.registry reference.kind).resources) :
    store.resource reference = other.resource reference := by
  simp only [resource, same]

theorem resource_onResource (store : Store kinds) (reference other : Reference kinds)
    (change : Resource → Resource) :
    (store.onResource reference change).resource other =
      if reference = other ∧ store.Wraps reference then change (store.resource reference)
      else store.resource other := by
  obtain ⟨kind, identity⟩ := reference
  obtain ⟨otherKind, otherIdentity⟩ := other
  simp only [onResource, resource, registry_onRegistry, Wraps, Reference.mk.injEq]
  by_cases sameKind : kind = otherKind
  · subst sameKind
    simp only [if_true, true_and, Array.getD_eq_getD_getElem?, Array.getElem?_modify]
    by_cases sameIdentity : identity = otherIdentity
    · subst sameIdentity
      by_cases wrapped : identity < (store.registry kind).resources.size <;> simp [wrapped]
    · simp [sameIdentity]
  · simp [sameKind]

@[simp]
theorem resource_withTable (store : Store kinds) (kind : Fin kinds) (table : Slab Nat)
    (reference : Reference kinds) :
    (store.withTable kind table).resource reference = store.resource reference := by
  apply resource_congr
  rw [withTable, registry_onRegistry]
  split <;> simp_all

theorem resource_addResource (store : Store kinds) (kind : Fin kinds) (record : Resource)
    (reference : Reference kinds) :
    (store.addResource kind record).resource reference =
      if store.nextReference kind = reference then record else store.resource reference := by
  obtain ⟨otherKind, identity⟩ := reference
  simp only [addResource, resource, registry_onRegistry, nextReference, Reference.mk.injEq]
  by_cases sameKind : kind = otherKind
  · subst sameKind
    simp only [if_true, true_and, Array.getD_eq_getD_getElem?, Array.getElem?_push]
    by_cases sameIdentity : (store.registry kind).resources.size = identity
    · simp [sameIdentity]
    · simp [sameIdentity, Ne.symm sameIdentity]
  · simp [sameKind]

@[simp]
theorem resource_note (store : Store kinds) (occurrence : Occurrence kinds)
    (reference : Reference kinds) :
    (store.note occurrence).resource reference = store.resource reference := rfl

/-! ### Handles -/

@[simp]
theorem slots_onResource (store : Store kinds) (reference other : Reference kinds)
    (change : Resource → Resource) :
    (store.onResource reference change).slots other = store.slots other := by
  simp only [slots, onResource, registry_onRegistry]
  split <;> simp_all

@[simp]
theorem slots_addResource (store : Store kinds) (kind : Fin kinds) (record : Resource)
    (reference : Reference kinds) :
    (store.addResource kind record).slots reference = store.slots reference := by
  simp only [slots, addResource, registry_onRegistry]
  split <;> simp_all

@[simp]
theorem slots_note (store : Store kinds) (occurrence : Occurrence kinds)
    (reference : Reference kinds) :
    (store.note occurrence).slots reference = store.slots reference := rfl

theorem table_withTable (store : Store kinds) (kind : Fin kinds) (table : Slab Nat) :
    ((store.withTable kind table).registry kind).table = table := by
  rw [withTable, registry_onRegistry, if_pos rfl]

theorem slots_withTable (store : Store kinds) (kind : Fin kinds) (table : Slab Nat)
    (reference : Reference kinds) :
    (store.withTable kind table).slots reference =
      if kind = reference.kind then table.values.count reference.identity
      else store.slots reference := by
  simp only [slots, withTable, registry_onRegistry]
  split <;> simp_all

theorem count_parked (store : Store kinds) (kind : Fin kinds) (reference : Reference kinds) :
    (store.parked kind).count reference =
      if kind = reference.kind then store.slots reference else 0 := by
  obtain ⟨otherKind, identity⟩ := reference
  have injective : Function.Injective fun identity => ({ kind, identity } : Reference kinds) :=
    fun _ _ same => (Reference.mk.inj same).2
  by_cases here : kind = otherKind
  · subst here
    rw [if_pos rfl]
    exact List.count_map_of_injective _ _ injective identity
  · rw [if_neg here, List.count_eq_zero]
    intro present
    obtain ⟨_, -, same⟩ := List.mem_map.mp present
    exact here (Reference.mk.inj same).1

/-- The references in the table of a kind with their handles. -/
def entries (store : Store kinds) (kind : Fin kinds) : List (Nat × Reference kinds) :=
  (store.registry kind).table.entries.map fun entry => (entry.1, { kind, identity := entry.2 })

theorem map_snd_entries (store : Store kinds) (kind : Fin kinds) :
    (store.entries kind).map Prod.snd = store.parked kind := by
  rw [entries, parked, ← Slab.map_snd_entries, List.map_map, List.map_map]
  rfl

theorem mem_entries_iff (store : Store kinds) (kind : Fin kinds)
    (entry : Nat × Reference kinds) :
    entry ∈ store.entries kind ↔
      entry.2.kind = kind ∧
        (store.registry kind).table.get? entry.1 = some entry.2.identity := by
  obtain ⟨handle, otherKind, identity⟩ := entry
  simp only [entries, List.mem_map, Prod.exists, Slab.mem_entries_iff, Prod.mk.injEq,
    Reference.mk.injEq]
  constructor
  · rintro ⟨_, _, held, rfl, rfl, rfl⟩
    exact ⟨rfl, held⟩
  · rintro ⟨rfl, held⟩
    exact ⟨handle, identity, held, rfl, rfl, rfl⟩

theorem slots_pos_of_mem_entries {store : Store kinds} {kind : Fin kinds}
    {entry : Nat × Reference kinds} (present : entry ∈ store.entries kind) :
    0 < store.slots entry.2 := by
  obtain ⟨rfl, held⟩ := (store.mem_entries_iff kind entry).mp present
  exact List.count_pos_iff.mpr ((Slab.mem_values_iff _ _).mpr ⟨_, held⟩)

theorem pairwise_entries (store : Store kinds) (kind : Fin kinds) :
    (store.entries kind).Pairwise fun lower higher => lower.1 < higher.1 :=
  List.pairwise_map.mpr (store.registry kind).table.pairwise_entries

/-- The entries after another one are those with a higher handle. -/
theorem mem_later_entries {store : Store kinds} {kind : Fin kinds}
    {earlier later : List (Nat × Reference kinds)} {first : Nat × Reference kinds}
    (split : store.entries kind = earlier ++ first :: later) (entry : Nat × Reference kinds) :
    entry ∈ later ↔ first.1 < entry.1 ∧ entry ∈ store.entries kind := by
  have ascending := store.pairwise_entries kind
  rw [split, List.pairwise_append, List.pairwise_cons] at ascending
  obtain ⟨-, ⟨higher, -⟩, lower⟩ := ascending
  rw [split, List.mem_append, List.mem_cons]
  constructor
  · intro after
    exact ⟨higher entry after, .inr (.inr after)⟩
  · rintro ⟨above, before | rfl | after⟩
    · exact absurd above (Nat.lt_asymm (lower entry before first List.mem_cons_self))
    · exact absurd above (Nat.lt_irrefl _)
    · exact after

/-- The store with a reference moved into the table. -/
def place (reference : Reference kinds) (store : Store kinds) : Store kinds :=
  store.withTable reference.kind
    ((store.registry reference.kind).table.put reference.identity).2

@[simp]
theorem resource_place (store : Store kinds) (placed reference : Reference kinds) :
    (store.place placed).resource reference = store.resource reference :=
  resource_withTable _ _ _ _

theorem slots_place (store : Store kinds) (placed reference : Reference kinds) :
    (store.place placed).slots reference =
      store.slots reference + if placed = reference then 1 else 0 := by
  obtain ⟨kind, identity⟩ := placed
  obtain ⟨otherKind, otherIdentity⟩ := reference
  have counted := ((store.registry kind).table.values_insert_perm identity).count_eq
    otherIdentity
  rw [place, slots_withTable]
  simp only [slots, Slab.put, Reference.mk.injEq]
  by_cases sameKind : kind = otherKind
  · subst sameKind
    simpa [List.count_cons] using counted
  · simp [sameKind]

theorem slots_of_take {store : Store kinds} {kind : Fin kinds} {handle : Word}
    {identity : Nat} {table : Slab Nat}
    (taken : (store.registry kind).table.take handle = .ok (identity, table))
    (reference : Reference kinds) :
    store.slots reference =
      (store.withTable kind table).slots reference +
        if ({ kind, identity } : Reference kinds) = reference then 1 else 0 := by
  obtain ⟨otherKind, otherIdentity⟩ := reference
  have removed := (Slab.take_eq_ok_iff ..).mp taken
  have counted := (Slab.values_perm_of_remove? removed).count_eq otherIdentity
  rw [slots_withTable]
  simp only [slots, Reference.mk.injEq]
  by_cases sameKind : kind = otherKind
  · subst sameKind
    simpa [List.count_cons] using counted
  · simp [sameKind]

theorem slots_pos_of_fetch {store : Store kinds} {kind : Fin kinds} {handle : Word}
    {identity : Nat} (found : (store.registry kind).table.fetch handle = .ok identity) :
    0 < store.slots { kind, identity } :=
  List.count_pos_iff.mpr ((Slab.mem_values_iff ..).mpr ⟨_, (Slab.fetch_eq_ok_iff ..).mp found⟩)

end GuestBoundary.Store
