import GuestBoundary.Proofs.Resource.Balance
import GuestBoundary.Proofs.Resource.Chronicle

/-!
# Sound stores

A store is sound if its counts are balanced, its log agrees with its records, and no reference was
ever refused. Every move of a store keeps it sound: a reference that is really there is never
refused, because its resource has a count.
-/

namespace GuestBoundary

variable {kinds : Nat}

namespace Store

/-- Nothing has gone wrong with the references of a store, given those outside its tables. -/
structure Sound (outside : Account kinds) (store : Store kinds) : Prop where
  balanced : store.Balanced outside
  chronicled : store.Chronicled
  unrefused : ¬ store.HasRefusal

/-! ### New stores -/

section

variable (names : Vector String kinds) (memoryLimit : Option Nat)

@[simp]
theorem registry_ofNames (kind : Fin kinds) :
    (ofNames names memoryLimit).registry kind = { name := names.get kind } := by
  rw [registry, ofNames, Fin.getElem_fin, Vector.getElem_map]
  rfl

theorem not_wraps_ofNames (reference : Reference kinds) :
    ¬ (ofNames names memoryLimit).Wraps reference := by
  unfold Wraps
  rw [registry_ofNames]
  exact Nat.not_lt_zero _

@[simp]
theorem resource_ofNames (reference : Reference kinds) :
    (ofNames names memoryLimit).resource reference = .absent :=
  resource_of_not_wraps (not_wraps_ofNames names memoryLimit reference)

@[simp]
theorem slots_ofNames (reference : Reference kinds) :
    (ofNames names memoryLimit).slots reference = 0 := by
  unfold slots
  rw [registry_ofNames]
  rfl

theorem sound_ofNames {outside : Account kinds} (empty : ∀ reference, outside reference = 0) :
    (ofNames names memoryLimit).Sound outside where
  balanced :=
    { counted := fun reference => by
        rw [resource_ofNames, slots_ofNames, empty]
        rfl
      destroyed_iff := fun reference => by
        rw [resource_ofNames]
        exact iff_of_true rfl rfl }
  chronicled :=
    { bound := fun kind => by
        rw [registry_ofNames]
        rfl
      unwrapped := fun _ _ => rfl
      wrapped := fun reference wrapped =>
        absurd wrapped (not_wraps_ofNames names memoryLimit reference)
      captured := fun before _ _ _ split => by
        cases before <;> exact nomatch split
      prompt := fun before _ _ _ split => by
        cases before <;> exact nomatch split }
  unrefused := fun ⟨_, refused⟩ => Array.not_mem_empty _ refused

end

/-! ### Moves -/

theorem unrefused_push {store other : Store kinds} {occurrence : Occurrence kinds}
    (unrefused : ¬ store.HasRefusal) (log : other.log = store.log.push occurrence)
    (harmless : ∀ reference, occurrence ≠ .released reference .refused) :
    ¬ other.HasRefusal := by
  rintro ⟨reference, refused⟩
  rw [log, Array.mem_push] at refused
  rcases refused with old | new
  · exact unrefused ⟨reference, old⟩
  · exact harmless reference new.symm

namespace Sound

variable {outside : Account kinds} {store : Store kinds}

theorem inside (sound : store.Sound outside) (memory : Bytes) (globals : Array Word) :
    { store with memory, globals }.Sound outside where
  balanced := sound.balanced.of_views (fun _ => rfl) fun _ => rfl
  chronicled := sound.chronicled.inside memory globals
  unrefused := sound.unrefused

theorem call (sound : store.Sound outside) {call : Call kinds} (entered : Bool)
    (plain : call.onBehalfOf = none) : (store.note (.called call entered)).Sound outside where
  balanced := sound.balanced.of_views (fun _ => rfl) fun _ => rfl
  chronicled := sound.chronicled.call entered plain
  unrefused := unrefused_push sound.unrefused rfl fun _ => nofun

theorem rebind (sound : store.Sound outside) (kind : Fin kinds) (function : FunctionId) :
    (store.rebind kind function).Sound outside where
  balanced := sound.balanced.of_views (store.resource_rebind kind function)
    (store.slots_rebind kind function)
  chronicled := sound.chronicled.rebind kind function
  unrefused := unrefused_push sound.unrefused rfl fun _ => nofun

theorem enroll (sound : store.Sound outside) {kind : Fin kinds} (representation : Word)
    {function : FunctionId} (bound : (store.registry kind).destructor = some function) :
    (store.enroll kind representation function).Sound
      (outside.add (store.nextReference kind)) where
  balanced := sound.balanced.enroll kind representation function
  chronicled := sound.chronicled.enroll representation bound
  unrefused := unrefused_push sound.unrefused rfl fun _ => nofun

theorem count (sound : store.Sound outside) {reference : Reference kinds}
    (alive : 0 < (store.resource reference).references) :
    (store.count reference).Sound (outside.add reference) where
  balanced := sound.balanced.count alive
  chronicled := sound.chronicled.count reference
  unrefused := sound.unrefused

theorem place {reference : Reference kinds} (sound : store.Sound (outside.add reference)) :
    (store.place reference).Sound outside where
  balanced := sound.balanced.place
  chronicled := sound.chronicled.place reference
  unrefused := sound.unrefused

theorem take (sound : store.Sound outside) {kind : Fin kinds} {handle : Word} {identity : Nat}
    {table : Slab Nat}
    (taken : (store.registry kind).table.take handle = .ok (identity, table)) :
    (store.withTable kind table).Sound (outside.add { kind, identity }) where
  balanced := sound.balanced.take taken
  chronicled := sound.chronicled.withTable kind table
  unrefused := sound.unrefused

theorem empty (sound : store.Sound outside) (kind : Fin kinds) :
    (store.withTable kind ∅).Sound (outside.addAll (store.parked kind)) where
  balanced := sound.balanced.empty kind
  chronicled := sound.chronicled.withTable kind ∅
  unrefused := sound.unrefused

theorem withInFlight (sound : store.Sound outside) (inFlight : List (Reference kinds)) :
    { store with inFlight }.Sound outside where
  balanced := sound.balanced.of_views (fun _ => rfl) fun _ => rfl
  chronicled :=
    sound.chronicled.of_views rfl (fun _ => rfl) (fun _ => Iff.rfl) fun _ => ⟨_, rfl⟩
  unrefused := sound.unrefused

theorem giveBack {reference : Reference kinds} (sound : store.Sound (outside.add reference))
    (entered : Bool) : (store.giveBack entered reference).Sound outside where
  balanced := sound.balanced.book.of_views (by simp) (by simp)
  chronicled :=
    sound.chronicled.giveBack (wraps_of_references_pos sound.balanced.add_references_pos) entered
  unrefused := by
    have accepted : store.verdict reference ≠ .refused := by
      rw [sound.balanced.verdict_eq]
      split <;> exact nofun
    have booked : ¬ (store.book reference).HasRefusal :=
      unrefused_push sound.unrefused rfl fun other refused =>
        accepted (Occurrence.released.inj refused).2
    unfold Store.giveBack
    split
    next => exact unrefused_push booked rfl fun _ => nofun
    next => exact booked

/-- As long as references are duplicated only by counting them, a store stays sound. -/
theorem invariant : Invariant False (@Sound kinds) where
  inside memory globals sound := sound.inside memory globals
  call entered plain sound := sound.call entered plain
  rebind kind function sound := sound.rebind kind function
  enroll representation bound sound := sound.enroll representation bound
  count known sound := sound.count (by rw [sound.balanced.counted]; exact known)
  share allowed := allowed.elim
  place sound := sound.place
  take taken sound := sound.take taken
  empty kind sound := sound.empty kind
  withInFlight inFlight sound := sound.withInFlight inFlight
  giveBack entered sound := sound.giveBack entered

end Sound

end Store

end GuestBoundary
