import GuestBoundary.Proofs.Resource.Balance
import GuestBoundary.Proofs.Resource.Chronicle

/-!
# Stores whose references were duplicated

Where references are duplicated without being counted, a count says nothing about how many there
are. What is left is that every reference names a record, that a resource which is not destroyed
has a count to be given back, and that the log agrees with the records. This much is invariant, and
it is all that a release needs: the flag is looked at before the count is touched, and set before
the guest is entered.
-/

namespace GuestBoundary

variable {kinds : Nat}

theorem Resource.released_of_destroyed {resource : Resource}
    (destroyed : resource.destroyed = true) : resource.released = resource := by
  rw [released, if_pos destroyed]

/-- A count that is given back stays above zero, or the resource is destroyed. -/
theorem Resource.references_released_pos {resource : Resource}
    (alive : resource.destroyed = false → 0 < resource.references)
    (kept : resource.released.destroyed = false) : 0 < resource.released.references := by
  unfold released at kept ⊢
  by_cases destroyed : resource.destroyed = true
  · rw [if_pos destroyed] at kept
    rw [destroyed] at kept
    cases kept
  · rw [if_neg destroyed] at kept ⊢
    have counted := alive (Bool.eq_false_iff.mpr destroyed)
    have more : resource.references ≠ 1 := of_decide_eq_false kept
    exact Nat.sub_pos_of_lt (Nat.lt_of_le_of_ne counted more.symm)

namespace Store

/-! ### Names -/

/-- The kinds are called what they were called when the store was made. -/
def Named (names : Fin kinds → String) (store : Store kinds) : Prop :=
  ∀ kind, (store.registry kind).name = names kind

namespace Named

variable {names : Fin kinds → String} {store : Store kinds}

theorem onRegistry (named : store.Named names) (kind : Fin kinds)
    {change : Registry → Registry} (same : ∀ registry, (change registry).name = registry.name) :
    (store.onRegistry kind change).Named names := by
  intro other
  rw [registry_onRegistry]
  split
  next here => rw [same, here, named]
  next => exact named other

theorem withTable (named : store.Named names) (kind : Fin kinds) (table : Slab Nat) :
    (store.withTable kind table).Named names :=
  named.onRegistry kind fun _ => rfl

theorem noted (named : store.Named names) (occurrence : Occurrence kinds) :
    (store.note occurrence).Named names :=
  named

theorem giveBack (named : store.Named names) (entered : Bool) (reference : Reference kinds) :
    (store.giveBack entered reference).Named names := by
  have booked : (store.book reference).Named names := by
    apply noted
    apply named.onRegistry
    exact fun _ => rfl
  unfold Store.giveBack
  split <;> exact booked

theorem invariant (aliasing : Prop) : Invariant aliasing fun _ store => store.Named names where
  inside _ _ named := named
  call _ _ named := named
  rebind _ _ named := by
    apply noted
    apply named.onRegistry
    exact fun _ => rfl
  enroll _ _ named := by
    apply noted
    apply named.onRegistry
    exact fun _ => rfl
  count _ named := named.onRegistry _ fun _ => rfl
  share _ _ named := named
  place named := named.withTable _ _
  take _ named := named.withTable _ _
  empty kind named := named.withTable kind _
  withInFlight _ named := named
  giveBack entered named := named.giveBack entered _

end Named

theorem named_self (store : Store kinds) : store.Named fun kind => (store.registry kind).name :=
  fun _ => rfl

theorem name_withTable (store : Store kinds) (kind other : Fin kinds) (table : Slab Nat) :
    ((store.withTable kind table).registry other).name = (store.registry other).name :=
  store.named_self.withTable kind table other

theorem name_giveBack (store : Store kinds) (entered : Bool) (reference : Reference kinds)
    (kind : Fin kinds) :
    ((store.giveBack entered reference).registry kind).name = (store.registry kind).name :=
  store.named_self.giveBack entered reference kind

/-! ### Counts -/

/-- A resource that is not destroyed has a count. -/
def Alive (store : Store kinds) : Prop :=
  ∀ reference, (store.resource reference).destroyed = false →
    0 < (store.resource reference).references

namespace Alive

variable {store : Store kinds}

theorem of_resources {other : Store kinds} (alive : store.Alive)
    (same : ∀ reference, other.resource reference = store.resource reference) : other.Alive := by
  intro reference kept
  rw [same] at kept ⊢
  exact alive reference kept

theorem enroll (alive : store.Alive) (kind : Fin kinds) (representation : Word)
    (destructor : FunctionId) : (store.enroll kind representation destructor).Alive := by
  intro reference kept
  rw [Store.enroll, resource_note, resource_addResource] at kept ⊢
  split
  next => exact Nat.one_pos
  next different =>
    rw [if_neg different] at kept
    exact alive reference kept

theorem count (alive : store.Alive) (counted : Reference kinds) :
    (store.count counted).Alive := by
  intro reference kept
  rw [Store.count, resource_onResource] at kept ⊢
  split
  next => exact Nat.succ_pos _
  next different =>
    rw [if_neg different] at kept
    exact alive reference kept

theorem giveBack (alive : store.Alive) (entered : Bool) (given : Reference kinds) :
    (store.giveBack entered given).Alive := by
  intro reference kept
  rw [resource_giveBack] at kept ⊢
  split
  next here =>
    rw [if_pos here] at kept
    exact Resource.references_released_pos (alive given) kept
  next different =>
    rw [if_neg different] at kept
    exact alive reference kept

theorem invariant (aliasing : Prop) : Invariant aliasing fun _ => @Alive kinds where
  inside _ _ alive := alive
  call _ _ alive := alive
  rebind kind function alive := alive.of_resources (resource_rebind _ kind function)
  enroll representation _ alive := alive.enroll _ representation _
  count _ alive := alive.count _
  share _ _ alive := alive
  place alive := alive.of_resources (resource_place _ _)
  take _ alive := alive.of_resources (resource_withTable _ _ _)
  empty kind alive := alive.of_resources (resource_withTable _ kind _)
  withInFlight _ alive := alive
  giveBack entered alive := alive.giveBack entered _

end Alive

/-! ### References -/

/-- Every reference names a record, and the log agrees with the records. -/
structure Tracked (outside : Account kinds) (store : Store kinds) : Prop where
  known : ∀ reference, 0 < outside reference + store.slots reference → store.Wraps reference
  chronicled : store.Chronicled

namespace Tracked

variable {outside : Account kinds} {store : Store kinds}

theorem wraps_of_add {reference : Reference kinds}
    (tracked : store.Tracked (outside.add reference)) : store.Wraps reference := by
  apply tracked.known
  rw [Account.add, if_pos rfl]
  exact Nat.add_pos_left (Nat.succ_pos _) _

/-- References may be moved and duplicated, but none comes up that was not there. -/
theorem of_known {others : Account kinds} {other : Store kinds} (tracked : store.Tracked outside)
    (wraps : ∀ reference, store.Wraps reference → other.Wraps reference)
    (known : ∀ reference, 0 < others reference + other.slots reference →
      0 < outside reference + store.slots reference)
    (chronicled : other.Chronicled) : other.Tracked others where
  known reference somewhere := wraps reference (tracked.known reference (known reference somewhere))
  chronicled := chronicled

theorem enroll (tracked : store.Tracked outside) {kind : Fin kinds} (representation : Word)
    {function : FunctionId} (bound : (store.registry kind).destructor = some function) :
    (store.enroll kind representation function).Tracked
      (outside.add (store.nextReference kind)) where
  known reference somewhere := by
    apply (wraps_addResource store kind _ reference).mpr
    by_cases next : store.nextReference kind = reference
    · exact .inl next
    · rw [Account.add, if_neg next, Store.enroll, slots_note, slots_addResource] at somewhere
      exact .inr (tracked.known reference somewhere)
  chronicled := tracked.chronicled.enroll representation bound

/-- A reference to a record may be had once more. -/
theorem add_of_wraps (tracked : store.Tracked outside) {reference : Reference kinds}
    (wrapped : store.Wraps reference) : store.Tracked (outside.add reference) := by
  refine ⟨fun other somewhere => ?_, tracked.chronicled⟩
  rw [Account.add] at somewhere
  split at somewhere
  next same => exact same ▸ wrapped
  next => exact tracked.known other somewhere

theorem add (tracked : store.Tracked outside) {reference : Reference kinds}
    (known : 0 < outside reference + store.slots reference) :
    store.Tracked (outside.add reference) :=
  tracked.add_of_wraps (tracked.known reference known)

theorem count (tracked : store.Tracked outside) (reference : Reference kinds) :
    (store.count reference).Tracked outside := by
  refine tracked.of_known (fun _ => (wraps_onResource _ _ _ _).mpr) (fun other somewhere => ?_)
    (tracked.chronicled.count reference)
  rw [Store.count, slots_onResource] at somewhere
  exact somewhere

theorem place {reference : Reference kinds} (tracked : store.Tracked (outside.add reference)) :
    (store.place reference).Tracked outside := by
  refine tracked.of_known (fun _ => (wraps_withTable _ _ _ _).mpr) (fun other somewhere => ?_)
    (tracked.chronicled.place reference)
  rw [slots_place] at somewhere
  rw [Account.add]
  omega

theorem take (tracked : store.Tracked outside) {kind : Fin kinds} {handle : Word}
    {identity : Nat} {table : Slab Nat}
    (taken : (store.registry kind).table.take handle = .ok (identity, table)) :
    (store.withTable kind table).Tracked (outside.add { kind, identity }) := by
  refine tracked.of_known (fun _ => (wraps_withTable _ _ _ _).mpr) (fun other somewhere => ?_)
    (tracked.chronicled.withTable kind table)
  rw [slots_of_take taken]
  rw [Account.add] at somewhere
  omega

theorem empty (tracked : store.Tracked outside) (kind : Fin kinds) :
    (store.withTable kind ∅).Tracked (outside.addAll (store.parked kind)) := by
  refine tracked.of_known (fun _ => (wraps_withTable _ _ _ _).mpr) (fun other somewhere => ?_)
    (tracked.chronicled.withTable kind ∅)
  have emptied := store.slots_withTable kind ∅ other
  rw [Account.addAll, count_parked, emptied] at somewhere
  split at somewhere
  next => exact somewhere
  next => exact somewhere

theorem withInFlight (tracked : store.Tracked outside) (inFlight : List (Reference kinds)) :
    { store with inFlight }.Tracked outside where
  known := tracked.known
  chronicled :=
    tracked.chronicled.of_views rfl (fun _ => rfl) (fun _ => Iff.rfl) fun _ => ⟨_, rfl⟩

theorem giveBack {reference : Reference kinds} (tracked : store.Tracked (outside.add reference))
    (entered : Bool) : (store.giveBack entered reference).Tracked outside := by
  refine tracked.of_known (fun _ => (wraps_giveBack _ _ _ _).mpr) (fun other somewhere => ?_)
    (tracked.chronicled.giveBack tracked.wraps_of_add entered)
  rw [slots_giveBack] at somewhere
  rw [Account.add]
  omega

theorem invariant (aliasing : Prop) : Invariant aliasing (@Tracked kinds) where
  inside memory globals tracked := ⟨tracked.known, tracked.chronicled.inside memory globals⟩
  call entered plain tracked := ⟨tracked.known, tracked.chronicled.call entered plain⟩
  rebind kind function tracked := by
    refine tracked.of_known (fun reference wrapped => ?_) (fun reference => ?_)
      (tracked.chronicled.rebind kind function)
    · rw [Store.rebind, wraps_note, wraps_onRegistry]
      · exact wrapped
      · exact fun _ => rfl
    · rw [slots_rebind]
      exact id
  enroll representation bound tracked := tracked.enroll representation bound
  count known tracked := (tracked.count _).add (by rw [Store.count, slots_onResource]; exact known)
  share _ known tracked := tracked.add known
  place tracked := tracked.place
  take taken tracked := tracked.take taken
  empty kind tracked := tracked.empty kind
  withInFlight inFlight tracked := tracked.withInFlight inFlight
  giveBack entered tracked := tracked.giveBack entered

end Tracked

end Store

end GuestBoundary
