import GuestBoundary.Proofs.Resource.Moves
import GuestBoundary.Proofs.Resource.Operations

/-!
# The balance of references

A reference lies in a table or outside all tables. Relative to an account of the references
outside, a store is balanced if each record counts exactly the references to it, and a resource is
destroyed exactly when none is left. Every step that moves, makes or gives back a reference keeps
the balance and changes the account by that one reference.
-/

namespace GuestBoundary

variable {kinds : Nat}

/-- How many references to each resource lie outside the tables. -/
abbrev Account (kinds : Nat) := Reference kinds → Nat

/-- The account with one more reference. -/
def Account.add (reference : Reference kinds) (outside : Account kinds) : Account kinds :=
  fun other => outside other + if reference = other then 1 else 0

def Account.addAll (references : List (Reference kinds)) (outside : Account kinds) :
    Account kinds :=
  fun other => outside other + references.count other

theorem Account.addAll_cons (outside : Account kinds) (reference : Reference kinds)
    (references : List (Reference kinds)) :
    outside.addAll (reference :: references) = (outside.addAll references).add reference := by
  funext other
  simp only [addAll, add, List.count_cons, beq_iff_eq]
  omega

namespace Store

/-- Each record counts the references outside the tables and those in them, and a resource is
destroyed exactly when it has none. -/
structure Balanced (outside : Account kinds) (store : Store kinds) : Prop where
  counted : ∀ reference,
    (store.resource reference).references = outside reference + store.slots reference
  destroyed_iff : ∀ reference,
    (store.resource reference).destroyed = true ↔ (store.resource reference).references = 0

theorem wraps_of_references_pos {store : Store kinds} {reference : Reference kinds}
    (positive : 0 < (store.resource reference).references) : store.Wraps reference := by
  apply Decidable.byContradiction
  intro unwrapped
  rw [resource_of_not_wraps unwrapped] at positive
  exact Nat.lt_irrefl 0 positive

namespace Balanced

variable {outside : Account kinds} {store : Store kinds}

theorem of_views {other : Store kinds} (balanced : store.Balanced outside)
    (resources : ∀ reference, other.resource reference = store.resource reference)
    (slots : ∀ reference, other.slots reference = store.slots reference) :
    other.Balanced outside where
  counted reference := by rw [resources, slots, balanced.counted]
  destroyed_iff reference := by rw [resources, balanced.destroyed_iff]

theorem references_pos_of_slots (balanced : store.Balanced outside)
    {reference : Reference kinds} (held : 0 < store.slots reference) :
    0 < (store.resource reference).references := by
  rw [balanced.counted]
  omega

theorem add_references_pos {reference : Reference kinds}
    (balanced : store.Balanced (outside.add reference)) :
    0 < (store.resource reference).references := by
  rw [balanced.counted, Account.add, if_pos rfl]
  omega

theorem enroll (balanced : store.Balanced outside) (kind : Fin kinds)
    (representation : Word) (destructor : FunctionId) :
    (store.enroll kind representation destructor).Balanced
      (outside.add (store.nextReference kind)) := by
  have unused : outside (store.nextReference kind) + store.slots (store.nextReference kind) =
      0 := by
    rw [← balanced.counted, resource_of_not_wraps (store.nextReference_not_wraps kind)]
    rfl
  constructor
  · intro reference
    rw [Store.enroll, resource_note, slots_note, resource_addResource, slots_addResource,
      Account.add]
    split
    next same =>
      subst same
      simp only [freshResource]
      omega
    next => exact balanced.counted reference
  · intro reference
    rw [Store.enroll, resource_note, resource_addResource]
    split
    next => simp [freshResource]
    next => exact balanced.destroyed_iff reference

theorem count (balanced : store.Balanced outside) {reference : Reference kinds}
    (alive : 0 < (store.resource reference).references) :
    (store.count reference).Balanced (outside.add reference) := by
  have wrapped := wraps_of_references_pos alive
  constructor
  · intro other
    rw [Store.count, resource_onResource, slots_onResource, Account.add]
    by_cases same : reference = other
    · subst same
      simp only [wrapped, and_self, if_true, balanced.counted]
      omega
    · simp [same, balanced.counted]
  · intro other
    rw [Store.count, resource_onResource]
    by_cases same : reference = other
    · subst same
      have present := balanced.destroyed_iff reference
      simp only [wrapped, and_self, if_true, present]
      omega
    · simpa [same] using balanced.destroyed_iff other

theorem place {reference : Reference kinds}
    (balanced : store.Balanced (outside.add reference)) :
    (store.place reference).Balanced outside where
  counted other := by
    rw [resource_place, slots_place, balanced.counted, Account.add]
    omega
  destroyed_iff other := by rw [resource_place, balanced.destroyed_iff]

theorem take (balanced : store.Balanced outside) {kind : Fin kinds} {handle : Word}
    {identity : Nat} {table : Slab Nat}
    (taken : (store.registry kind).table.take handle = .ok (identity, table)) :
    (store.withTable kind table).Balanced (outside.add { kind, identity }) where
  counted other := by
    rw [resource_withTable, balanced.counted, slots_of_take taken, Account.add]
    omega
  destroyed_iff other := by rw [resource_withTable, balanced.destroyed_iff]

theorem empty (balanced : store.Balanced outside) (kind : Fin kinds) :
    (store.withTable kind ∅).Balanced (outside.addAll (store.parked kind)) where
  counted other := by
    have emptied := store.slots_withTable kind ∅ other
    rw [resource_withTable, balanced.counted, emptied, Account.addAll, count_parked]
    split
    next => exact (Nat.add_zero _).symm
    next => rfl
  destroyed_iff other := by rw [resource_withTable, balanced.destroyed_iff]

/-- While a reference is left outside, giving it back is never refused, and it is the last one
exactly when there is no other. -/
theorem verdict_eq {reference : Reference kinds}
    (balanced : store.Balanced (outside.add reference)) :
    store.verdict reference =
      if outside reference + store.slots reference = 0 then
        .last ((store.resource reference).destructorCall reference)
      else .shared := by
  have alive := balanced.add_references_pos
  have counted := balanced.counted reference
  have present := balanced.destroyed_iff reference
  rw [Account.add, if_pos rfl] at counted
  have whole : (store.resource reference).destroyed = false := by
    rw [← Bool.not_eq_true, present]
    omega
  by_cases last : outside reference + store.slots reference = 0
  · have one : (store.resource reference).references = 1 := by omega
    rw [if_pos last]
    simp [verdict, Resource.verdict, whole, one]
  · have more : (store.resource reference).references ≠ 1 := by omega
    rw [if_neg last]
    simp [verdict, Resource.verdict, whole, more]

theorem book {reference : Reference kinds}
    (balanced : store.Balanced (outside.add reference)) :
    (store.book reference).Balanced outside := by
  have alive := balanced.add_references_pos
  have whole : (store.resource reference).destroyed = false := by
    rw [← Bool.not_eq_true, balanced.destroyed_iff]
    omega
  constructor
  · intro other
    have counted := balanced.counted other
    rw [Account.add] at counted
    rw [resource_book, slots_book]
    by_cases same : reference = other
    · subst same
      rw [if_pos rfl] at counted ⊢
      simp only [Resource.released, whole, Bool.false_eq_true, if_false, counted]
      omega
    · simpa [same] using counted
  · intro other
    rw [resource_book]
    by_cases same : reference = other
    · subst same
      simp only [if_true, Resource.released, whole, Bool.false_eq_true, if_false,
        decide_eq_true_eq]
      omega
    · simpa [same] using balanced.destroyed_iff other

end Balanced

end Store

/-!
## Invariants of a store and its references

What is said about a store may depend on the references that lie outside its tables. It is an
invariant if it survives each single thing that host and guest do: making a reference, counting
one, moving one in or out of a table, and giving one back. Whether a reference may also be
duplicated without counting it is a parameter.
-/

namespace Store

/-- A statement about a store and the references outside its tables that every step keeps. -/
structure Invariant (aliasing : Prop) (holds : Account kinds → Store kinds → Prop) : Prop where
  inside {outside : Account kinds} {store : Store kinds} (memory : Bytes) (globals : Array Word)
    (held : holds outside store) : holds outside { store with memory, globals }
  call {outside : Account kinds} {store : Store kinds} {call : Call kinds} (entered : Bool)
    (plain : call.onBehalfOf = none) (held : holds outside store) :
    holds outside (store.note (.called call entered))
  rebind {outside : Account kinds} {store : Store kinds} (kind : Fin kinds)
    (function : FunctionId) (held : holds outside store) :
    holds outside (store.rebind kind function)
  enroll {outside : Account kinds} {store : Store kinds} {kind : Fin kinds}
    {function : FunctionId} (representation : Word)
    (bound : (store.registry kind).destructor = some function) (held : holds outside store) :
    holds (outside.add (store.nextReference kind)) (store.enroll kind representation function)
  count {outside : Account kinds} {store : Store kinds} {reference : Reference kinds}
    (known : 0 < outside reference + store.slots reference) (held : holds outside store) :
    holds (outside.add reference) (store.count reference)
  share {outside : Account kinds} {store : Store kinds} {reference : Reference kinds}
    (allowed : aliasing) (known : 0 < outside reference + store.slots reference)
    (held : holds outside store) : holds (outside.add reference) store
  place {outside : Account kinds} {store : Store kinds} {reference : Reference kinds}
    (held : holds (outside.add reference) store) : holds outside (store.place reference)
  take {outside : Account kinds} {store : Store kinds} {kind : Fin kinds} {handle : Word}
    {identity : Nat} {table : Slab Nat}
    (taken : (store.registry kind).table.take handle = .ok (identity, table))
    (held : holds outside store) :
    holds (outside.add { kind, identity }) (store.withTable kind table)
  empty {outside : Account kinds} {store : Store kinds} (kind : Fin kinds)
    (held : holds outside store) :
    holds (outside.addAll (store.parked kind)) (store.withTable kind ∅)
  withInFlight {outside : Account kinds} {store : Store kinds}
    (inFlight : List (Reference kinds)) (held : holds outside store) :
    holds outside { store with inFlight }
  giveBack {outside : Account kinds} {store : Store kinds} {reference : Reference kinds}
    (entered : Bool) (held : holds (outside.add reference) store) :
    holds outside (store.giveBack entered reference)

namespace Invariant

variable {aliasing : Prop} {holds : Account kinds → Store kinds → Prop}
  {outside : Account kinds} {store : Store kinds} {owned : Reference kinds → Prop}

/-- A move of the store is a move within its tables. -/
theorem move (invariant : Invariant aliasing holds) (held : holds outside store)
    (counted : ∀ reference, owned reference → 0 < outside reference) {next : Store kinds}
    (move : store.Move owned next) : holds outside next := by
  cases move with
  | inside memory globals => exact invariant.inside memory globals held
  | call call entered plain => exact invariant.call entered plain held
  | wrap kind representation function bound =>
      exact invariant.place (invariant.enroll representation bound held)
  | lower reference known =>
      apply invariant.place
      apply invariant.count ?_ held
      rcases known with host | parked
      · exact Nat.add_pos_left (counted reference host) _
      · exact Nat.add_pos_right _ parked
  | drop kind handle identity table taken entered =>
      exact invariant.giveBack entered (invariant.take taken held)

theorem evolves (invariant : Invariant aliasing holds) (held : holds outside store)
    (counted : ∀ reference, owned reference → 0 < outside reference) {later : Store kinds}
    (evolves : store.Evolves owned later) : holds outside later := by
  induction evolves with
  | refl => exact held
  | tail _ move inductionHypothesis => exact invariant.move inductionHypothesis counted move

/-- Two invariants together are one. -/
theorem and {also : Account kinds → Store kinds → Prop} (first : Invariant aliasing holds)
    (second : Invariant aliasing also) :
    Invariant aliasing fun outside store => holds outside store ∧ also outside store where
  inside memory globals :=
    And.imp (first.inside memory globals) (second.inside memory globals)
  call entered plain := And.imp (first.call entered plain) (second.call entered plain)
  rebind kind function := And.imp (first.rebind kind function) (second.rebind kind function)
  enroll representation bound :=
    And.imp (first.enroll representation bound) (second.enroll representation bound)
  count known := And.imp (first.count known) (second.count known)
  share allowed known := And.imp (first.share allowed known) (second.share allowed known)
  place := And.imp first.place second.place
  take taken := And.imp (first.take taken) (second.take taken)
  empty kind := And.imp (first.empty kind) (second.empty kind)
  withInFlight inFlight := And.imp (first.withInFlight inFlight) (second.withInFlight inFlight)
  giveBack entered := And.imp (first.giveBack entered) (second.giveBack entered)

end Invariant

end Store

end GuestBoundary
