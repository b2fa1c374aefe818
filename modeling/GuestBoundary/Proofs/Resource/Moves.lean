import Mathlib.Logic.Relation
import GuestBoundary.Proofs.Blame
import GuestBoundary.Proofs.Resource.Operations

/-!
# The moves of a store

Whatever a guest does, and whatever hosts let it do, a store changes in five ways only. They are
listed once, so that a fact about all runs is shown by looking at five moves. Giving a reference
back and entering its destructor is one move: nobody can look in between.
-/

namespace GuestBoundary

variable {kinds : Nat}

namespace Store

/-- The store once a reference is given back and, if it was the last one, its destructor is
called. -/
def giveBack (entered : Bool) (reference : Reference kinds) (store : Store kinds) : Store kinds :=
  match store.verdict reference with
  | .last call => (store.book reference).note (.called call entered)
  | _ => store.book reference

/-- What a guest can do to a store, or a host for it; a handle can be had for any reference that
has a handle already, or that the host owns. -/
inductive Move (owned : Reference kinds → Prop) (store : Store kinds) : Store kinds → Prop where
  | inside (memory : Bytes) (globals : Array Word) :
      Move owned store { store with memory, globals }
  | call (call : Call kinds) (entered : Bool) (plain : call.onBehalfOf = none) :
      Move owned store (store.note (.called call entered))
  | wrap (kind : Fin kinds) (representation : Word) (function : FunctionId)
      (bound : (store.registry kind).destructor = some function) :
      Move owned store
        ((store.enroll kind representation function).place (store.nextReference kind))
  | lower (reference : Reference kinds) (known : owned reference ∨ 0 < store.slots reference) :
      Move owned store ((store.count reference).place reference)
  | drop (kind : Fin kinds) (handle : Word) (identity : Nat) (table : Slab Nat)
      (taken : (store.registry kind).table.take handle = .ok (identity, table)) (entered : Bool) :
      Move owned store ((store.withTable kind table).giveBack entered { kind, identity })

/-- Any number of moves. -/
abbrev Evolves (owned : Reference kinds → Prop) : Store kinds → Store kinds → Prop :=
  Relation.ReflTransGen (Move owned)

/-- What has happened to a store. -/
def record (store : Store kinds) : List (Occurrence kinds) := store.log.toList

/-- A reference was refused at some time. -/
def HasRefusal (store : Store kinds) : Prop :=
  ∃ reference, .released reference .refused ∈ store.log

end Store

/-- A destructor is bound for every kind of resource. -/
def Store.Equipped (store : Store kinds) : Prop :=
  ∀ kind, (store.registry kind).destructor.isSome = true

/-- Where a fault goes back to a refused reference, the log says so. One that goes back to a lookup
of an export comes up only if there was one, or if a destructor is wanting. -/
structure Fault.Traced (looking : Prop) (fault : Fault) (store : Store kinds) : Prop where
  refused : fault.isDoubleDrop = true → store.HasRefusal
  known : fault.isOfLookup = true → looking ∨ ¬ store.Equipped

/-- An abort is traced if the fault is that the host makes of it. -/
def Abort.Traced (looking : Prop) (abort : Abort) (store : Store kinds) : Prop :=
  abort.recover.Traced looking store

/-- A fault that a step raises by itself, where nothing was called that could have raised it. -/
structure Fault.Ordinary (looking : Prop) (fault : Fault) (store : Store kinds) : Prop where
  own : fault.isOwn = true
  known : fault.isOfLookup = true → looking ∨ ¬ store.Equipped

section

variable {looking : Prop} {fault other : Fault} {store : Store kinds}

namespace Fault

theorem Ordinary.traced (ordinary : fault.Ordinary looking store) :
    fault.Traced looking store where
  refused blamed := by
    rw [isDoubleDrop_of_isOwn ordinary.own] at blamed
    cases blamed
  known := ordinary.known

/-- A fault that is about no export is ordinary anywhere. -/
theorem ordinary_of_isOwn (own : fault.isOwn = true) (unlooked : fault.isOfLookup = false) :
    fault.Ordinary looking store where
  own := own
  known found := nomatch unlooked.symm.trans found

/-- A handle that names nothing is no fault of a reference, and of no export. -/
theorem ordinary_of_fetch {table : Slab Nat} {handle : Word}
    (failed : table.fetch handle = .error fault) : fault.Ordinary looking store := by
  rw [Slab.fault_of_fetch failed]
  exact ordinary_of_isOwn rfl rfl

@[inherit_doc ordinary_of_fetch]
theorem ordinary_of_take {table : Slab Nat} {handle : Word}
    (failed : table.take handle = .error fault) : fault.Ordinary looking store := by
  rw [Slab.fault_of_take failed]
  exact ordinary_of_isOwn rfl rfl

theorem ordinary_of_unbound {kind : Fin kinds} (text : String)
    (unbound : (store.registry kind).destructor = none) :
    (missingExport text).Ordinary looking store where
  own := rfl
  known _ := .inr fun equipped => nomatch unbound ▸ equipped kind

/-- Whether a fault is traced depends on what it goes back to. -/
theorem Traced.of_root_eq (traced : fault.Traced looking store) (same : other.root = fault.root) :
    other.Traced looking store where
  refused blamed := by
    rw [← isDoubleDrop_root, same, isDoubleDrop_root] at blamed
    exact traced.refused blamed
  known found := by
    rw [isOfLookup, same] at found
    exact traced.known found

theorem Traced.abort (fault : Fault) (store : Store kinds) (traced : fault.Traced looking store) :
    fault.abort.Traced looking store :=
  traced.of_root_eq (by simp)

end Fault

namespace Abort.Traced

theorem recover (abort : Abort) (store : Store kinds) (traced : abort.Traced looking store) :
    abort.recover.Traced looking store := traced

theorem withNotes (notes : List String) (abort : Abort) (store : Store kinds)
    (traced : abort.Traced looking store) : (abort.withNotes notes).Traced looking store :=
  Fault.Traced.of_root_eq traced (by simp)

end Abort.Traced

end

namespace Store

/-! ### The views of a store after giving a reference back -/

@[simp]
theorem resource_giveBack (store : Store kinds) (entered : Bool)
    (reference other : Reference kinds) :
    (store.giveBack entered reference).resource other =
      if reference = other then (store.resource reference).released
      else store.resource other := by
  unfold giveBack
  split <;> simp

@[simp]
theorem slots_giveBack (store : Store kinds) (entered : Bool)
    (reference other : Reference kinds) :
    (store.giveBack entered reference).slots other = store.slots other := by
  unfold giveBack
  split <;> simp

@[simp]
theorem wraps_giveBack (store : Store kinds) (entered : Bool)
    (reference other : Reference kinds) :
    (store.giveBack entered reference).Wraps other ↔ store.Wraps other := by
  unfold giveBack
  split <;> simp [book]

@[simp]
theorem destructor_giveBack (store : Store kinds) (entered : Bool)
    (reference : Reference kinds) (kind : Fin kinds) :
    ((store.giveBack entered reference).registry kind).destructor =
      (store.registry kind).destructor := by
  unfold giveBack
  split <;> simp [book]

@[simp]
theorem inFlight_giveBack (store : Store kinds) (entered : Bool) (reference : Reference kinds) :
    (store.giveBack entered reference).inFlight = store.inFlight := by
  unfold giveBack
  split <;> rfl

/-! ### Logs only grow -/

@[simp]
theorem log_note (store : Store kinds) (occurrence : Occurrence kinds) :
    (store.note occurrence).log = store.log.push occurrence := rfl

@[simp]
theorem log_onRegistry (store : Store kinds) (kind : Fin kinds) (change : Registry → Registry) :
    (store.onRegistry kind change).log = store.log := rfl

@[simp]
theorem log_book (store : Store kinds) (reference : Reference kinds) :
    (store.book reference).log =
      store.log.push (.released reference (store.verdict reference)) := rfl

@[simp]
theorem log_enroll (store : Store kinds) (kind : Fin kinds) (representation : Word)
    (destructor : FunctionId) :
    (store.enroll kind representation destructor).log =
      store.log.push
        (.wrapped (store.nextReference kind) (freshResource representation destructor)) := rfl

@[simp]
theorem log_place (store : Store kinds) (reference : Reference kinds) :
    (store.place reference).log = store.log := rfl

@[simp]
theorem log_count (store : Store kinds) (reference : Reference kinds) :
    (store.count reference).log = store.log := rfl

@[simp]
theorem log_withTable (store : Store kinds) (kind : Fin kinds) (table : Slab Nat) :
    (store.withTable kind table).log = store.log := rfl

theorem log_giveBack_grows (store : Store kinds) (entered : Bool) (reference : Reference kinds) :
    store.log.toList <+: (store.giveBack entered reference).log.toList := by
  unfold giveBack
  split <;> simp

theorem Move.log_grows {owned : Reference kinds → Prop} {store next : Store kinds}
    (move : store.Move owned next) : store.log.toList <+: next.log.toList := by
  cases move with
  | inside => exact List.prefix_rfl
  | call => simp
  | wrap => simp
  | lower => simp
  | drop kind handle identity table =>
      exact log_giveBack_grows (store.withTable kind table) _ _

theorem Evolves.log_grows {owned : Reference kinds → Prop} {store later : Store kinds}
    (evolves : store.Evolves owned later) : store.log.toList <+: later.log.toList := by
  induction evolves with
  | refl => exact List.prefix_rfl
  | tail _ move inductionHypothesis => exact inductionHypothesis.trans move.log_grows

/-! ### Destructors stay bound, and nothing moves a reference in flight -/

theorem Move.equipped {owned : Reference kinds → Prop} {store next : Store kinds}
    (move : store.Move owned next) (equipped : store.Equipped) : next.Equipped := by
  intro kind
  have bound := equipped kind
  cases move with
  | inside | call => exact bound
  | wrap => simpa [enroll, place] using bound
  | lower => simpa [count, place] using bound
  | drop => simpa using bound

/-- A guest leaves the references alone that are on their way to be given back. -/
theorem Move.inFlight_eq {owned : Reference kinds → Prop} {store next : Store kinds}
    (move : store.Move owned next) : next.inFlight = store.inFlight := by
  cases move with
  | drop => exact inFlight_giveBack _ _ _
  | _ => rfl

theorem Evolves.inFlight_eq {owned : Reference kinds → Prop} {store later : Store kinds}
    (evolves : store.Evolves owned later) : later.inFlight = store.inFlight := by
  induction evolves with
  | refl => rfl
  | tail _ move inductionHypothesis => rw [move.inFlight_eq, inductionHypothesis]

end Store

end GuestBoundary
