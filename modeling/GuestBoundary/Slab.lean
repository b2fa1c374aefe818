import GuestBoundary.Fault

/-!
# Slabs

A slab maps handles to values and reuses the slots of removed values, the last one freed first.
The free slots form a list threaded through themselves: `head` is its first slot, each free slot
names the next, and the list ends at the number of slots. A slab grows only when the list is
exhausted.
-/

namespace GuestBoundary

inductive Slot (α : Type) where
  /-- A free slot and the one after it on the free list. -/
  | free (next : Nat)
  | occupied (value : α)
deriving DecidableEq

namespace Slot

variable {α : Type}

def value? : Slot α → Option α
  | free _ => none
  | occupied value => some value

end Slot

/-- Values under handles, with a list of free slots. -/
structure Slab (α : Type) where
  slots : Array (Slot α)
  /-- The first free slot, or the number of slots. -/
  head : Nat
  live : Nat
deriving DecidableEq

namespace Slab

variable {α : Type}

instance : EmptyCollection (Slab α) := ⟨{ slots := #[], head := 0, live := 0 }⟩

def get? (slab : Slab α) (handle : Nat) : Option α := slab.slots[handle]? >>= Slot.value?

/-- Puts a value into the first free slot, or into a new one when there is none. -/
def insert (slab : Slab α) (value : α) : Nat × Slab α :=
  match slab.slots[slab.head]? with
  | some (.free next) =>
      (slab.head,
        { slots := slab.slots.setIfInBounds slab.head (.occupied value)
          head := next
          live := slab.live + 1 })
  | _ =>
      (slab.slots.size,
        { slots := slab.slots.push (.occupied value)
          head := slab.slots.size + 1
          live := slab.live + 1 })

/-- Takes the value under a handle out; its slot becomes the first free one. -/
def remove? (slab : Slab α) (handle : Nat) : Option (α × Slab α) :=
  match slab.get? handle with
  | none => none
  | some value =>
      some (value,
        { slots := slab.slots.setIfInBounds handle (.free slab.head)
          head := handle
          live := slab.live - 1 })

/-- The values in the order of their handles. -/
def values (slab : Slab α) : List α := slab.slots.toList.filterMap Slot.value?

def drain (slab : Slab α) : List α × Slab α := (slab.values, ∅)

def size (slab : Slab α) : Nat := slab.live

def isEmpty (slab : Slab α) : Bool := slab.size = 0

/-! ## Handles as the guest sends them -/

/-- The value under a handle, or the fault that the handle holds none. -/
def fetch (slab : Slab α) (handle : Word) : Except Fault α :=
  match slab.get? handle.toNat with
  | some value => .ok value
  | none => .error (.invalidHandle handle)

/-- Takes the value under a handle out, or faults and changes nothing. -/
def take (slab : Slab α) (handle : Word) : Except Fault (α × Slab α) :=
  match slab.remove? handle.toNat with
  | some taken => .ok taken
  | none => .error (.invalidHandle handle)

/-- Puts a value in and says under which handle. -/
def put (slab : Slab α) (value : α) : Word × Slab α :=
  let (handle, grown) := slab.insert value
  (UInt32.ofNat handle, grown)

end Slab

/-!
## The promise

What a slab promises, without its representation: a finite map from handles to values, and an
endless stack of free handles that starts as 0, 1, 2, … and on which a removed handle goes on top.
-/

/-- A map with an endless stack of free handles. -/
structure FreeStack (α : Type) where
  values : List (Nat × α)
  /-- The free handles, from the top of the stack down. -/
  free : Nat → Nat

namespace FreeStack

variable {α : Type}

instance : EmptyCollection (FreeStack α) := ⟨{ values := [], free := id }⟩

/-- The stack with one more handle on top. -/
def push (handle : Nat) (free : Nat → Nat) : Nat → Nat
  | 0 => handle
  | depth + 1 => free depth

/-- The most recent value under a handle that is in use. -/
def get? (stack : FreeStack α) (handle : Nat) : Option α := stack.values.lookup handle

def insert (stack : FreeStack α) (value : α) : Nat × FreeStack α :=
  (stack.free 0,
    { values := (stack.free 0, value) :: stack.values
      free := fun depth => stack.free (depth + 1) })

/-- Unmaps a handle and pushes it, unless it maps to nothing. -/
def remove? (stack : FreeStack α) (handle : Nat) : Option (α × FreeStack α) :=
  match stack.get? handle with
  | none => none
  | some value =>
      some (value,
        { values := stack.values.filter (·.1 ≠ handle)
          free := push handle stack.free })

def size (stack : FreeStack α) : Nat := stack.values.length

/-- The values by ascending handle. -/
def drain (stack : FreeStack α) : List α × FreeStack α :=
  ((stack.values.mergeSort (fun left right => left.1 ≤ right.1)).map (·.2), ∅)

end FreeStack

/-!
## Operations that may stop

Insertion and removal as they rely on the free list. Where the list begins neither with a free slot
nor at its end they stop the host, and where a number has no room they stop it or wrap around;
`Slab.put` and `Slab.take` answer there all the same.
-/

/-- Why an operation on a slab stops the host. -/
inductive SlabStop where
  /-- A number has no room. -/
  | overflow
  /-- The first slot of the free list holds a value. -/
  | occupiedHead (handle : Nat)
  /-- The first slot of the free list is beyond the last slot. -/
  | missingHead (handle : Nat)
  /-- The slot in which a value was found is free. -/
  | emptied (handle : Word)
deriving DecidableEq

/-- What a sum or difference that has no room does. -/
inductive Overflow where
  | stops
  | wraps

/-- A number as it is kept where those below `size` have room. -/
def Overflow.settle (overflow : Overflow) (size : Nat) (number : Int) : Except SlabStop Nat :=
  if 0 ≤ number ∧ number < size then .ok number.toNat
  else
    match overflow with
    | stops => .error .overflow
    | wraps => .ok (number % size).toNat

def Slot.isOccupied {α : Type} (slot : Slot α) : Bool := slot.value?.isSome

namespace Slab

variable {α : Type}

/-- Puts a value into the slot at the head of the free list, or into a new one at its end. -/
def putOrStop (overflow : Overflow) (slab : Slab α) (value : α) :
    Except SlabStop (Word × Slab α) := do
  let live ← overflow.settle UInt64.size (slab.live + 1)
  let handle := UInt32.ofNat slab.head
  if slab.head = slab.slots.size then
    let head ← overflow.settle UInt32.size (slab.head + 1)
    return (handle, { slots := slab.slots.push (.occupied value), head, live })
  match slab.slots[slab.head]? with
  | none => throw (.missingHead slab.head)
  | some (.occupied _) => throw (.occupiedHead slab.head)
  | some (.free next) =>
      return (handle,
        { slots := slab.slots.setIfInBounds slab.head (.occupied value), head := next, live })

/-- Takes a value out of its slot, once the slot is known to hold one. -/
def takeOrStop (overflow : Overflow) (slab : Slab α) (handle : Word) :
    Except SlabStop (Except Fault (α × Slab α)) :=
  match slab.slots[handle.toNat]?.filter Slot.isOccupied with
  | none => return .error (.invalidHandle handle)
  | some (.free _) => throw (.emptied handle)
  | some (.occupied value) => do
      let live ← overflow.settle UInt64.size (slab.live - 1)
      return .ok (value,
        { slots := slab.slots.setIfInBounds handle.toNat (.free slab.head)
          head := handle.toNat
          live })

end Slab

end GuestBoundary
