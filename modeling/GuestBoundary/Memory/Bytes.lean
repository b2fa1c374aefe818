import GuestBoundary.Fault
import GuestBoundary.Memory.Scalar

/-!
# Memory

A memory may be as large as the address space while little of it is ever
written, so the bytes are kept in blocks and a block that was never written takes no room: what no
block holds is zero. A memory is seen through its `size` and its bytes `memory[index]?`; the main
statement is how `write` changes them.
-/

namespace GuestBoundary

/-- The addresses from `start` up to but not including `stop`. -/
structure Range where
  start : Nat
  stop : Nat
deriving DecidableEq, Repr

structure Bytes where
  size : Nat := 0
  /-- The blocks from the first on, none of them longer than `blockSize`. -/
  blocks : Array (Array UInt8) := #[]
deriving Repr

namespace Bytes

/-- The array with `filler` added until it has `count` elements. -/
def padded {α : Type} (values : Array α) (count : Nat) (filler : α) : Array α :=
  if count ≤ values.size then values else values ++ Array.replicate (count - values.size) filler

theorem le_size_padded {α : Type} (values : Array α) (count : Nat) (filler : α) :
    count ≤ (padded values count filler).size := by
  grind [padded]

theorem getD_padded {α : Type} (values : Array α) (count index : Nat) (filler : α) :
    (padded values count filler).getD index filler = values.getD index filler := by
  simp only [padded, Array.getD_eq_getD_getElem?]
  grind

/-- Changing an element of an array that was filled up to make room for it. -/
theorem getD_modify_padded {α : Type} (values : Array α) (count place index : Nat) (filler : α)
    (change : α → α) (room : place < count) :
    ((padded values count filler).modify place change).getD index filler =
      if place = index then change (values.getD index filler) else values.getD index filler := by
  have enough := le_size_padded values count filler
  rw [← getD_padded values count index filler]
  simp only [Array.getD_eq_getD_getElem?]
  grind

def blockSize : Nat := 4096

def zeros (size : Nat) : Bytes := { size }

def byte (memory : Bytes) (index : Nat) : UInt8 :=
  (memory.blocks.getD (index / blockSize) #[]).getD (index % blockSize) 0

instance : GetElem? Bytes Nat UInt8 fun memory index => index < memory.size where
  getElem memory index _ := memory.byte index
  getElem? memory index := if index < memory.size then some (memory.byte index) else none

theorem getElem?_eq (memory : Bytes) (index : Nat) :
    memory[index]? = if index < memory.size then some (memory.byte index) else none := rfl

def set (memory : Bytes) (index : Nat) (value : UInt8) : Bytes :=
  if index < memory.size then
    { memory with
      blocks := (padded memory.blocks (index / blockSize + 1) #[]).modify (index / blockSize)
        fun block => (padded block blockSize 0).modify (index % blockSize) fun _ => value }
  else memory

@[simp]
theorem size_set (memory : Bytes) (index : Nat) (value : UInt8) :
    (memory.set index value).size = memory.size := by
  unfold set
  split <;> rfl

theorem byte_set (memory : Bytes) (index : Nat) (value : UInt8) (other : Nat) :
    (memory.set index value).byte other =
      if index = other ∧ index < memory.size then value else memory.byte other := by
  by_cases inside : index < memory.size
  · have place : index % blockSize < blockSize := Nat.mod_lt _ (by decide)
    have same : index = other ↔
        index / blockSize = other / blockSize ∧ index % blockSize = other % blockSize := by
      constructor
      · rintro rfl
        exact ⟨rfl, rfl⟩
      · intro ⟨quotient, remainder⟩
        rw [← Nat.div_add_mod index blockSize, quotient, remainder, Nat.div_add_mod]
    simp only [set, inside, if_true, byte, and_true, same,
      getD_modify_padded _ _ _ _ _ _ (Nat.lt_succ_self _)]
    by_cases block : index / blockSize = other / blockSize
    · simp [block, getD_modify_padded _ _ _ _ _ _ place]
    · simp [block]
  · simp [set, inside]

def write (memory : Bytes) (start : Nat) : List UInt8 → Bytes
  | [] => memory
  | value :: rest => write (memory.set start value) (start + 1) rest

@[simp]
theorem size_write (memory : Bytes) (start : Nat) (data : List UInt8) :
    (memory.write start data).size = memory.size := by
  induction data generalizing memory start with
  | nil => rfl
  | cons value rest inductionHypothesis => simp [write, inductionHypothesis]

theorem getElem?_write (memory : Bytes) (start : Nat) (data : List UInt8) (index : Nat) :
    (memory.write start data)[index]? =
      if start ≤ index ∧ index < start + data.length ∧ index < memory.size then
        data[index - start]?
      else memory[index]? := by
  induction data generalizing memory start with
  | nil => grind [write]
  | cons value rest inductionHypothesis =>
      rw [write, inductionHypothesis]
      simp only [getElem?_eq, size_set, byte_set]
      grind

def read (memory : Bytes) (range : Range) : List UInt8 :=
  (List.range' range.start (range.stop - range.start)).map memory.byte

theorem read_eq (memory : Bytes) (start length : Nat) :
    memory.read ⟨start, start + length⟩ = (List.range' start length).map memory.byte := by
  simp [read]

/-- All bytes from here on are zero. -/
def extent (memory : Bytes) : Nat := memory.blocks.size * blockSize

theorem byte_eq_zero (memory : Bytes) (index : Nat) (beyond : memory.extent ≤ index) :
    memory.byte index = 0 := by
  have outside : memory.blocks.size ≤ index / blockSize :=
    (Nat.le_div_iff_mul_le (by decide)).mpr beyond
  have absent : memory.blocks.getD (index / blockSize) #[] = #[] := by
    simp only [Array.getD_eq_getD_getElem?, Array.getElem?_eq_none outside, Option.getD_none]
  simp [byte, absent]

/-- Copies `length` bytes as they are before the copy. Where both source and target are past the
extent there are only zeros, and nothing to do. -/
def copy (memory : Bytes) (target source length : Nat) : Bytes :=
  memory.write target
    (memory.read ⟨source, source + min length (memory.extent - min source target)⟩)

@[simp]
theorem size_copy (memory : Bytes) (target source length : Nat) :
    (memory.copy target source length).size = memory.size := by
  simp [copy]

theorem getElem?_copy (memory : Bytes) (target source length index : Nat) :
    (memory.copy target source length)[index]? =
      if target ≤ index ∧ index < target + length ∧ index < memory.size then
        some (memory.byte (source + (index - target)))
      else memory[index]? := by
  have sourceZero := memory.byte_eq_zero (source + (index - target))
  have targetZero := memory.byte_eq_zero index
  rw [copy, getElem?_write, read_eq, getElem?_eq]
  grind

def extend (memory : Bytes) (size : Nat) : Bytes := { memory with size := max memory.size size }

def truncate (memory : Bytes) (size : Nat) : Bytes :=
  if memory.size ≤ size then memory else (zeros size).write 0 (memory.read ⟨0, size⟩)

end Bytes

/-!
## Checked access

Checked access to guest memory. An address is a base and an offset modulo 2^32; a range is never
taken modulo anything: it is in bounds exactly when its end, as a natural number, is at most the
size of the memory. Each access makes this one check and changes nothing when it fails.
-/

/-- An address `offset` bytes after `base`, in the 32-bit address space. -/
def guestAddress (base offset : Word) : Word := base + offset

/-- The range of `length` bytes from `address`, if it lies inside the memory. -/
def checkedRange (memorySize : Nat) (address : Word) (length : UInt64) : Except Fault Range :=
  let stop := address.toNat + length.toNat
  if UInt64.size ≤ stop then .error .sumOverflow
  else if memorySize < stop then .error (.outOfBounds address length memorySize)
  else .ok ⟨address.toNat, stop⟩

namespace Bytes

def slice (memory : Bytes) (address : Word) (length : UInt64) : Except Fault (List UInt8) := do
  let range ← checkedRange memory.size (guestAddress address 0) length
  return memory.read range

/-- Replaces the bytes at `address`; `length` is the number of bytes claimed for them. -/
def overwrite (memory : Bytes) (address : Word) (length : UInt64) (data : List UInt8) :
    Except Fault Bytes := do
  let range ← checkedRange memory.size (guestAddress address 0) length
  return memory.write range.start data

variable {α : Type} [Scalar α]

def load (memory : Bytes) (base offset : Word) : Except Fault α := do
  let range ←
    checkedRange memory.size (guestAddress base offset) (UInt64.ofNat (Scalar.size α))
  return Scalar.decode fun distance => memory.byte (range.start + distance)

def store (memory : Bytes) (base offset : Word) (scalar : α) : Except Fault Bytes := do
  let range ←
    checkedRange memory.size (guestAddress base offset) (UInt64.ofNat (Scalar.size α))
  return memory.write range.start (Scalar.encode scalar)

end Bytes

end GuestBoundary
