import GuestBoundary.Attempt
import GuestBoundary.Memory.Bytes

/-!
# Codecs

A host hands texts, bytes, lists of scalars and variants to a guest and takes them back through the
guest's memory. What the codecs need of a guest is its memory, and its allocator. The memory is a
part of a state that can be read and replaced; the allocator is the guest's own code and may do
anything to the state. Everything is checked against the memory as it is after each allocator call.
-/

namespace GuestBoundary

/-- A guest's memory and allocator, as parts of the state `σ`. -/
structure GuestMemory (σ : Type) where
  bytes : σ → Bytes
  setBytes : Bytes → σ → σ
  realloc : (oldAddress oldLength align newLength : Word) → Attempt σ Word
  free : (address length align : Word) → Attempt σ Unit
  bytes_setBytes : ∀ (memory : Bytes) (state : σ),
    bytes (setBytes memory state) = memory := by intros; rfl

namespace GuestMemory

variable {σ α : Type} (guest : GuestMemory σ)

def examine (view : Bytes → Except Fault α) : Attempt σ α :=
  .examine (fun state => view (guest.bytes state))

/-- Changes the memory, or fails and leaves it alone. -/
def change (edit : Bytes → Except Fault Bytes) : Attempt σ Unit := do
  let memory ← guest.examine edit
  modify (guest.setBytes memory)

end GuestMemory

/-!
## Text and raw bytes

Text and raw bytes as an address and a length. Lowering asks the guest for room of exactly the
size needed, then checks that the room lies inside the memory as it is after the call. Lifting
reads the length unsigned, so a negative length is never a short read.
-/

/-- A length in the form the guest reads, which is signed. -/
def guestLength (length : Nat) : Except Fault Word :=
  if length ≤ Word.maxLength then .ok (UInt32.ofNat length) else .error (.lengthOverflow length)

def liftBytes (memory : Bytes) (address length : Word) : Except Fault (List UInt8) :=
  memory.slice address length.toUInt64

def liftText (memory : Bytes) (address length : Word) : Except Fault String := do
  match Utf8.decode (← memory.slice address length.toUInt64) with
  | .ok characters => return String.ofList characters
  | .error flaw => throw (.encoding flaw)

namespace GuestMemory

variable {σ : Type} (guest : GuestMemory σ)

def lowerBytes (data : List UInt8) : Attempt σ (Word × Word) := do
  let length ← .ofExcept (guestLength data.length)
  let address ← guest.realloc 0 0 1 length
  guest.change (·.overwrite address (UInt64.ofNat data.length) data)
  return (address, length)

def lowerText (text : String) : Attempt σ (Word × Word) :=
  guest.lowerBytes (Utf8.encode text.toList)

end GuestMemory

/-!
## Lists

Lists of scalars, back to back. Both directions compute the size in bytes first: a size that the
guest cannot represent is refused before the allocator is called or memory is looked at.
-/

/-- The size in bytes of `count` scalars, the count read unsigned. -/
def byteLength (α : Type) [Scalar α] (count : Word) : Except Fault UInt64 :=
  let total := count.toNat * Scalar.size α
  if UInt64.size ≤ total then .error .productOverflow
  else if total ≤ Word.maxLength then .ok (UInt64.ofNat total)
  else .error (.lengthOverflow total)

def liftList (α : Type) [Scalar α] (memory : Bytes) (address count : Word) :
    Except Fault (List α) := do
  let range ← checkedRange memory.size (guestAddress address 0) (← byteLength α count)
  return (List.range count.toNat).map fun index =>
    Scalar.decode fun distance => memory.byte (range.start + index * Scalar.size α + distance)

namespace GuestMemory

variable {σ α : Type} [Scalar α] (guest : GuestMemory σ)

/-- Writes scalars into fresh guest memory and returns their address and count. -/
def lowerList (items : List α) : Attempt σ (Word × Word) := do
  let count ← .ofExcept (guestLength items.length)
  let total ← .ofExcept (byteLength α count)
  let address ← guest.realloc 0 0 (UInt32.ofNat (Scalar.align α)) total.toUInt32
  guest.change (·.overwrite address total (items.flatMap Scalar.encode))
  return (address, count)

end GuestMemory

/-!
## Everything that can be lowered

What a host can hand to a guest: a text, bytes, or a list of numbers of one type. Each of them has
an image in memory, which lowering writes into fresh room and lifting reads back.
-/

/-- The number types that can live in memory. -/
inductive NumberType where
  | u8
  | i8
  | u16
  | i16
  | u32
  | i32
  | u64
  | i64
  | f32
  | f64
deriving DecidableEq, Repr

namespace NumberType

def Value : NumberType → Type
  | u8 => UInt8
  | i8 => Int8
  | u16 => UInt16
  | i16 => Int16
  | u32 => UInt32
  | i32 => Int32
  | u64 => UInt64
  | i64 => Int64
  | f32 => Binary32
  | f64 => Binary64

instance : (type : NumberType) → Numbered type.Value
  | u8 => inferInstanceAs (Numbered UInt8)
  | i8 => inferInstanceAs (Numbered Int8)
  | u16 => inferInstanceAs (Numbered UInt16)
  | i16 => inferInstanceAs (Numbered Int16)
  | u32 => inferInstanceAs (Numbered UInt32)
  | i32 => inferInstanceAs (Numbered Int32)
  | u64 => inferInstanceAs (Numbered UInt64)
  | i64 => inferInstanceAs (Numbered Int64)
  | f32 => inferInstanceAs (Numbered Binary32)
  | f64 => inferInstanceAs (Numbered Binary64)

theorem size_le (type : NumberType) : Scalar.size type.Value ≤ 8 := by
  cases type <;> decide

end NumberType

/-- A value that can be lowered. -/
inductive Lowerable where
  | text (value : String)
  | bytes (data : List UInt8)
  | list (type : NumberType) (items : List type.Value)

namespace Lowerable

/-- What is handed out beside the address: a number of bytes, or of elements. -/
def count : Lowerable → Nat
  | text value => value.utf8ByteSize
  | bytes data => data.length
  | list _ items => items.length

/-- How many bytes the value takes in memory. -/
def size : Lowerable → Nat
  | text value => value.utf8ByteSize
  | bytes data => data.length
  | list type items => items.length * Scalar.size type.Value

def align : Lowerable → Word
  | text _ | bytes _ => 1
  | list type _ => UInt32.ofNat (Scalar.align type.Value)

/-- The bytes that stand for the value. -/
def image : Lowerable → List UInt8
  | text value => Utf8.encode value.toList
  | bytes data => data
  | list _ items => items.flatMap Scalar.encode

/-- Whether what stands at an address lifts to the value, with the number given beside it. -/
def LiftsFrom (memory : Bytes) (place : Word × Word) : Lowerable → Prop
  | text value => liftText memory place.1 place.2 = .ok value
  | bytes data => liftBytes memory place.1 place.2 = .ok data
  | list type items => liftList type.Value memory place.1 place.2 = .ok items

end Lowerable

namespace GuestMemory

variable {σ : Type} (guest : GuestMemory σ)

def lower : Lowerable → Attempt σ (Word × Word)
  | .text value => guest.lowerText value
  | .bytes data => guest.lowerBytes data
  | .list _ items => guest.lowerList items

/-- Lowers one value after the other. -/
def lowerAll : List Lowerable → Attempt σ (List (Word × Word))
  | [] => return []
  | value :: values => do
      let place ← guest.lower value
      return place :: (← lowerAll values)

end GuestMemory

/-!
## Variants

Variants are a discriminant word and a payload word at a fixed distance. A result has the success
case 0, whose payload is lifted, and the failure case 1, whose payload is an error code; an option
has the cases 0, which lifts nothing, and 1. Every other discriminant and every code outside the
enumeration is refused.
-/

class ErrorCode (ε : Type) where
  name : String
  ofCode? : Int32 → Option ε
  code : ε → Int32

/-- Exactly the codes of members are read back, each as its member. -/
class LawfulErrorCode (ε : Type) [ErrorCode ε] : Prop where
  ofCode?_eq_some_iff (code : Int32) (member : ε) :
    ErrorCode.ofCode? code = some member ↔ ErrorCode.code member = code

def errorOfCode (ε : Type) [ErrorCode ε] (code : Int32) : Except Fault ε :=
  match ErrorCode.ofCode? code with
  | some member => .ok member
  | none => .error (.invalidDiscriminant (ErrorCode.name ε) code)

/-- The distance from discriminant to payload in a return area. -/
def returnAreaOffset : Word := 8

structure RawVariant where
  discriminant : Int32
  payload : Word
deriving DecidableEq, Repr

namespace RawVariant

/-- The variant at an address, its payload `offset` bytes after the discriminant. -/
def load (memory : Bytes) (address offset : Word) : Except Fault RawVariant := do
  let discriminant ← memory.load address 0
  let payload ← memory.load address offset
  return { discriminant, payload }

/-- The discriminant as a case of a type with `cases` cases. -/
def case (raw : RawVariant) (type : String) (cases : Word) : Except Fault Word :=
  let discriminant := raw.discriminant.toInt
  if 0 ≤ discriminant ∧ discriminant < cases.toNat then .ok raw.discriminant.toUInt32
  else .error (.invalidDiscriminant type raw.discriminant)

variable {σ α ε : Type}

/-- The variant as a result: a lifted success or an error code. -/
def intoResult [ErrorCode ε] (raw : RawVariant) (lift : Word → Attempt σ α) :
    Attempt σ (Except ε α) := do
  match ← .ofExcept (raw.case "result" 2) with
  | 0 => return .ok (← lift raw.payload)
  | _ => return .error (← .ofExcept (errorOfCode ε raw.payload.toInt32))

def intoOption (raw : RawVariant) (lift : Word → Attempt σ α) : Attempt σ (Option α) := do
  match ← .ofExcept (raw.case "option" 2) with
  | 0 => return none
  | _ => return some (← lift raw.payload)

end RawVariant

end GuestBoundary
