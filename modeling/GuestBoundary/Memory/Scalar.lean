/-!
# Words and scalars

Words are the 32-bit values that cross the boundary between host and guest. Addresses, handles
and counts read a word unsigned; representations and lengths are shown signed. In memory a word is
one of the scalars, which have a fixed size and are written least significant byte first.
-/

namespace GuestBoundary

/-- A 32-bit value crossing the boundary. -/
abbrev Word := UInt32

namespace Word

def signed (word : Word) : Int := word.toInt32.toInt

/-- The greatest length that stays positive when the guest reads it signed. -/
def maxLength : Nat := 0x7fffffff

end Word

/-!
## Little-endian bytes

Naturals as byte sequences of a fixed width, least significant byte first. Writing and reading
are inverse on every width.
-/

namespace LittleEndian

/-- The `width` low bytes of `value`. -/
def bytes : (width : Nat) → (value : Nat) → List UInt8
  | 0, _ => []
  | width + 1, value => UInt8.ofNat value :: bytes width (value / 256)

/-- The number that a byte sequence of any width stands for. -/
def value : List UInt8 → Nat
  | [] => 0
  | byte :: rest => byte.toNat + 256 * value rest

@[simp]
theorem length_bytes (width number : Nat) : (bytes width number).length = width := by
  induction width generalizing number with
  | zero => rfl
  | succ width inductionHypothesis => simp [bytes, inductionHypothesis]

theorem value_lt (encoded : List UInt8) : value encoded < Nat.pow 256 encoded.length := by
  induction encoded with
  | nil => exact Nat.one_pos
  | cons byte rest inductionHypothesis =>
      have bounded : byte.toNat < 256 := byte.toNat_lt
      simp only [value, List.length_cons, Nat.pow_eq, Nat.pow_succ] at inductionHypothesis ⊢
      omega

theorem value_bytes (width number : Nat) :
    value (bytes width number) = number % Nat.pow 256 width := by
  induction width generalizing number with
  | zero => exact (Nat.mod_one number).symm
  | succ width inductionHypothesis =>
      have lowest : (UInt8.ofNat number).toNat = number % 256 := UInt8.toNat_ofNat'
      rw [bytes, value, inductionHypothesis, lowest, Nat.pow_eq, Nat.pow_eq, Nat.pow_succ',
        Nat.mod_mul]

theorem bytes_value (encoded : List UInt8) : bytes encoded.length (value encoded) = encoded := by
  induction encoded with
  | nil => rfl
  | cons byte rest inductionHypothesis =>
      have bounded : byte.toNat < 256 := byte.toNat_lt
      have quotient : (byte.toNat + 256 * value rest) / 256 = value rest := by omega
      have head : UInt8.ofNat (byte.toNat + 256 * value rest) = byte := by
        apply UInt8.toNat_inj.mp
        rw [UInt8.toNat_ofNat']
        omega
      simp only [value, List.length_cons, bytes, quotient, head, inductionHypothesis]

end LittleEndian

/-!
## Scalars

Scalars are the fixed-size values that live in guest memory, each in little-endian order. The laws
say that writing and reading are inverse on exactly `size` bytes.
-/

/-- A value of a fixed number of bytes. -/
class Scalar (α : Type) where
  size : Nat
  align : Nat
  encode : α → List UInt8
  /-- Reads a value off bytes, each given by its distance from the first. -/
  decode : (Nat → UInt8) → α

def Scalar.ofBytes {α : Type} [Scalar α] (encoded : List UInt8) : α :=
  Scalar.decode fun distance => encoded.getD distance 0

/-- Writing yields `size` bytes; reading undoes writing, and writing what was read off some bytes
yields the first `size` of them. -/
class LawfulScalar (α : Type) [Scalar α] : Prop where
  size_pos : 0 < Scalar.size α
  length_encode (scalar : α) : (Scalar.encode scalar).length = Scalar.size α
  decode_encode (scalar : α) : Scalar.ofBytes (Scalar.encode scalar) = scalar
  encode_decode (bytes : Nat → UInt8) :
    Scalar.encode (Scalar.decode bytes : α) = (List.range (Scalar.size α)).map bytes

/-- Values numbered by the naturals of `width` bytes. -/
class Numbered (α : Type) where
  width : Nat
  toNat : α → Nat
  ofNat : Nat → α
  width_pos : 0 < width
  toNat_lt (scalar : α) : toNat scalar < Nat.pow 256 width
  ofNat_toNat (scalar : α) : ofNat (toNat scalar) = scalar
  toNat_ofNat (number : Nat) (small : number < Nat.pow 256 width) : toNat (ofNat number) = number

namespace Numbered

variable {α : Type} [Numbered α]

/-- A numbered value is stored as its number and aligned to its size. -/
instance : Scalar α where
  size := width α
  align := width α
  encode scalar := LittleEndian.bytes (width α) (toNat scalar)
  decode bytes := ofNat (LittleEndian.value ((List.range (width α)).map bytes))

instance : LawfulScalar α where
  size_pos := width_pos
  length_encode scalar := LittleEndian.length_bytes (width α) (toNat scalar)
  decode_encode scalar := by
    have whole : (List.range (width α)).map
        (fun distance => (LittleEndian.bytes (width α) (toNat scalar)).getD distance 0) =
          LittleEndian.bytes (width α) (toNat scalar) :=
      List.ext_getElem (by simp) (by simp +contextual)
    change ofNat (LittleEndian.value ((List.range (width α)).map
      (fun distance => (LittleEndian.bytes (width α) (toNat scalar)).getD distance 0))) = scalar
    rw [whole, LittleEndian.value_bytes, Nat.mod_eq_of_lt (toNat_lt scalar), ofNat_toNat]
  encode_decode bytes := by
    have recovered := LittleEndian.bytes_value ((List.range (width α)).map bytes)
    have bounded := LittleEndian.value_lt ((List.range (width α)).map bytes)
    simp only [List.length_map, List.length_range] at recovered bounded
    change LittleEndian.bytes (width α)
      (toNat (ofNat (LittleEndian.value ((List.range (width α)).map bytes)) : α)) = _
    rw [toNat_ofNat _ bounded]
    exact recovered

end Numbered

/-- A single-precision number by its bits, so that every NaN keeps its payload. -/
structure Binary32 where
  bits : UInt32
deriving DecidableEq, Repr

/-- A double-precision number by its bits. -/
structure Binary64 where
  bits : UInt64
deriving DecidableEq, Repr

namespace Numbered

instance : Numbered UInt8 where
  width := 1
  toNat := UInt8.toNat
  ofNat := UInt8.ofNat
  width_pos := by decide
  toNat_lt := UInt8.toNat_lt
  ofNat_toNat _ := UInt8.ofNat_toNat
  toNat_ofNat _ small := UInt8.toNat_ofNat_of_lt' small

instance : Numbered UInt16 where
  width := 2
  toNat := UInt16.toNat
  ofNat := UInt16.ofNat
  width_pos := by decide
  toNat_lt := UInt16.toNat_lt
  ofNat_toNat _ := UInt16.ofNat_toNat
  toNat_ofNat _ small := UInt16.toNat_ofNat_of_lt' small

instance : Numbered UInt32 where
  width := 4
  toNat := UInt32.toNat
  ofNat := UInt32.ofNat
  width_pos := by decide
  toNat_lt := UInt32.toNat_lt
  ofNat_toNat _ := UInt32.ofNat_toNat
  toNat_ofNat _ small := UInt32.toNat_ofNat_of_lt' small

instance : Numbered UInt64 where
  width := 8
  toNat := UInt64.toNat
  ofNat := UInt64.ofNat
  width_pos := by decide
  toNat_lt := UInt64.toNat_lt
  ofNat_toNat _ := UInt64.ofNat_toNat
  toNat_ofNat _ small := UInt64.toNat_ofNat_of_lt' small

/-- A numbering carried over from `β`, of which `α` is another reading. -/
@[reducible] def along {β : Type} [Numbered β] {α : Type} (toBase : α → β) (ofBase : β → α)
    (ofBase_toBase : ∀ scalar, ofBase (toBase scalar) = scalar)
    (toBase_ofBase : ∀ base, toBase (ofBase base) = base) : Numbered α where
  width := width β
  toNat scalar := toNat (toBase scalar)
  ofNat number := ofBase (ofNat number)
  width_pos := width_pos
  toNat_lt scalar := toNat_lt (toBase scalar)
  ofNat_toNat scalar := by rw [ofNat_toNat, ofBase_toBase]
  toNat_ofNat number small := by rw [toBase_ofBase, toNat_ofNat number small]

instance : Numbered Int8 :=
  along Int8.toUInt8 UInt8.toInt8 Int8.toInt8_toUInt8 UInt8.toUInt8_toInt8
instance : Numbered Int16 :=
  along Int16.toUInt16 UInt16.toInt16 Int16.toInt16_toUInt16 UInt16.toUInt16_toInt16
instance : Numbered Int32 :=
  along Int32.toUInt32 UInt32.toInt32 Int32.toInt32_toUInt32 UInt32.toUInt32_toInt32
instance : Numbered Int64 :=
  along Int64.toUInt64 UInt64.toInt64 Int64.toInt64_toUInt64 UInt64.toUInt64_toInt64
instance : Numbered Binary32 := along Binary32.bits Binary32.mk (fun _ => rfl) (fun _ => rfl)
instance : Numbered Binary64 := along Binary64.bits Binary64.mk (fun _ => rfl) (fun _ => rfl)

end Numbered

end GuestBoundary
