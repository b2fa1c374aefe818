import Mathlib.Algebra.Group.Nat.Defs
import GuestBoundary.Proofs.Codec.Lowering
import GuestBoundary.Proofs.Memory.Words

/-!
# Scalars in memory

An address is taken modulo 2^32 and the range from it is not, so a scalar is stored exactly where
its bytes are inside the memory, and loaded there under the same condition. What was stored is read
back whole from every way to write its address, in parts from the addresses inside it, and not at
all from ranges apart from it.
-/

namespace GuestBoundary

namespace LittleEndian

theorem drop_bytes (distance width number : Nat) :
    (bytes (distance + width) number).drop distance = bytes width (number / 256 ^ distance) := by
  induction distance generalizing number with
  | zero => rw [Nat.zero_add, List.drop_zero, Nat.pow_zero, Nat.div_one]
  | succ distance inductionHypothesis =>
      rw [Nat.succ_add, bytes, List.drop_succ_cons, inductionHypothesis, Nat.div_div_eq_div_mul,
        ← Nat.pow_succ']

theorem take_bytes (width rest number : Nat) :
    (bytes (width + rest) number).take width = bytes width number := by
  induction width generalizing number with
  | zero => rfl
  | succ width inductionHypothesis =>
      rw [Nat.succ_add, bytes, bytes, List.take_succ_cons, inductionHypothesis]

/-- Consecutive bytes of a number stand for its digits to base 256 from there. -/
theorem value_take_drop_bytes {width distance length : Nat} (number : Nat)
    (inside : distance + length ≤ width) :
    value (((bytes width number).drop distance).take length) =
      number / 256 ^ distance % 256 ^ length := by
  obtain ⟨rest, rfl⟩ := Nat.exists_eq_add_of_le inside
  rw [Nat.add_assoc, drop_bytes, take_bytes, value_bytes, Nat.pow_eq]

end LittleEndian

/-- Reading a scalar looks at no more than its own bytes. -/
theorem Scalar.decode_congr {α : Type} [Scalar α] [LawfulScalar α] {bytes others : Nat → UInt8}
    (same : ∀ distance < Scalar.size α, bytes distance = others distance) :
    (Scalar.decode bytes : α) = Scalar.decode others := by
  apply Scalar.decode_eq_of_encode
  intro distance near
  simp [LawfulScalar.encode_decode, near, same]

theorem Numbered.toNat_decode {α : Type} [Numbered α] (bytes : Nat → UInt8) :
    Numbered.toNat (Scalar.decode bytes : α) =
      LittleEndian.value ((List.range (Scalar.size α)).map bytes) := by
  apply Numbered.toNat_ofNat
  apply lt_of_lt_of_eq (LittleEndian.value_lt _)
  rw [List.length_map, List.length_range]

namespace Bytes

section

variable {α : Type} [Scalar α] (memory : Bytes) (base offset : Word)

/-- What is loaded depends on the bytes that are read and on the size of the memory alone. -/
theorem load_eq_of_same [LawfulScalar α] {other : Bytes} (short : Scalar.size α < UInt32.size)
    (size : other.size = memory.size)
    (same : ∀ distance < Scalar.size α,
      other.byte ((base + offset).toNat + distance) =
        memory.byte ((base + offset).toNat + distance)) :
    (other.load base offset : Except Fault α) = memory.load base offset := by
  rw [load_of_lt _ _ _ short, load_of_lt _ _ _ short, size, Scalar.decode_congr same]

end

/-- A memory after a scalar was stored at an address. -/
structure ScalarStored (memory stored : Bytes) (address : Word) {type : NumberType}
    (scalar : type.Value) : Prop where
  size_eq : stored.size = memory.size
  outside : ∀ index,
    index < address.toNat ∨ address.toNat + Scalar.size type.Value ≤ index →
      stored[index]? = memory[index]?
  whole : ∀ base offset : Word, base + offset = address → stored.load base offset = .ok scalar
  apart : ∀ (other : NumberType) (base offset : Word),
    (base + offset).toNat + Scalar.size other.Value ≤ address.toNat ∨
        address.toNat + Scalar.size type.Value ≤ (base + offset).toNat →
      (stored.load base offset : Except Fault other.Value) = memory.load base offset
  /-- From an address inside the scalar its digits to base 256 are read. -/
  parts : ∀ (other : NumberType) (distance : Nat) (base offset : Word),
    distance + Scalar.size other.Value ≤ Scalar.size type.Value →
    (base + offset).toNat = address.toNat + distance →
      ∃ part : other.Value, stored.load base offset = .ok part ∧
        Numbered.toNat part =
          Numbered.toNat scalar / 256 ^ distance % 256 ^ Scalar.size other.Value

variable {memory : Bytes} {address : Word} {type : NumberType}

/-- The bytes that are read inside a scalar are bytes of its image. -/
theorem bytes_of_write_encode (scalar : type.Value) {distance length : Nat}
    (fits : address.toNat + Scalar.size type.Value ≤ memory.size)
    (inside : distance + length ≤ Scalar.size type.Value) :
    ((List.range length).map fun index =>
        (memory.write address.toNat (Scalar.encode scalar)).byte
          (address.toNat + distance + index)) =
      ((LittleEndian.bytes (Scalar.size type.Value) (Numbered.toNat scalar)).drop distance).take
        length := by
  have width : (Scalar.encode scalar).length = Scalar.size type.Value :=
    LawfulScalar.length_encode scalar
  apply List.ext_getElem
  · rw [List.length_map, List.length_range, List.length_take, List.length_drop,
      LittleEndian.length_bytes]
    omega
  · intro index near _
    rw [List.length_map, List.length_range] at near
    rw [List.getElem_map, List.getElem_range, List.getElem_take, List.getElem_drop, Nat.add_assoc,
      byte_write_inside _ (width.symm ▸ fits) (by omega)]
    rfl

theorem scalarStored_write (scalar : type.Value)
    (fits : address.toNat + Scalar.size type.Value ≤ memory.size) :
    ScalarStored memory (memory.write address.toNat (Scalar.encode scalar)) address scalar := by
  have width : (Scalar.encode scalar).length = Scalar.size type.Value :=
    LawfulScalar.length_encode scalar
  refine ⟨size_write _ _ _, fun index outside => ?_, ?_, ?_, ?_⟩
  case refine_1 =>
    rw [getElem?_write, width, if_neg (by omega)]
  case refine_2 =>
    rintro base offset rfl
    rw [load_of_lt _ _ _ type.size_lt, size_write, if_pos fits]
    apply congrArg Except.ok
    apply Scalar.decode_eq_of_encode
    intro distance near
    have inside : distance < (Scalar.encode scalar).length := width.symm ▸ near
    rw [byte_write_inside _ (width.symm ▸ fits) inside, List.getElem?_eq_getElem inside]
  case refine_3 =>
    intro other base offset apart
    apply load_eq_of_same _ _ _ other.size_lt (size_write _ _ _)
    intro distance near
    apply byte_write_outside
    omega
  case refine_4 =>
    intro other distance base offset inside same
    refine ⟨Scalar.decode fun index => (memory.write address.toNat (Scalar.encode scalar)).byte
      (address.toNat + distance + index), ?_, ?_⟩
    · rw [load_of_lt _ _ _ other.size_lt, size_write, same, if_pos (by omega)]
    · rw [Numbered.toNat_decode, bytes_of_write_encode scalar fits inside,
        LittleEndian.value_take_drop_bytes _ inside]

/-- Storing a scalar writes exactly its bytes if they are inside the memory, and otherwise changes
nothing; loading succeeds under the same condition. -/
theorem store_exact {σ : Type} (guest : GuestMemory σ) (state : σ) (base offset : Word)
    {type : NumberType} (scalar : type.Value) :
    let memory := guest.bytes state
    let address := guestAddress base offset
    address.toNat = (base.toNat + offset.toNat) % UInt32.size ∧
      if address.toNat + Scalar.size type.Value ≤ memory.size then
        (∃ stored, memory.store base offset scalar = .ok stored ∧
          (guest.change (·.store base offset scalar)).on state =
            (.ok (), guest.setBytes stored state) ∧
          ScalarStored memory stored address scalar) ∧
        ∃ loaded : type.Value, memory.load base offset = .ok loaded
      else
        let fault := Fault.outOfBounds address (UInt64.ofNat (Scalar.size type.Value)) memory.size
        (guest.change (·.store base offset scalar)).on state = (.error fault, state) ∧
          (memory.load base offset : Except Fault type.Value) = .error fault := by
  intro memory address
  refine ⟨UInt32.toNat_add base offset, ?_⟩
  have store := memory.store_of_lt base offset scalar type.size_lt
  have load : (memory.load base offset : Except Fault type.Value) = _ :=
    memory.load_of_lt base offset type.size_lt
  by_cases fits : address.toNat + Scalar.size type.Value ≤ memory.size
  case pos =>
    have stored := store.trans (if_pos fits)
    rw [if_pos fits]
    refine ⟨⟨_, stored, ?_, scalarStored_write scalar fits⟩, _, load.trans (if_pos fits)⟩
    rw [GuestMemory.on_change, stored]
  case neg =>
    rw [if_neg fits]
    refine ⟨?_, load.trans (if_neg fits)⟩
    rw [GuestMemory.on_change, store.trans (if_neg fits)]
    rfl

end Bytes

end GuestBoundary
