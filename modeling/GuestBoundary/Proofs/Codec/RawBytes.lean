import GuestBoundary.Proofs.Codec.Sequence
import GuestBoundary.Proofs.Codec.Text

/-!
# Bytes and texts beside lists of bytes

Bytes, texts and lists of bytes have one form in memory, and lowering any of them takes the same
steps. Lifting differs in one thing: a list has a greatest length, while bytes and texts are only
checked against the memory. A count above it is an overflow for a list, and for the others a range
like any other, which is read whole or refused.
-/

namespace GuestBoundary

theorem Utf8.encode_toList (text : String) : encode text.toList = text.toByteArray.data.toList := by
  have bytes : (String.ofList text.toList).toByteArray.data.toList = encode text.toList := by
    rw [String.toByteArray_ofList, List.utf8Encode, List.data_toByteArray]
    rfl
  rw [← bytes, String.ofList_toList]

/-! ## A byte as a scalar -/

namespace Scalar

theorem encode_byte (byte : UInt8) : encode byte = [byte] :=
  congrArg (fun value => [value]) UInt8.ofNat_toNat

theorem decode_byte (bytes : Nat → UInt8) : (decode bytes : UInt8) = bytes 0 := UInt8.ofNat_toNat

/-- A list of bytes is its own image. -/
theorem flatMap_encode_bytes (data : List UInt8) : data.flatMap encode = data := by
  induction data with
  | nil => rfl
  | cons byte data inductionHypothesis =>
      rw [List.flatMap_cons, inductionHypothesis, encode_byte]
      rfl

end Scalar

theorem byteLength_byte (count : Word) :
    byteLength UInt8 count =
      if count.toNat ≤ Word.maxLength then .ok count.toUInt64
      else .error (.lengthOverflow count.toNat) := by
  have size : count.toNat * Scalar.size UInt8 = count.toNat := Nat.mul_one _
  have representable : ¬ UInt64.size ≤ count.toNat :=
    Nat.not_le.mpr (Nat.lt_trans count.toNat_lt (by decide))
  rw [byteLength, size, if_neg representable]
  split
  next small => rw [← Word.toUInt64_ofNat small, UInt32.ofNat_toNat]
  next => rfl

/-! ## Lowering -/

namespace GuestMemory

variable {σ : Type} (guest : GuestMemory σ)

theorem lowerList_bytes (data : List UInt8) : guest.lowerList data = guest.lowerBytes data := by
  rw [lowerList, lowerBytes, guestLength]
  by_cases few : data.length ≤ Word.maxLength
  case neg =>
    rw [if_neg few]
    rfl
  case pos =>
    have number : (UInt32.ofNat data.length).toNat ≤ Word.maxLength := by
      rwa [UInt32.toNat_ofNat_of_lt' (Word.lt_size_of_le_maxLength few)]
    simp only [if_pos few, Attempt.ofExcept, pure_bind, byteLength_byte, if_pos number,
      Word.toUInt64_ofNat few, UInt64.toUInt32_ofNat', Scalar.flatMap_encode_bytes]
    rfl

theorem lowerText_eq (text : String) :
    guest.lowerText text = guest.lowerBytes text.toByteArray.data.toList := by
  rw [lowerText, Utf8.encode_toList]

end GuestMemory

/-! ## Lifting -/

section

variable (memory : Bytes) (address count : Word)

theorem liftText_eq :
    liftText memory address count =
      match liftBytes memory address count with
      | .ok data =>
          match Utf8.decode data with
          | .ok characters => .ok (String.ofList characters)
          | .error flaw => .error (.encoding flaw)
      | .error fault => .error fault := by
  rw [liftText, liftBytes]
  cases memory.slice address count.toUInt64 <;> rfl

/-- A list of bytes is lifted as bytes are, up to the greatest length of a list. -/
theorem liftList_bytes :
    liftList UInt8 memory address count =
      if count.toNat ≤ Word.maxLength then liftBytes memory address count
      else .error (.lengthOverflow count.toNat) := by
  by_cases small : count.toNat ≤ Word.maxLength
  case pos =>
    have size : count.toNat * Scalar.size UInt8 = count.toNat := Nat.mul_one _
    have total : UInt64.ofNat count.toNat = count.toUInt64 := by
      rw [← Word.toUInt64_ofNat small, UInt32.ofNat_toNat]
    have elements : (List.range count.toNat).map (fun index => Scalar.decode fun distance =>
          memory.byte (address.toNat + index * Scalar.size UInt8 + distance)) =
        memory.read ⟨address.toNat, address.toNat + count.toNat⟩ := by
      rw [memory.read_eq, List.range'_eq_map_range, List.map_map]
      apply List.map_congr_left
      intro index _
      rw [Scalar.decode_byte, Nat.add_zero, show index * Scalar.size UInt8 = index from
        Nat.mul_one index, Function.comp_apply]
    rw [if_pos small, liftList_of_le _ _ (size.symm ▸ small), liftBytes, memory.slice_word, size,
      total, elements]
  case neg =>
    rw [if_neg small, liftList, byteLength_byte, if_neg small]
    rfl

end

/-! ## Agreement -/

/-- Bytes, and texts by their bytes, are lowered by the same steps as lists of bytes. A list of
bytes is lifted as bytes are up to the greatest length of a list and refused above it, where bytes
and texts are still only checked against the memory: they are the whole range, or nothing. -/
theorem bytes_agree_with_elements :
    (∀ {σ : Type} (guest : GuestMemory σ) (data : List UInt8),
      guest.lowerList data = guest.lowerBytes data ∧
        guest.recording.lowerList data = guest.recording.lowerBytes data) ∧
    (∀ {σ : Type} (guest : GuestMemory σ) (text : String),
      guest.lowerText text = guest.lowerBytes text.toByteArray.data.toList ∧
        guest.recording.lowerText text =
          guest.recording.lowerBytes text.toByteArray.data.toList) ∧
    ∀ memory address count,
      (if count.toNat ≤ Word.maxLength then
        liftList UInt8 memory address count = liftBytes memory address count
      else liftList UInt8 memory address count = .error (.lengthOverflow count.toNat)) ∧
      if address.toNat + count.toNat ≤ memory.size then
        let data := memory.read ⟨address.toNat, address.toNat + count.toNat⟩
        data.length = count.toNat ∧ liftBytes memory address count = .ok data ∧
          match liftText memory address count with
          | .ok text => text.toByteArray.data.toList = data
          | .error fault => (∀ text : String, text.toByteArray.data.toList ≠ data) ∧
              ∃ flaw, fault = .encoding flaw ∧ Utf8.decode data = .error flaw ∧
                flaw.Locates data
      else
        let fault := Fault.outOfBounds address count.toUInt64 memory.size
        liftBytes memory address count = .error fault ∧
          liftText memory address count = .error fault := by
  refine ⟨fun guest data => ⟨guest.lowerList_bytes data, guest.recording.lowerList_bytes data⟩,
    fun guest text => ⟨guest.lowerText_eq text, guest.recording.lowerText_eq text⟩,
    fun memory address count => ⟨?_, ?_⟩⟩
  · rw [liftList_bytes]
    split <;> rfl
  · have bytes : liftBytes memory address count = _ := memory.slice_word address count
    split
    next inside =>
      rw [if_pos inside] at bytes
      intro data
      refine ⟨by simp [data, memory.read_eq], bytes, ?_⟩
      rw [liftText_eq, bytes]
      dsimp only
      cases decoded : Utf8.decode data with
      | ok characters =>
          change (String.ofList characters).toByteArray.data.toList = data
          rw [← Utf8.encode_toList, String.toList_ofList, Utf8.encode_of_decode decoded]
      | error flaw =>
          refine ⟨fun text => ?_, flaw, rfl, rfl, Utf8.locates_of_decode decoded⟩
          rw [← Utf8.encode_toList]
          exact Utf8.encode_ne_of_decode decoded text.toList
    next outside =>
      rw [if_neg outside] at bytes
      refine ⟨bytes, ?_⟩
      rw [liftText_eq, bytes]

end GuestBoundary
