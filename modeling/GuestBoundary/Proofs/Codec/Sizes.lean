import GuestBoundary.Proofs.Codec.Scalars
import GuestBoundary.Proofs.Codec.Sequence

/-!
# Sizes of lists

The length of a list passes through words of 32 and 64 bits, signed and unsigned, and through a
product and a sum. None of them cuts anything off: a list is refused for its length or for its size
in bytes, which the fault names exactly, before anything else happens; otherwise the allocator, the
check of bounds and the access all get that size.
-/

namespace GuestBoundary

/-- A scalar that is read off its own bytes alone. -/
class FramedScalar (α : Type) [Scalar α] : Prop extends SizedScalar α where
  decode_congr {bytes others : Nat → UInt8} :
    (∀ distance < Scalar.size α, bytes distance = others distance) →
      (Scalar.decode bytes : α) = Scalar.decode others

instance (α : Type) [Scalar α] [LawfulScalar α] : FramedScalar α where
  decode_congr := Scalar.decode_congr

/-- The word stands for the number, both unsigned and signed. -/
structure Word.Exact (word : Word) (number : Nat) : Prop where
  unsigned : word.toNat = number
  signed : word.signed = number

theorem Word.exact_ofNat {number : Nat} (small : number ≤ maxLength) :
    Word.Exact (UInt32.ofNat number) number where
  unsigned := UInt32.toNat_ofNat_of_lt' (lt_size_of_le_maxLength small)
  signed := by
    change (Int32.ofNat number).toInt = number
    exact Int32.toInt_ofNat_of_lt (Nat.lt_of_le_of_lt small (by decide))

variable {α : Type} [Scalar α]

/-- A length becomes the word for it, or is refused. -/
def CountExact (length : Nat) : Prop :=
  if length ≤ Word.maxLength then
    ∃ number, guestLength length = .ok number ∧ Word.Exact number length
  else guestLength length = .error (.lengthOverflow length)

theorem countExact (length : Nat) : CountExact length := by
  rw [CountExact, guestLength]
  split
  next small => exact ⟨_, rfl, Word.exact_ofNat small⟩
  next => rfl

/-- A size in bytes is the product, also as the word that the allocator gets, and no range of that
size leaves the 64-bit numbers; or it is refused. -/
def SizeExact (α : Type) [Scalar α] (count : Word) : Prop :=
  let product := count.toNat * Scalar.size α
  if product ≤ Word.maxLength then
    ∃ total, byteLength α count = .ok total ∧ total.toNat = product ∧
      Word.Exact total.toUInt32 product ∧
      ∀ (memorySize : Nat) (address : Word), checkedRange memorySize address total =
        if address.toNat + product ≤ memorySize then
          .ok ⟨address.toNat, address.toNat + product⟩
        else .error (.outOfBounds address total memorySize)
  else byteLength α count = .error (.lengthOverflow product)

theorem sizeExact (short : Scalar.size α < UInt32.size) (count : Word) : SizeExact α count := by
  rw [SizeExact, byteLength_of_short short]
  split
  next small =>
    refine ⟨_, rfl, Word.toNat_uint64OfNat small, ?_, fun memorySize address => ?_⟩
    · exact (UInt64.toUInt32_ofNat' _) ▸ Word.exact_ofNat small
    · exact checkedRange_ofNat _ _ (Word.lt_size_of_le_maxLength small)
  next => rfl

/-- A list is refused for its size, whatever the memory, or read off exactly the bytes that it
takes. -/
def LiftedExactly (α : Type) [Scalar α] (memory : Bytes) (address count : Word) : Prop :=
  let product := count.toNat * Scalar.size α
  if Word.maxLength < product then
    liftList α memory address count = .error (.lengthOverflow product)
  else
    ∃ total : UInt64, total.toNat = product ∧
      if address.toNat + product ≤ memory.size then
        ∃ bytes, memory.slice address total = .ok bytes ∧ bytes.length = product ∧
          liftList α memory address count = .ok ((List.range count.toNat).map fun index =>
            Scalar.ofBytes ((bytes.drop (index * Scalar.size α)).take (Scalar.size α)))
      else liftList α memory address count = .error (.outOfBounds address total memory.size)

theorem liftedExactly [FramedScalar α] (short : Scalar.size α < UInt32.size) (memory : Bytes)
    (address count : Word) : LiftedExactly α memory address count := by
  rw [LiftedExactly]
  split
  next large => rw [liftList, byteLength_of_short short, if_neg (Nat.not_le.mpr large)]; rfl
  next fits =>
    have small := Nat.le_of_not_lt fits
    have total := Word.toNat_uint64OfNat small
    refine ⟨UInt64.ofNat (count.toNat * Scalar.size α), total, ?_⟩
    rw [liftList_of_le memory address small]
    split
    next inside =>
      have sliced := memory.slice_of_lt address (total.symm ▸ Word.lt_size_of_le_maxLength small)
      rw [total, if_pos inside] at sliced
      refine ⟨_, sliced, by simp, congrArg Except.ok (List.map_congr_left ?_)⟩
      intro index near
      apply FramedScalar.decode_congr
      intro distance close
      have before := Nat.mul_le_mul_right (Scalar.size α) (List.mem_range.mp near)
      rw [Nat.succ_mul] at before
      have within : index * Scalar.size α + distance < count.toNat * Scalar.size α := by omega
      simp [close, within, Nat.add_assoc]
    next => rfl

namespace GuestMemory

variable {σ : Type} (guest : GuestMemory σ)

variable [SizedScalar α]

/-- A list is refused for its number of elements, then for its size, before the allocator is
called; otherwise it is called once, for exactly that size, which is then checked and written. -/
def LoweredExactly (items : List α) (state : σ) : Prop :=
  let product := items.length * Scalar.size α
  let align := UInt32.ofNat (Scalar.align α)
  let outcome := (guest.lowerList items).on state
  ∃ calls : List AllocatorCall,
    (∀ earlier, (guest.recording.lowerList items).on (state, earlier) =
      (outcome.1, outcome.2, earlier ++ calls)) ∧
    if Word.maxLength < items.length then
      calls = [] ∧ outcome = (.error (.lengthOverflow items.length), state)
    else if Word.maxLength < product then
      calls = [] ∧ outcome = (.error (.lengthOverflow product), state)
    else
      ∃ room : Word, room.Exact product ∧ calls = [.realloc 0 0 align room] ∧
        match (guest.realloc 0 0 align room).on state with
        | (.error fault, after) => outcome = (.error fault, after)
        | (.ok address, after) =>
            if address.toNat + product ≤ (guest.bytes after).size then
              ∃ (count : Word) (memory : Bytes), count.Exact items.length ∧
                outcome = (.ok (address, count), guest.setBytes memory after) ∧
                memory.size = (guest.bytes after).size ∧
                memory.slice address room.toUInt64 = .ok (items.flatMap Scalar.encode) ∧
                ∀ index, index < address.toNat ∨ address.toNat + product ≤ index →
                  memory[index]? = (guest.bytes after)[index]?
            else
              outcome =
                (.error (.outOfBounds address room.toUInt64 (guest.bytes after).size), after)

theorem loweredExactly (short : Scalar.size α < UInt32.size) (items : List α) (state : σ) :
    guest.LoweredExactly items state := by
  have delivers := delivers_lowerList short items
  have outcome := delivers.on_eq guest state
  refine ⟨_, delivers.on_recording guest state, ?_⟩
  have le : items.length ≤ items.length * Scalar.size α :=
    Nat.le_mul_of_pos_right _ SizedScalar.size_pos
  dsimp only [Parcel.overflow?, Parcel.list] at outcome ⊢
  split
  next many =>
    rw [if_pos many] at outcome
    exact ⟨if_neg (Nat.not_le.mpr (Nat.lt_of_lt_of_le many le)), outcome⟩
  split
  next many large =>
    rw [if_neg many, if_pos large] at outcome
    exact ⟨if_neg (Nat.not_le.mpr large), outcome⟩
  next many large =>
    rw [if_neg many, if_neg large] at outcome
    have few := Nat.le_of_not_lt many
    have small := Nat.le_of_not_lt large
    have exact := Word.exact_ofNat small
    have width := Scalar.length_flatMap_encode items
    refine ⟨UInt32.ofNat (items.length * Scalar.size α), exact, if_pos small, ?_⟩
    rw [outcome, Word.toUInt64_ofNat small]
    generalize (guest.realloc 0 0 (UInt32.ofNat (Scalar.align α))
      (UInt32.ofNat (items.length * Scalar.size α))).on state = answer
    obtain ⟨fault | address, after⟩ := answer
    case error => rfl
    case ok =>
      dsimp only [deposit]
      split
      next inside =>
        refine ⟨_, _, Word.exact_ofNat few, rfl, Bytes.size_write _ _ _, ?_, ?_⟩
        · rw [← Word.toUInt64_ofNat small, Bytes.slice_word, exact.unsigned, Bytes.size_write,
            if_pos inside, ← width, Bytes.read_write _ (width.symm ▸ inside)]
        · intro index outside
          rw [Bytes.getElem?_write, width, if_neg (by omega)]
      next => rfl

end GuestMemory

/-- Whatever the elements, their number and the memory, no length, size or end of a range of a
list is cut off, and only those that a guest cannot read are refused. -/
theorem list_sizes_exact [FramedScalar α] (short : Scalar.size α < UInt32.size) :
    (∀ length, CountExact length) ∧ (∀ count, SizeExact α count) ∧
      (∀ {σ : Type} (guest : GuestMemory σ) (items : List α) (state : σ),
        guest.LoweredExactly items state) ∧
      ∀ (memory : Bytes) (address count : Word), LiftedExactly α memory address count :=
  ⟨countExact, sizeExact short, fun guest => guest.loweredExactly short, liftedExactly short⟩

/-- Two words in an arena, and a count that is negative to a guest. -/
theorem list_sizes_exact_of_words :
    let arena : Arena := { memory := .zeros 64 }
    FramedScalar UInt64 ∧ Scalar.size UInt64 < UInt32.size ∧
      Arena.guestMemory.LoweredExactly [(1 : UInt64), 2] arena ∧
      liftList UInt64 arena.memory 0 0x80000000 = .error (.lengthOverflow 0x400000000) := by
  intro arena
  have short : Scalar.size UInt64 < UInt32.size := by decide
  obtain ⟨-, -, lowered, lifted⟩ := list_sizes_exact short
  have large := lifted arena.memory 0 0x80000000
  rw [LiftedExactly, if_pos (by decide)] at large
  exact ⟨inferInstance, short, lowered _ _ _, large⟩

end GuestBoundary
