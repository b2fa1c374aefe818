import GuestBoundary.Memory.Bytes

/-!
# Access to memory

Where the end of a range is a 64-bit number, an access does one of two things: it reaches exactly
its range, or it is out of bounds. A length of less than 2^32 bytes added to an address never leaves
the 64-bit numbers. What is written to a range can be read there, and every other byte is as it was.
-/

namespace GuestBoundary

@[simp]
theorem guestAddress_zero (address : Word) : guestAddress address 0 = address := UInt32.add_zero _

theorem checkedRange_of_stop_lt (memorySize : Nat) {address : Word} {length : UInt64}
    (representable : address.toNat + length.toNat < UInt64.size) :
    checkedRange memorySize address length =
      if address.toNat + length.toNat ≤ memorySize then
        .ok ⟨address.toNat, address.toNat + length.toNat⟩
      else .error (.outOfBounds address length memorySize) := by
  simp only [checkedRange, if_neg (Nat.not_le.mpr representable)]
  by_cases inside : address.toNat + length.toNat ≤ memorySize
  · rw [if_pos inside, if_neg (Nat.not_lt.mpr inside)]
  · rw [if_neg inside, if_pos (Nat.lt_of_not_le inside)]

theorem stop_lt_of_lt (address : Word) {length : UInt64} (short : length.toNat < UInt32.size) :
    address.toNat + length.toNat < UInt64.size := by
  have bounded : address.toNat < UInt32.size := address.toNat_lt
  simp only [UInt32.size, UInt64.size] at *
  omega

theorem checkedRange_of_lt (memorySize : Nat) (address : Word) {length : UInt64}
    (short : length.toNat < UInt32.size) :
    checkedRange memorySize address length =
      if address.toNat + length.toNat ≤ memorySize then
        .ok ⟨address.toNat, address.toNat + length.toNat⟩
      else .error (.outOfBounds address length memorySize) :=
  checkedRange_of_stop_lt memorySize (stop_lt_of_lt address short)

theorem checkedRange_ofNat (memorySize : Nat) (address : Word) {length : Nat}
    (short : length < UInt32.size) :
    checkedRange memorySize address (UInt64.ofNat length) =
      if address.toNat + length ≤ memorySize then .ok ⟨address.toNat, address.toNat + length⟩
      else .error (.outOfBounds address (UInt64.ofNat length) memorySize) := by
  have exact : (UInt64.ofNat length).toNat = length :=
    UInt64.toNat_ofNat_of_lt' (Nat.lt_trans short (by decide))
  rw [checkedRange_of_lt _ _ (exact.symm ▸ short), exact]

namespace Bytes

variable (memory : Bytes)

theorem slice_of_stop_lt {address : Word} {length : UInt64}
    (representable : address.toNat + length.toNat < UInt64.size) :
    memory.slice address length =
      if address.toNat + length.toNat ≤ memory.size then
        .ok ((List.range' address.toNat length.toNat).map memory.byte)
      else .error (.outOfBounds address length memory.size) := by
  rw [slice, guestAddress_zero, checkedRange_of_stop_lt _ representable]
  split
  next => exact congrArg Except.ok (memory.read_eq _ _)
  next => rfl

theorem slice_of_lt (address : Word) {length : UInt64} (short : length.toNat < UInt32.size) :
    memory.slice address length =
      if address.toNat + length.toNat ≤ memory.size then
        .ok ((List.range' address.toNat length.toNat).map memory.byte)
      else .error (.outOfBounds address length memory.size) :=
  memory.slice_of_stop_lt (stop_lt_of_lt address short)

theorem slice_word (address length : Word) :
    memory.slice address length.toUInt64 =
      if address.toNat + length.toNat ≤ memory.size then
        .ok (memory.read ⟨address.toNat, address.toNat + length.toNat⟩)
      else .error (.outOfBounds address length.toUInt64 memory.size) := by
  have short : length.toUInt64.toNat < UInt32.size := length.toNat_lt
  rw [memory.slice_of_lt address short, UInt32.toNat_toUInt64, memory.read_eq]

theorem overwrite_of_stop_lt {address : Word} {length : UInt64} (data : List UInt8)
    (representable : address.toNat + length.toNat < UInt64.size) :
    memory.overwrite address length data =
      if address.toNat + length.toNat ≤ memory.size then .ok (memory.write address.toNat data)
      else .error (.outOfBounds address length memory.size) := by
  rw [overwrite, guestAddress_zero, checkedRange_of_stop_lt _ representable]
  split <;> rfl

theorem overwrite_ofNat (address : Word) {length : Nat} (data : List UInt8)
    (short : length < UInt32.size) :
    memory.overwrite address (UInt64.ofNat length) data =
      if address.toNat + length ≤ memory.size then .ok (memory.write address.toNat data)
      else .error (.outOfBounds address (UInt64.ofNat length) memory.size) := by
  rw [overwrite, guestAddress_zero, checkedRange_ofNat _ _ short]
  split <;> rfl

theorem byte_write_outside (start : Nat) (data : List UInt8) {index : Nat}
    (outside : index < start ∨ start + data.length ≤ index) :
    (memory.write start data).byte index = memory.byte index := by
  induction data generalizing memory start with
  | nil => rfl
  | cons value rest inductionHypothesis =>
      rw [List.length_cons] at outside
      rw [write, inductionHypothesis _ _ (by omega), byte_set, if_neg (by omega)]

theorem byte_write_inside {start : Nat} {data : List UInt8}
    (fits : start + data.length ≤ memory.size) {index : Nat} (inside : index < data.length) :
    (memory.write start data).byte (start + index) = data[index] := by
  have written := memory.getElem?_write start data (start + index)
  rw [if_pos (by omega), getElem?_eq, if_pos (by rw [size_write]; omega),
    Nat.add_sub_cancel_left, List.getElem?_eq_getElem inside] at written
  exact Option.some.inj written

/-! ### Copies -/

variable (target source : Nat) {length index : Nat}

theorem byte_copy_outside (outside : index < target ∨ target + length ≤ index) :
    (memory.copy target source length).byte index = memory.byte index := by
  apply byte_write_outside
  rw [read_eq, List.length_map, List.length_range']
  omega

theorem byte_copy_inside (fits : target + length ≤ memory.size) (inside : index < length) :
    (memory.copy target source length).byte (target + index) = memory.byte (source + index) := by
  have copied := memory.getElem?_copy target source length (target + index)
  rw [if_pos (by omega), getElem?_eq, if_pos (by rw [size_copy]; omega),
    Nat.add_sub_cancel_left] at copied
  exact Option.some.inj copied

/-! ### Scalars -/

section

variable {α : Type} [Scalar α] (base offset : Word)

theorem load_of_lt (short : Scalar.size α < UInt32.size) :
    (memory.load base offset : Except Fault α) =
      if (base + offset).toNat + Scalar.size α ≤ memory.size then
        .ok (Scalar.decode fun distance => memory.byte ((base + offset).toNat + distance))
      else .error (.outOfBounds (base + offset) (UInt64.ofNat (Scalar.size α)) memory.size) := by
  rw [load, guestAddress, checkedRange_ofNat _ _ short]
  split <;> rfl

theorem store_of_lt (scalar : α) (short : Scalar.size α < UInt32.size) :
    memory.store base offset scalar =
      if (base + offset).toNat + Scalar.size α ≤ memory.size then
        .ok (memory.write (base + offset).toNat (Scalar.encode scalar))
      else .error (.outOfBounds (base + offset) (UInt64.ofNat (Scalar.size α)) memory.size) := by
  rw [store, guestAddress, checkedRange_ofNat _ _ short]
  split <;> rfl

end

end Bytes

/-!
## Writes in parts and in any order

A write may be split where one likes, and writes to ranges apart from each other may be exchanged.
Both hold of the memory itself, with its blocks: what is filled up to make room for one byte does
not depend on which byte comes first.
-/

namespace Bytes

/-! ### Changes in an array that is filled up for them -/

section

variable {α : Type} (values : Array α) (filler : α)

theorem size_padded (count : Nat) :
    (padded values count filler).size = max values.size count := by
  grind [padded]

/-- An array is known by its size and by what it holds. -/
theorem eq_of_getD {values others : Array α} (size : values.size = others.size)
    (same : ∀ index, values.getD index filler = others.getD index filler) : values = others := by
  apply Array.ext size
  intro index inside within
  have held := same index
  simp only [Array.getD_eq_getD_getElem?, Array.getElem?_eq_getElem inside,
    Array.getElem?_eq_getElem within, Option.getD_some] at held
  exact held

/-- Two changes go in either order, if they do so where they meet. -/
theorem modify_padded_comm {first second room space : Nat} (one two : α → α)
    (fits : first < room) (holds : second < space)
    (commute : first = second → ∀ value, two (one value) = one (two value)) :
    (padded ((padded values room filler).modify first one) space filler).modify second two =
      (padded ((padded values space filler).modify second two) room filler).modify first one := by
  apply eq_of_getD filler
  · simp only [Array.size_modify, size_padded]
    omega
  · intro index
    simp only [getD_modify_padded _ _ _ _ _ _ holds, getD_modify_padded _ _ _ _ _ _ fits]
    by_cases here : first = index
    · by_cases there : second = index
      · simp only [if_pos here, if_pos there]
        exact commute (here.trans there.symm) _
      · simp only [if_pos here, if_neg there]
    · simp only [if_neg here]

end

/-! ### Bytes -/

variable (memory : Bytes)

theorem set_eq_self {index : Nat} (outside : memory.size ≤ index) (value : UInt8) :
    memory.set index value = memory := if_neg (Nat.not_lt.mpr outside)

theorem set_comm {first second : Nat} (one two : UInt8) (different : first ≠ second) :
    (memory.set first one).set second two = (memory.set second two).set first one := by
  by_cases inside : first < memory.size
  case neg =>
    have outside := Nat.le_of_not_lt inside
    rw [memory.set_eq_self outside, (memory.set second two).set_eq_self (by rwa [size_set])]
  case pos =>
    by_cases within : second < memory.size
    case neg =>
      have outside := Nat.le_of_not_lt within
      rw [memory.set_eq_self outside, (memory.set first one).set_eq_self (by rwa [size_set])]
    case pos =>
      simp only [set, inside, within, if_true]
      congr 1
      apply modify_padded_comm _ _ _ _ (Nat.lt_succ_self _) (Nat.lt_succ_self _)
      -- In one block the two bytes have different offsets.
      intro block contents
      apply modify_padded_comm _ _ _ _ (Nat.mod_lt _ (by decide)) (Nat.mod_lt _ (by decide))
      intro offset
      apply absurd _ different
      rw [← Nat.div_add_mod first blockSize, block, offset, Nat.div_add_mod]

theorem set_write_comm (start : Nat) {index : Nat} (value : UInt8) (data : List UInt8)
    (outside : index < start ∨ start + data.length ≤ index) :
    (memory.write start data).set index value = (memory.set index value).write start data := by
  induction data generalizing memory start with
  | nil => rfl
  | cons byte data inductionHypothesis =>
      rw [List.length_cons] at outside
      rw [write, write, inductionHypothesis _ _ (by omega), set_comm _ _ _ (by omega)]

/-- Writes to ranges apart from each other go in either order. -/
theorem write_comm {first second : Nat} (one two : List UInt8)
    (apart : first + one.length ≤ second ∨ second + two.length ≤ first) :
    (memory.write first one).write second two = (memory.write second two).write first one := by
  induction two generalizing memory second with
  | nil => rfl
  | cons byte two inductionHypothesis =>
      rw [List.length_cons] at apart
      rw [write, write, set_write_comm _ _ _ _ (by omega), inductionHypothesis _ (by omega)]

/-- A write in one piece is a write of its front, then of its back. -/
theorem write_append (start : Nat) (front back : List UInt8) :
    memory.write start (front ++ back) =
      (memory.write start front).write (start + front.length) back := by
  induction front generalizing memory start with
  | nil => rfl
  | cons value front inductionHypothesis =>
      rw [List.cons_append, write, write, inductionHypothesis, List.length_cons, Nat.add_assoc,
        Nat.add_comm 1]

end Bytes

end GuestBoundary
