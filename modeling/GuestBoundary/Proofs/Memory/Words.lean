import GuestBoundary.Proofs.Memory.Access

/-!
# Words in memory

The word at an address is there when its four bytes are, and loading it, signed or unsigned, says
exactly that.
-/

namespace GuestBoundary

namespace Bytes

/-- The word at an address, where four bytes of memory are. -/
def word? (memory : Bytes) (address : Word) : Option Word :=
  if address.toNat + 4 ≤ memory.size then
    some (UInt32.ofNat
      (LittleEndian.value (memory.read ⟨address.toNat, address.toNat + 4⟩)))
  else none

variable (memory : Bytes) (base offset : Word)

theorem load_word :
    (memory.load base offset : Except Fault Word) =
      match memory.word? (base + offset) with
      | some word => .ok word
      | none => .error (.outOfBounds (base + offset) 4 memory.size) := by
  rw [load_of_lt _ _ _ (show Scalar.size Word < UInt32.size by decide), word?, read_eq,
    List.range'_eq_map_range, List.map_map]
  by_cases inside : (base + offset).toNat + 4 ≤ memory.size
  · rw [if_pos inside]
    exact if_pos inside
  · rw [if_neg inside]
    exact if_neg inside

theorem load_signed :
    (memory.load base offset : Except Fault Int32) =
      match memory.word? (base + offset) with
      | some word => .ok word.toInt32
      | none => .error (.outOfBounds (base + offset) 4 memory.size) := by
  have signed : (memory.load base offset : Except Fault Int32) =
      (memory.load base offset : Except Fault Word).map UInt32.toInt32 := by
    change (checkedRange memory.size (base + offset) 4 >>= _) =
      (checkedRange memory.size (base + offset) 4 >>= _).map _
    cases checkedRange memory.size (base + offset) 4 <;> rfl
  rw [signed, load_word]
  cases memory.word? (base + offset) <;> rfl

/-! ### Words that were written -/

/-- The four bytes at an address are those of a word. -/
structure HasWord (memory : Bytes) (address : Nat) (word : Word) : Prop where
  inside : address + 4 ≤ memory.size
  bytes : memory.read ⟨address, address + 4⟩ = Scalar.encode word

variable {memory}

theorem read_eq_of_same {other : Bytes} {start length : Nat}
    (same : ∀ index, start ≤ index → index < start + length →
      other.byte index = memory.byte index) :
    other.read ⟨start, start + length⟩ = memory.read ⟨start, start + length⟩ := by
  rw [read_eq, read_eq]
  apply List.map_congr_left
  intro index mem
  rw [List.mem_range'_1] at mem
  exact same index mem.1 mem.2

theorem read_write {start : Nat} (data : List UInt8) (fits : start + data.length ≤ memory.size) :
    (memory.write start data).read ⟨start, start + data.length⟩ = data := by
  rw [read_eq]
  apply List.ext_getElem
  · rw [List.length_map, List.length_range']
  · intro index _ inside
    rw [List.getElem_map, List.getElem_range', Nat.one_mul]
    exact memory.byte_write_inside fits inside

/-- A word takes four bytes. -/
theorem length_encode_word (word : Word) : (Scalar.encode word).length = 4 :=
  LawfulScalar.length_encode word

theorem hasWord_write {address : Nat} (word : Word) (inside : address + 4 ≤ memory.size) :
    (memory.write address (Scalar.encode word)).HasWord address word where
  inside := le_of_le_of_eq inside (size_write _ _ _).symm
  bytes := read_write (Scalar.encode word) inside

theorem hasWord_zeros {size address : Nat} (inside : address + 4 ≤ size) :
    (zeros size).HasWord address 0 := ⟨inside, (zeros size).read_eq address 4⟩

theorem HasWord.of_same {other : Bytes} {address : Nat} {word : Word}
    (there : memory.HasWord address word) (size : other.size = memory.size)
    (same : ∀ index, address ≤ index → index < address + 4 →
      other.byte index = memory.byte index) : other.HasWord address word where
  inside := le_of_le_of_eq there.inside size.symm
  bytes := (read_eq_of_same same).trans there.bytes

theorem HasWord.word? {address word : Word} (there : memory.HasWord address.toNat word) :
    memory.word? address = some word := by
  have number : LittleEndian.value (Scalar.encode word) = word.toNat :=
    (LittleEndian.value_bytes 4 word.toNat).trans (Nat.mod_eq_of_lt word.toNat_lt)
  rw [Bytes.word?, if_pos there.inside, there.bytes, number, UInt32.ofNat_toNat]

/-! ### Pairs of words -/

/-- The memory after two words were written, one after the other. -/
def writePair (memory : Bytes) (first second : Nat) (pair : Word × Word) : Bytes :=
  (memory.write first (Scalar.encode pair.1)).write second (Scalar.encode pair.2)

section

variable {first second : Nat} (pair : Word × Word)

theorem size_writePair (memory : Bytes) :
    (memory.writePair first second pair).size = memory.size := by
  rw [writePair, size_write, size_write]

theorem byte_writePair_outside (memory : Bytes) (ordered : first + 4 ≤ second) {index : Nat}
    (outside : index < first ∨ second + 4 ≤ index) :
    (memory.writePair first second pair).byte index = memory.byte index := by
  rw [writePair, byte_write_outside, byte_write_outside]
  all_goals
    rw [length_encode_word]
    omega

theorem hasWord_writePair (ordered : first + 4 ≤ second) (inside : second + 4 ≤ memory.size) :
    (memory.writePair first second pair).HasWord first pair.1 ∧
      (memory.writePair first second pair).HasWord second pair.2 := by
  have one := hasWord_write pair.1 (show first + 4 ≤ memory.size by omega)
  have two := hasWord_write pair.2 (le_of_le_of_eq inside
    (memory.size_write first (Scalar.encode pair.1)).symm)
  refine ⟨one.of_same (size_write _ _ _) fun index _ toStop => ?_, two⟩
  exact byte_write_outside _ _ _ (.inl (Nat.lt_of_lt_of_le toStop ordered))

end

end Bytes

/-!
## Ranges of any length

A length may be any 64-bit number, and added to an address it may leave these numbers. Up to there
the check of a range is exact, and with it every access to a range: it reads or replaces exactly the
bytes asked for, or is out of bounds. From there on the host stops, although such a range ends far
outside every memory and could be refused like any other.
-/

theorem checkedRange_of_le_stop (memorySize : Nat) {address : Word} {length : UInt64}
    (beyond : UInt64.size ≤ address.toNat + length.toNat) :
    checkedRange memorySize address length = .error .sumOverflow := if_pos beyond

namespace Bytes

variable (memory : Bytes) {address : Word} {length : UInt64}

theorem slice_of_le_stop (beyond : UInt64.size ≤ address.toNat + length.toNat) :
    memory.slice address length = .error .sumOverflow := by
  rw [slice, guestAddress_zero, checkedRange_of_le_stop _ beyond]
  rfl

theorem overwrite_of_le_stop (data : List UInt8)
    (beyond : UInt64.size ≤ address.toNat + length.toNat) :
    memory.overwrite address length data = .error .sumOverflow := by
  rw [overwrite, guestAddress_zero, checkedRange_of_le_stop _ beyond]
  rfl

/-- Whatever the length, an access to a range reaches exactly its bytes if they are inside the
memory, and otherwise is out of bounds, unless its end is no 64-bit number. -/
theorem range_access_exact (memory : Bytes) (address : Word) (length : UInt64)
    (data : List UInt8) (width : data.length = length.toNat) :
    if UInt64.size ≤ address.toNat + length.toNat then
      checkedRange memory.size address length = .error .sumOverflow ∧
        memory.slice address length = .error .sumOverflow ∧
          memory.overwrite address length data = .error .sumOverflow
    else if address.toNat + length.toNat ≤ memory.size then
      checkedRange memory.size address length =
          .ok ⟨address.toNat, address.toNat + length.toNat⟩ ∧
        (∃ bytes, memory.slice address length = .ok bytes ∧ bytes.length = length.toNat ∧
          ∀ index < length.toNat, bytes[index]? = memory[address.toNat + index]?) ∧
        ∃ after, memory.overwrite address length data = .ok after ∧ after.size = memory.size ∧
          after.slice address length = .ok data ∧
            ∀ index, index < address.toNat ∨ address.toNat + length.toNat ≤ index →
              after[index]? = memory[index]?
    else
      checkedRange memory.size address length = .error (.outOfBounds address length memory.size) ∧
        memory.slice address length = .error (.outOfBounds address length memory.size) ∧
          memory.overwrite address length data =
            .error (.outOfBounds address length memory.size) := by
  by_cases beyond : UInt64.size ≤ address.toNat + length.toNat
  case pos =>
    rw [if_pos beyond]
    exact ⟨checkedRange_of_le_stop _ beyond, memory.slice_of_le_stop beyond,
      memory.overwrite_of_le_stop data beyond⟩
  case neg =>
    have representable := Nat.lt_of_not_le beyond
    have sliced (memory : Bytes) := memory.slice_of_stop_lt representable
    rw [if_neg beyond, checkedRange_of_stop_lt _ representable, sliced memory,
      memory.overwrite_of_stop_lt data representable]
    by_cases inside : address.toNat + length.toNat ≤ memory.size
    case neg => simp only [if_neg inside, and_self]
    case pos =>
      have fits : address.toNat + data.length ≤ memory.size := width ▸ inside
      simp only [if_pos inside, true_and]
      refine ⟨⟨_, rfl, by simp, fun index near => ?_⟩, _, rfl, size_write _ _ _, ?_, ?_⟩
      · rw [getElem?_eq, if_pos (by omega)]
        simp [near]
      · rw [sliced, size_write, if_pos inside, ← read_eq, ← width]
        exact congrArg Except.ok (read_write data fits)
      · intro index outside
        rw [getElem?_write, width, if_neg (by omega)]

theorem range_access_exact_of_end :
    let memory := (zeros 8).write 4 [1, 2, 3, 4]
    ([7, 8] : List UInt8).length = (2 : UInt64).toNat ∧
      checkedRange memory.size 6 2 = .ok ⟨6, 8⟩ ∧
        (∃ bytes, memory.slice 6 2 = .ok bytes ∧ bytes.length = 2) ∧
          ∃ after, memory.overwrite 6 2 [7, 8] = .ok after ∧ after.slice 6 2 = .ok [7, 8] := by
  have exact := range_access_exact ((zeros 8).write 4 [1, 2, 3, 4]) 6 2 [7, 8] rfl
  obtain ⟨range, ⟨bytes, sliced, length, -⟩, after, replaced, -, held, -⟩ := exact
  exact ⟨rfl, range, ⟨bytes, sliced, length⟩, after, replaced, held⟩

/-- A range whose end is no 64-bit number stops the host, also where it starts inside the memory. -/
theorem range_access_stops :
    let address : Word := 1
    let length : UInt64 := 0xFFFFFFFFFFFFFFFF
    (zeros 16).size < address.toNat + length.toNat ∧
      checkedRange (zeros 16).size address length ≠
          .error (.outOfBounds address length (zeros 16).size) ∧
        checkedRange (zeros 16).size address length = .error .sumOverflow ∧
          (zeros 16).slice address length = .error .sumOverflow :=
  ⟨by decide, nofun, rfl, rfl⟩

end Bytes

end GuestBoundary
