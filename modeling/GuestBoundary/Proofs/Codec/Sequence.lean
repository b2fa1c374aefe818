import GuestBoundary.Proofs.Codec.Lowering
import GuestBoundary.Proofs.Memory.Access

/-!
# Lists beside single scalars

A list takes one range, which is checked once and never wraps; a single scalar is reached by an
address that does wrap. Inside a range that the check lets through the two agree: lifting a list
finds what loading each element finds, and lowering it leaves what storing each element leaves, in
whatever order. Outside, lifting fails, also where each load would succeed.
-/

namespace GuestBoundary

variable {α : Type} [Scalar α]

/-! ## Lifting -/

theorem byteLength_of_le {count : Word} (small : count.toNat * Scalar.size α ≤ Word.maxLength) :
    byteLength α count = .ok (UInt64.ofNat (count.toNat * Scalar.size α)) := by
  have representable : ¬ UInt64.size ≤ count.toNat * Scalar.size α :=
    Nat.not_le.mpr (Nat.lt_of_le_of_lt small (by decide))
  rw [byteLength, if_neg representable, if_pos small]

theorem byteLength_of_lt {count : Word} (large : Word.maxLength < count.toNat * Scalar.size α) :
    ∃ fault, byteLength α count = .error fault := by
  by_cases representable : UInt64.size ≤ count.toNat * Scalar.size α
  · exact ⟨_, if_pos representable⟩
  · exact ⟨_, (if_neg representable).trans (if_neg (Nat.not_le.mpr large))⟩

theorem liftList_of_le (memory : Bytes) (address : Word) {count : Word}
    (small : count.toNat * Scalar.size α ≤ Word.maxLength) :
    liftList α memory address count =
      if address.toNat + count.toNat * Scalar.size α ≤ memory.size then
        .ok ((List.range count.toNat).map fun index => Scalar.decode fun distance =>
          memory.byte (address.toNat + index * Scalar.size α + distance))
      else
        .error (.outOfBounds address (UInt64.ofNat (count.toNat * Scalar.size α)) memory.size) := by
  rw [liftList, byteLength_of_le small]
  change (checkedRange memory.size (guestAddress address 0) _ >>= _) = _
  rw [guestAddress_zero, checkedRange_ofNat _ _ (Word.lt_size_of_le_maxLength small)]
  split <;> rfl

/-- Lifting fails unless the whole list is inside the memory and of a size that guests can read. -/
theorem liftList_fails {memory : Bytes} {address count : Word}
    (outside : ¬ (count.toNat * Scalar.size α ≤ Word.maxLength ∧
      address.toNat + count.toNat * Scalar.size α ≤ memory.size)) :
    ∃ fault, liftList α memory address count = .error fault := by
  by_cases small : count.toNat * Scalar.size α ≤ Word.maxLength
  · have beyond := fun inside => outside ⟨small, inside⟩
    exact ⟨_, (liftList_of_le memory address small).trans (if_neg beyond)⟩
  · obtain ⟨fault, refused⟩ := byteLength_of_lt (Nat.lt_of_not_le small)
    refine ⟨fault, ?_⟩
    rw [liftList, refused]
    rfl

/-! ## Elements inside a range -/

/-- A scalar is no larger than a list that it is part of. -/
theorem size_lt_of_le_maxLength {index length : Nat} (inside : index < length)
    (small : length * Scalar.size α ≤ Word.maxLength) : Scalar.size α < UInt32.size := by
  apply Word.lt_size_of_le_maxLength
  exact Nat.le_trans (Nat.le_mul_of_pos_left _ (Nat.zero_lt_of_lt inside)) small

section

variable [SizedScalar α] {memory : Bytes} {address : Word} {index : Nat}

/-- Inside a memory of at most 2^32 bytes the address of an element does not wrap. -/
theorem toNat_elementAddress (addressable : memory.size ≤ UInt32.size)
    (inside : address.toNat + (index + 1) * Scalar.size α ≤ memory.size) :
    (address + UInt32.ofNat (index * Scalar.size α)).toNat =
      address.toNat + index * Scalar.size α := by
  have positive : 0 < Scalar.size α := SizedScalar.size_pos
  rw [Nat.succ_mul] at inside
  rw [UInt32.toNat_add, UInt32.toNat_ofNat_of_lt' (by omega), Nat.mod_eq_of_lt]
  change address.toNat + index * Scalar.size α < UInt32.size
  omega

theorem load_element (short : Scalar.size α < UInt32.size)
    (addressable : memory.size ≤ UInt32.size)
    (inside : address.toNat + (index + 1) * Scalar.size α ≤ memory.size) :
    (memory.load address (UInt32.ofNat (index * Scalar.size α)) : Except Fault α) =
      .ok (Scalar.decode fun distance =>
        memory.byte (address.toNat + index * Scalar.size α + distance)) := by
  rw [Bytes.load_of_lt _ _ _ short, toNat_elementAddress addressable inside, if_pos]
  rwa [Nat.add_assoc, ← Nat.succ_mul]

theorem store_element (item : α) (short : Scalar.size α < UInt32.size)
    (addressable : memory.size ≤ UInt32.size)
    (inside : address.toNat + (index + 1) * Scalar.size α ≤ memory.size) :
    memory.store address (UInt32.ofNat (index * Scalar.size α)) item =
      .ok (memory.write (address.toNat + index * Scalar.size α) (Scalar.encode item)) := by
  rw [Bytes.store_of_lt _ _ _ _ short, toNat_elementAddress addressable inside, if_pos]
  rwa [Nat.add_assoc, ← Nat.succ_mul]

end

/-! ## Storing in any order -/

namespace Bytes

/-- Stores the elements of a list, each at its number times the size of one. -/
def storeEach (address : Word) : List (α × Nat) → Bytes → Except Fault Bytes
  | [], memory => .ok memory
  | (item, index) :: others, memory => do
      storeEach address others
        (← memory.store address (UInt32.ofNat (index * Scalar.size α)) item)

/-- Writes one element of a list whose first one begins at `start`. -/
def writeElement (start : Nat) (memory : Bytes) (element : α × Nat) : Bytes :=
  memory.write (start + element.2 * Scalar.size α) (Scalar.encode element.1)

variable [SizedScalar α]

theorem storeEach_eq_foldl {memory : Bytes} {address : Word} (order : List (α × Nat))
    (short : Scalar.size α < UInt32.size) (addressable : memory.size ≤ UInt32.size)
    (inside : ∀ element ∈ order,
      address.toNat + (element.2 + 1) * Scalar.size α ≤ memory.size) :
    storeEach address order memory =
      .ok (order.foldl (writeElement address.toNat) memory) := by
  induction order generalizing memory with
  | nil => rfl
  | cons element others inductionHypothesis =>
      rw [List.forall_mem_cons] at inside
      rw [storeEach, store_element _ short addressable inside.1]
      apply inductionHypothesis
      · rwa [size_write]
      · intro other among
        rw [size_write]
        exact inside.2 other among

/-- Elements with different numbers are written in either order. -/
theorem writeElement_comm (start : Nat) (memory : Bytes) {one two : α × Nat}
    (different : one.2 ≠ two.2) :
    (memory.writeElement start one).writeElement start two =
      (memory.writeElement start two).writeElement start one := by
  apply write_comm
  rw [SizedScalar.length_encode, SizedScalar.length_encode, Nat.add_assoc, Nat.add_assoc,
    ← Nat.succ_mul, ← Nat.succ_mul]
  rcases Nat.lt_or_gt_of_ne different with before | after
  · exact .inl (Nat.add_le_add_left (Nat.mul_le_mul_right _ before) start)
  · exact .inr (Nat.add_le_add_left (Nat.mul_le_mul_right _ after) start)

/-- Written one by one from the first, elements come to one write. -/
theorem foldl_zipIdx_writeElement (start : Nat) (memory : Bytes) (items : List α) (first : Nat) :
    (items.zipIdx first).foldl (writeElement start) memory =
      memory.write (start + first * Scalar.size α) (items.flatMap Scalar.encode) := by
  induction items generalizing memory first with
  | nil => rfl
  | cons item items inductionHypothesis =>
      rw [List.zipIdx_cons, List.foldl_cons, inductionHypothesis, List.flatMap_cons, write_append,
        SizedScalar.length_encode, Nat.succ_mul, Nat.add_assoc]
      rfl

theorem foldl_writeElement_of_perm (start : Nat) (memory : Bytes) {items : List α}
    {order : List (α × Nat)} (perm : order.Perm items.zipIdx) :
    order.foldl (writeElement start) memory =
      memory.write start (items.flatMap Scalar.encode) := by
  have sorted := foldl_zipIdx_writeElement start memory items 0
  rw [Nat.zero_mul, Nat.add_zero] at sorted
  rw [← sorted]
  apply perm.foldl_eq'
  intro one among two amongToo memory
  by_cases same : one.2 = two.2
  · -- The number of an element says which one it is.
    have first := List.mem_zipIdx_iff_getElem?.mp (perm.subset among)
    have second := List.mem_zipIdx_iff_getElem?.mp (perm.subset amongToo)
    rw [same, second] at first
    obtain rfl : one = two := Prod.ext (Option.some.inj first).symm same
    rfl
  · exact writeElement_comm start memory same

/-- Storing all elements of a list in any order is one write of the whole list. -/
theorem storeEach_of_perm {memory : Bytes} {address : Word} {items : List α}
    {order : List (α × Nat)} (perm : order.Perm items.zipIdx)
    (small : items.length * Scalar.size α ≤ Word.maxLength)
    (addressable : memory.size ≤ UInt32.size)
    (inside : address.toNat + items.length * Scalar.size α ≤ memory.size) :
    storeEach address order memory =
      .ok (memory.write address.toNat (items.flatMap Scalar.encode)) := by
  have within (element : α × Nat) (among : element ∈ order) : element.2 < items.length := by
    have found := List.mem_zipIdx_iff_getElem?.mp (perm.subset among)
    exact (List.getElem?_eq_some_iff.mp found).1
  cases order with
  | nil =>
      obtain rfl : items = [] := List.zipIdx_eq_nil_iff.mp perm.nil_eq.symm
      rfl
  | cons element others =>
      have short := size_lt_of_le_maxLength (within element List.mem_cons_self) small
      rw [storeEach_eq_foldl _ short addressable, foldl_writeElement_of_perm _ _ perm]
      intro other among
      apply Nat.le_trans _ inside
      exact Nat.add_le_add_left (Nat.mul_le_mul_right _ (within other among)) _

end Bytes

/-! ## Lowering -/

namespace GuestMemory

variable {σ : Type} (guest : GuestMemory σ)

theorem on_lowerList_of_gt {items : List α} (many : Word.maxLength < items.length) (state : σ) :
    (guest.lowerList items).on state = (.error (.lengthOverflow items.length), state) := by
  rw [lowerList, Work.on_bind, Attempt.on_ofExcept, guestLength, if_neg (Nat.not_le.mpr many)]

/-- With a number of elements that guests can read, lowering a list goes by its size in bytes. -/
theorem on_lowerList_of_le {items : List α} (few : items.length ≤ Word.maxLength) (state : σ) :
    (guest.lowerList items).on state =
      match byteLength α (UInt32.ofNat items.length) with
      | .error fault => (.error fault, state)
      | .ok total =>
          match (guest.realloc 0 0 (UInt32.ofNat (Scalar.align α)) total.toUInt32).on state with
          | (.error fault, after) => (.error fault, after)
          | (.ok address, after) =>
              match (guest.bytes after).overwrite address total (items.flatMap Scalar.encode) with
              | .error fault => (.error fault, after)
              | .ok memory =>
                  (.ok (address, UInt32.ofNat items.length), guest.setBytes memory after) := by
  rw [lowerList, Work.on_bind, Attempt.on_ofExcept, guestLength, if_pos few]
  dsimp only
  rw [Work.on_bind, Attempt.on_ofExcept]
  rcases byteLength α (UInt32.ofNat items.length) with fault | total
  case error => rfl
  case ok =>
    dsimp only
    rw [Work.on_bind]
    rcases (guest.realloc 0 0 (UInt32.ofNat (Scalar.align α)) total.toUInt32).on state with
      ⟨fault | address, after⟩
    case error => rfl
    case ok =>
      dsimp only
      rw [Work.on_bind, on_change]
      cases (guest.bytes after).overwrite address total (items.flatMap Scalar.encode) <;> rfl

/-- A list whose size guests can read is lowered into room of exactly that size. -/
theorem on_lowerList_of_small {items : List α} (few : items.length ≤ Word.maxLength)
    (small : items.length * Scalar.size α ≤ Word.maxLength) (state : σ) :
    (guest.lowerList items).on state =
      match (guest.realloc 0 0 (UInt32.ofNat (Scalar.align α))
          (UInt32.ofNat (items.length * Scalar.size α))).on state with
      | (.error fault, after) => (.error fault, after)
      | (.ok address, after) =>
          if address.toNat + items.length * Scalar.size α ≤ (guest.bytes after).size then
            (.ok (address, UInt32.ofNat items.length),
              guest.setBytes
                ((guest.bytes after).write address.toNat (items.flatMap Scalar.encode)) after)
          else
            (.error (.outOfBounds address (UInt64.ofNat (items.length * Scalar.size α))
              (guest.bytes after).size), after) := by
  have count : (UInt32.ofNat items.length).toNat = items.length :=
    UInt32.toNat_ofNat_of_lt' (Word.lt_size_of_le_maxLength few)
  rw [guest.on_lowerList_of_le few, byteLength_of_le (by rwa [count]), count]
  dsimp only
  rw [UInt64.toUInt32_ofNat']
  split
  next => rfl
  next address after answered =>
    rw [Bytes.overwrite_ofNat _ _ _ (Word.lt_size_of_le_maxLength small)]
    by_cases inside : address.toNat + items.length * Scalar.size α ≤ (guest.bytes after).size
    · rw [if_pos inside, if_pos inside]
    · rw [if_neg inside, if_neg inside]

/-- A list that was lowered is of a size that guests can read, and stands in the room that the
allocator handed out. -/
theorem lowered_of_on_lowerList {items : List α} {state final : σ} {address count : Word}
    (lowered : (guest.lowerList items).on state = (.ok (address, count), final)) :
    items.length * Scalar.size α ≤ Word.maxLength ∧
      ∃ after, (guest.realloc 0 0 (UInt32.ofNat (Scalar.align α))
          (UInt32.ofNat (items.length * Scalar.size α))).on state = (.ok address, after) ∧
        address.toNat + items.length * Scalar.size α ≤ (guest.bytes after).size ∧
        guest.bytes final =
          (guest.bytes after).write address.toNat (items.flatMap Scalar.encode) := by
  have few : items.length ≤ Word.maxLength := by
    apply Nat.le_of_not_lt
    intro many
    rw [guest.on_lowerList_of_gt many] at lowered
    exact nomatch lowered
  have small : items.length * Scalar.size α ≤ Word.maxLength := by
    apply Nat.le_of_not_lt
    intro large
    rw [← UInt32.toNat_ofNat_of_lt' (Word.lt_size_of_le_maxLength few)] at large
    obtain ⟨fault, refused⟩ := byteLength_of_lt large
    rw [guest.on_lowerList_of_le few, refused] at lowered
    exact nomatch lowered
  rw [guest.on_lowerList_of_small few small] at lowered
  split at lowered
  next => exact nomatch lowered
  next place after answered =>
    split at lowered
    next fits =>
      obtain ⟨⟨rfl, -⟩, rfl⟩ := by simpa using lowered
      exact ⟨small, after, answered, fits, guest.bytes_setBytes _ _⟩
    next => exact nomatch lowered

end GuestMemory

/-! ## Agreement -/

section

variable [SizedScalar α]

/-- At the end of a full memory loads go on from its start, but no list does. -/
theorem exists_loads_of_no_list (short : Scalar.size α < UInt32.size) :
    ∃ (memory : Bytes) (address count : Word), memory.size ≤ UInt32.size ∧
      (∀ index < count.toNat, ∃ item : α,
        memory.load address (UInt32.ofNat (index * Scalar.size α)) = .ok item) ∧
      ∃ fault, liftList α memory address count = .error fault := by
  have positive : 0 < Scalar.size α := SizedScalar.size_pos
  have last : (UInt32.ofNat (UInt32.size - Scalar.size α)).toNat = UInt32.size - Scalar.size α :=
    UInt32.toNat_ofNat_of_lt' (by omega)
  have full : (Bytes.zeros UInt32.size).size = UInt32.size := rfl
  refine ⟨.zeros UInt32.size, UInt32.ofNat (UInt32.size - Scalar.size α), 2, Nat.le_refl _, ?_, ?_⟩
  · intro index near
    refine ⟨_, (Bytes.load_of_lt _ _ _ short).trans (if_pos ?_)⟩
    rw [UInt32.toNat_add, last, full]
    match index, near with
    | 0, _ =>
        rw [Nat.zero_mul, UInt32.toNat_ofNat_of_lt' (by decide), Nat.add_zero,
          Nat.mod_eq_of_lt (show UInt32.size - Scalar.size α < UInt32.size by omega)]
        omega
    | 1, _ =>
        rw [Nat.one_mul, UInt32.toNat_ofNat_of_lt' short, Nat.sub_add_cancel (Nat.le_of_lt short),
          show UInt32.size % 2 ^ 32 = 0 by decide, Nat.zero_add]
        exact Nat.le_of_lt short
  · apply liftList_fails
    rintro ⟨-, inside⟩
    rw [last, full, show (2 : Word).toNat = 2 from rfl] at inside
    omega

/-- A list is lifted as its elements are loaded, and lowered as they are stored, in any order. It is
refused where its range is not inside the memory or too large, though loads may wrap there. -/
theorem lists_agree_with_scalars :
    (∀ (memory : Bytes) (address count : Word), memory.size ≤ UInt32.size →
      if count.toNat * Scalar.size α ≤ Word.maxLength ∧
          address.toNat + count.toNat * Scalar.size α ≤ memory.size then
        ∃ items, liftList α memory address count = .ok items ∧ items.length = count.toNat ∧
          ∀ (index : Nat) (near : index < items.length),
            memory.load address (UInt32.ofNat (index * Scalar.size α)) = .ok items[index]
      else ∃ fault, liftList α memory address count = .error fault) ∧
    (∀ {σ : Type} (guest : GuestMemory σ) (items : List α) (state final : σ)
        (address count : Word),
      (guest.lowerList items).on state = (.ok (address, count), final) →
        ∃ after, (guest.realloc 0 0 (UInt32.ofNat (Scalar.align α))
            (UInt32.ofNat (items.length * Scalar.size α))).on state = (.ok address, after) ∧
          ((guest.bytes after).size ≤ UInt32.size →
            ∀ order : List (α × Nat), order.Perm items.zipIdx →
              Bytes.storeEach address order (guest.bytes after) = .ok (guest.bytes final))) ∧
    (Scalar.size α < UInt32.size →
      ∃ (memory : Bytes) (address count : Word), memory.size ≤ UInt32.size ∧
        (∀ index < count.toNat, ∃ item : α,
          memory.load address (UInt32.ofNat (index * Scalar.size α)) = .ok item) ∧
        ∃ fault, liftList α memory address count = .error fault) := by
  refine ⟨fun memory address count addressable => ?_, ?_, exists_loads_of_no_list⟩
  · split
    case isTrue within =>
      obtain ⟨small, inside⟩ := within
      refine ⟨_, (liftList_of_le memory address small).trans (if_pos inside), by simp, ?_⟩
      intro index near
      rw [List.length_map, List.length_range] at near
      rw [List.getElem_map, List.getElem_range]
      apply load_element (size_lt_of_le_maxLength near small) addressable
      exact Nat.le_trans (Nat.add_le_add_left (Nat.mul_le_mul_right _ near) _) inside
    case isFalse outside => exact liftList_fails outside
  · intro σ guest items state final address count lowered
    obtain ⟨small, after, answered, fits, written⟩ := guest.lowered_of_on_lowerList lowered
    refine ⟨after, answered, fun addressable order perm => ?_⟩
    rw [written]
    exact Bytes.storeEach_of_perm perm small addressable fits

end

theorem lists_agree_with_scalars_of_reversed :
    let arena : Arena := { memory := .zeros 32 }
    let lowered := (Arena.guestMemory.lowerList [(-2 : Int16), 300]).on arena
    let memory := lowered.2.memory
    SizedScalar Int16 ∧ lowered.1 = .ok (16, 2) ∧
      (∃ after, (Arena.guestMemory.realloc 0 0 2 4).on arena = (.ok 16, after) ∧
        after.memory.size ≤ UInt32.size ∧
          [((300 : Int16), 1), (-2, 0)].Perm [((-2 : Int16), 0), (300, 1)] ∧
            Bytes.storeEach 16 [((300 : Int16), 1), (-2, 0)] after.memory = .ok memory) ∧
      memory.size ≤ UInt32.size ∧
        (∃ lifted : List Int16, liftList Int16 memory 16 2 = .ok lifted ∧ lifted.length = 2 ∧
          ∀ (index : Nat) (near : index < lifted.length),
            memory.load 16 (UInt32.ofNat (index * 2)) = .ok lifted[index]) ∧
        Scalar.size Int16 < UInt32.size := by
  intro arena lowered memory
  have agree := lists_agree_with_scalars (α := Int16)
  have success : lowered.1 = .ok (16, 2) := by with_unfolding_all rfl
  have ended : lowered = (.ok (16, 2), lowered.2) := by rw [← success]
  have perm : [((300 : Int16), 1), (-2, 0)].Perm [((-2 : Int16), 0), (300, 1)] := .swap _ _ _
  have small : memory.size ≤ UInt32.size := by decide +kernel
  have within : (2 : Word).toNat * Scalar.size Int16 ≤ Word.maxLength ∧
      (16 : Word).toNat + (2 : Word).toNat * Scalar.size Int16 ≤ memory.size := by decide +kernel
  have lifts := agree.1 memory 16 2 small
  rw [if_pos within] at lifts
  obtain ⟨after, answered, stored⟩ := agree.2.1 Arena.guestMemory _ arena lowered.2 16 2 ended
  have left : ((Arena.guestMemory.realloc 0 0 2 4).on arena).2 = after := congrArg Prod.snd answered
  have addressable : after.memory.size ≤ UInt32.size := by
    rw [← left]
    decide +kernel
  exact ⟨inferInstance, success, ⟨after, answered, addressable, perm, stored addressable _ perm⟩,
    small, lifts, by decide⟩

end GuestBoundary
