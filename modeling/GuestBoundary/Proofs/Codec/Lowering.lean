import GuestBoundary.Arena
import GuestBoundary.Codec
import GuestBoundary.Proofs.Memory.Access

/-!
# Lowering

Lowering a value writes its image into room that the guest's allocator answers with.

## Images of values

The image of a value has exactly the size that lowering asks the allocator for. Numbers of one type
take the same room each, so the bytes of one of them are found at a multiple of that size.
-/

namespace GuestBoundary

/-- A scalar that takes some room and fills it. -/
class SizedScalar (α : Type) [Scalar α] : Prop where
  size_pos : 0 < Scalar.size α
  length_encode (scalar : α) : (Scalar.encode scalar).length = Scalar.size α

instance (α : Type) [Scalar α] [LawfulScalar α] : SizedScalar α where
  size_pos := LawfulScalar.size_pos
  length_encode := LawfulScalar.length_encode

theorem Utf8.length_encode (text : List Char) :
    (encode text).length = (String.ofList text).utf8ByteSize := by
  rw [← String.size_toByteArray, String.toByteArray_ofList, List.utf8Encode,
    List.size_toByteArray, encode]

namespace Scalar

variable {α : Type} [Scalar α]

theorem length_flatMap_encode [SizedScalar α] (items : List α) :
    (items.flatMap encode).length = items.length * size α := by
  induction items with
  | nil => exact (Nat.zero_mul _).symm
  | cons item items inductionHypothesis =>
      rw [List.flatMap_cons, List.length_append, inductionHypothesis, SizedScalar.length_encode,
        List.length_cons, Nat.succ_mul, Nat.add_comm]

variable [LawfulScalar α]

/-- The bytes of an element begin at its number times the size of one. -/
theorem getElem?_flatMap_encode (items : List α) {index distance : Nat} (item : α)
    (found : items[index]? = some item) (inside : distance < size α) :
    (items.flatMap encode)[index * size α + distance]? = (encode item)[distance]? := by
  have width (item : α) : (encode item).length = size α := LawfulScalar.length_encode item
  induction items generalizing index with
  | nil => exact nomatch found
  | cons first items inductionHypothesis =>
      rw [List.flatMap_cons]
      cases index with
      | zero =>
          obtain rfl : first = item := Option.some.inj found
          rw [Nat.zero_mul, Nat.zero_add, List.getElem?_append_left (by rw [width]; exact inside)]
      | succ index =>
          have beyond : (index + 1) * size α + distance =
              (encode first).length + (index * size α + distance) := by
            rw [width, Nat.succ_mul]
            omega
          rw [beyond, List.getElem?_append_right (Nat.le_add_right _ _), Nat.add_sub_cancel_left]
          exact inductionHypothesis found

/-- Reading a scalar looks at no more than its own bytes. -/
theorem decode_eq_of_encode {bytes : Nat → UInt8} {scalar : α}
    (same : ∀ distance < size α, (encode scalar)[distance]? = some (bytes distance)) :
    decode bytes = scalar := by
  have written : encode (decode bytes : α) = encode scalar := by
    apply List.ext_getElem?
    intro distance
    rw [LawfulScalar.encode_decode]
    by_cases inside : distance < size α
    · simp [same distance inside, inside]
    · have outside : (encode scalar).length ≤ distance := by
        rw [LawfulScalar.length_encode]
        exact Nat.le_of_not_lt inside
      simp [inside, outside]
  rw [← LawfulScalar.decode_encode (decode bytes : α), written, LawfulScalar.decode_encode]

end Scalar

namespace Word

theorem lt_size_of_le_maxLength {length : Nat} (small : length ≤ maxLength) :
    length < UInt32.size :=
  Nat.lt_of_le_of_lt small (by decide)

theorem toNat_uint64OfNat {length : Nat} (small : length ≤ maxLength) :
    (UInt64.ofNat length).toNat = length :=
  UInt64.toNat_ofNat_of_lt' (Nat.lt_of_le_of_lt small (by decide))

theorem toUInt64_ofNat {length : Nat} (small : length ≤ maxLength) :
    (UInt32.ofNat length).toUInt64 = UInt64.ofNat length := by
  apply UInt64.toNat_inj.mp
  rw [UInt32.toNat_toUInt64, UInt32.toNat_ofNat_of_lt' (lt_size_of_le_maxLength small),
    toNat_uint64OfNat small]

end Word

/-- The size of a list in bytes never wraps, if the elements are of less than 2^32 bytes. -/
theorem byteLength_of_short {α : Type} [Scalar α] (short : Scalar.size α < UInt32.size)
    (count : Word) :
    byteLength α count =
      if count.toNat * Scalar.size α ≤ Word.maxLength then
        .ok (UInt64.ofNat (count.toNat * Scalar.size α))
      else .error (.lengthOverflow (count.toNat * Scalar.size α)) := by
  have product : count.toNat * Scalar.size α < UInt64.size :=
    Nat.mul_lt_mul'' count.toNat_lt short
  rw [byteLength, if_neg (Nat.not_le.mpr product)]

theorem NumberType.size_lt (type : NumberType) : Scalar.size type.Value < UInt32.size :=
  Nat.lt_of_le_of_lt type.size_le (by decide)

namespace Lowerable

theorem length_image (value : Lowerable) : value.image.length = value.size := by
  cases value with
  | text value => exact (Utf8.length_encode _).trans (by rw [String.ofList_toList]; rfl)
  | bytes data => rfl
  | list type items => exact Scalar.length_flatMap_encode items

theorem count_le_size (value : Lowerable) : value.count ≤ value.size := by
  cases value with
  | text value => exact Nat.le_refl _
  | bytes data => exact Nat.le_refl _
  | list type items => exact Nat.le_mul_of_pos_right _ LawfulScalar.size_pos

end Lowerable

/-!
## Lowering into the room of any allocator

Lowering asks the allocator once, for room of exactly the size and the alignment of what it hands
over. What comes back is trusted in nothing: the room is checked against the memory as the allocator
left it, and either the image is written there and nowhere else, or nothing is written at all.

Texts, bytes and lists of scalars of any type differ in what they hand over, not in how: each is a
parcel, and one statement about parcels holds for all of them and every allocator.
-/

/-- Work on a state that stands beside another one, which it leaves alone. -/
def Work.beside {ε σ τ α : Type} (work : Work ε σ α) : Work ε (σ × τ) α := fun (state, other) => do
  let (outcome, after) ← (work.watched state).embed fun state => (state, other)
  return (outcome, (after, other))

namespace GuestMemory

variable {σ : Type} (guest : GuestMemory σ)

@[simp]
theorem on_change (edit : Bytes → Except Fault Bytes) (state : σ) :
    (guest.change edit).on state =
      match edit (guest.bytes state) with
      | .ok memory => (.ok (), guest.setBytes memory state)
      | .error fault => (.error fault, state) := by
  rw [change, examine, Work.on_bind, Attempt.on_examine]
  cases edit (guest.bytes state) <;> rfl

/-- The same guest with a record of the calls of its allocator. -/
def recording : GuestMemory (σ × List AllocatorCall) where
  bytes state := guest.bytes state.1
  setBytes memory state := (guest.setBytes memory state.1, state.2)
  realloc oldAddress oldLength align newLength := do
    modify fun (state, calls) =>
      (state, calls ++ [.realloc oldAddress oldLength align newLength])
    (guest.realloc oldAddress oldLength align newLength).beside
  free address length align := do
    modify fun (state, calls) => (state, calls ++ [.free address length align])
    (guest.free address length align).beside
  bytes_setBytes memory state := guest.bytes_setBytes memory state.1

theorem on_recording_realloc (oldAddress oldLength align newLength : Word) (state : σ)
    (calls : List AllocatorCall) :
    (guest.recording.realloc oldAddress oldLength align newLength).on (state, calls) =
      (((guest.realloc oldAddress oldLength align newLength).on state).1,
        ((guest.realloc oldAddress oldLength align newLength).on state).2,
          calls ++ [.realloc oldAddress oldLength align newLength]) := rfl

end GuestMemory

/-- What a guest gets: bytes, a number to go with their address, and how their room is aligned. -/
structure Parcel where
  align : Word
  count : Nat
  size : Nat
  image : List UInt8
  count_le_size : count ≤ size
  length_image : image.length = size

namespace Parcel

def bytes (data : List UInt8) : Parcel where
  align := 1
  count := data.length
  size := data.length
  image := data
  count_le_size := Nat.le_refl _
  length_image := rfl

def text (value : String) : Parcel where
  align := 1
  count := value.utf8ByteSize
  size := value.utf8ByteSize
  image := Utf8.encode value.toList
  count_le_size := Nat.le_refl _
  length_image := (Utf8.length_encode _).trans (by rw [String.ofList_toList])

/-- The scalars of a list back to back, aligned as one of them is. -/
def list {α : Type} [Scalar α] [SizedScalar α] (items : List α) : Parcel where
  align := UInt32.ofNat (Scalar.align α)
  count := items.length
  size := items.length * Scalar.size α
  image := items.flatMap Scalar.encode
  count_le_size := Nat.le_mul_of_pos_right _ SizedScalar.size_pos
  length_image := Scalar.length_flatMap_encode items

/-- A text is handed over as the bytes that encode it. -/
theorem text_eq_bytes (value : String) : text value = bytes (Utf8.encode value.toList) := by
  have length : (Utf8.encode value.toList).length = value.utf8ByteSize := (text value).length_image
  simp only [text, bytes, length]

/-- The length that no guest could read, if there is one: the number, or else the size. -/
def overflow? (parcel : Parcel) : Option Nat :=
  if Word.maxLength < parcel.count then some parcel.count
  else if Word.maxLength < parcel.size then some parcel.size
  else none

theorem overflow?_eq_none_iff (parcel : Parcel) :
    parcel.overflow? = none ↔ parcel.size ≤ Word.maxLength := by
  have le := parcel.count_le_size
  unfold overflow?
  split
  next => simp only [reduceCtorEq, false_iff]; omega
  next => split <;> simp_all

theorem maxLength_lt_of_overflow? {parcel : Parcel} {length : Nat}
    (overflows : parcel.overflow? = some length) : Word.maxLength < length := by
  unfold overflow? at overflows
  split at overflows
  next greater => exact Option.some.inj overflows ▸ greater
  next =>
      split at overflows
      next greater => exact Option.some.inj overflows ▸ greater
      next => exact nomatch overflows

end Parcel

/-- The same for every kind of value. -/
def Lowerable.parcel (value : Lowerable) : Parcel where
  align := value.align
  count := value.count
  size := value.size
  image := value.image
  count_le_size := value.count_le_size
  length_image := value.length_image

namespace GuestMemory

section

variable {σ : Type} (guest : GuestMemory σ) (parcel : Parcel)

/-- What an allocator's answer to the request for a parcel's room leads to. -/
def deposit : Except Fault Word × σ → Except Fault (Word × Word) × σ
  | (.error fault, after) => (.error fault, after)
  | (.ok address, after) =>
      if address.toNat + parcel.size ≤ (guest.bytes after).size then
        (.ok (address, UInt32.ofNat parcel.count),
          guest.setBytes ((guest.bytes after).write address.toNat parcel.image) after)
      else
        (.error (.outOfBounds address (UInt64.ofNat parcel.size) (guest.bytes after).size), after)

/-- Asks for a parcel's room and fills it. -/
def place : Attempt σ (Word × Word) := do
  let address ← guest.realloc 0 0 parcel.align (UInt32.ofNat parcel.size)
  guest.change (·.overwrite address (UInt64.ofNat parcel.size) parcel.image)
  return (address, UInt32.ofNat parcel.count)

theorem on_place (small : parcel.size ≤ Word.maxLength) (state : σ) :
    (guest.place parcel).on state =
      guest.deposit parcel
        ((guest.realloc 0 0 parcel.align (UInt32.ofNat parcel.size)).on state) := by
  rw [place, Work.on_bind]
  rcases (guest.realloc 0 0 parcel.align (UInt32.ofNat parcel.size)).on state with
    ⟨fault | address, after⟩
  case error => rfl
  case ok =>
    dsimp only
    rw [Work.on_bind, on_change,
      Bytes.overwrite_ofNat _ _ _ (Word.lt_size_of_le_maxLength small), deposit]
    by_cases inside : address.toNat + parcel.size ≤ (guest.bytes after).size
    · rw [if_pos inside, if_pos inside]
      rfl
    · rw [if_neg inside, if_neg inside]

end

/-- Work on guests of any kind that hands a parcel over. It fails before the allocator is called, or
goes by what the allocator answers. -/
structure Delivers (parcel : Parcel)
    (work : ∀ {τ : Type}, GuestMemory τ → Attempt τ (Word × Word)) : Prop where
  on_eq {τ : Type} (guest : GuestMemory τ) (state : τ) :
    (work guest).on state =
      match parcel.overflow? with
      | some length => (.error (.lengthOverflow length), state)
      | none =>
          guest.deposit parcel
            ((guest.realloc 0 0 parcel.align (UInt32.ofNat parcel.size)).on state)

theorem delivers_lowerBytes (data : List UInt8) :
    Delivers (.bytes data) (·.lowerBytes data) := by
  constructor
  intro τ guest state
  rw [lowerBytes, Work.on_bind, Attempt.on_ofExcept, guestLength]
  by_cases small : data.length ≤ Word.maxLength
  · rw [if_pos small, (Parcel.bytes data).overflow?_eq_none_iff.mpr small]
    exact guest.on_place (.bytes data) small state
  · rw [if_neg small]
    simp [Parcel.overflow?, Parcel.bytes, Nat.lt_of_not_le small]

theorem delivers_lowerText (value : String) : Delivers (.text value) (·.lowerText value) :=
  Parcel.text_eq_bytes value ▸ delivers_lowerBytes _

theorem delivers_lowerList {α : Type} [Scalar α] [SizedScalar α]
    (short : Scalar.size α < UInt32.size) (items : List α) :
    Delivers (.list items) (·.lowerList items) := by
  constructor
  intro τ guest state
  rw [lowerList, Work.on_bind, Attempt.on_ofExcept, guestLength]
  by_cases few : items.length ≤ Word.maxLength
  case neg =>
    rw [if_neg few]
    simp [Parcel.overflow?, Parcel.list, Nat.lt_of_not_le few]
  case pos =>
    have count : (UInt32.ofNat items.length).toNat = items.length :=
      UInt32.toNat_ofNat_of_lt' (Word.lt_size_of_le_maxLength few)
    rw [if_pos few]
    dsimp only
    rw [Work.on_bind, Attempt.on_ofExcept, byteLength_of_short short, count]
    by_cases small : items.length * Scalar.size α ≤ Word.maxLength
    · rw [if_pos small, (Parcel.list items).overflow?_eq_none_iff.mpr small]
      dsimp only
      rw [UInt64.toUInt32_ofNat']
      exact guest.on_place (.list items) small state
    · rw [if_neg small]
      simp [Parcel.overflow?, Parcel.list, Nat.lt_of_not_le small, Nat.not_lt.mpr few]

theorem delivers_lower (value : Lowerable) : Delivers value.parcel (·.lower value) := by
  cases value with
  | text value => exact delivers_lowerText value
  | bytes data => exact delivers_lowerBytes data
  | list type items => exact delivers_lowerList type.size_lt items

theorem on_lower {σ : Type} (guest : GuestMemory σ) (value : Lowerable) (state : σ) :
    (guest.lower value).on state =
      match value.parcel.overflow? with
      | some length => (.error (.lengthOverflow length), state)
      | none =>
          guest.deposit value.parcel
            ((guest.realloc 0 0 value.align (UInt32.ofNat value.size)).on state) :=
  (delivers_lower value).on_eq guest state

variable {parcel : Parcel} {work : ∀ {τ : Type}, GuestMemory τ → Attempt τ (Word × Word)} {σ : Type}

/-- The record of calls changes nothing of what a delivery does, and gets at most one call. -/
theorem Delivers.on_recording (delivers : Delivers parcel work) (guest : GuestMemory σ) (state : σ)
    (earlier : List AllocatorCall) :
    (work guest.recording).on (state, earlier) =
      (((work guest).on state).1, ((work guest).on state).2,
        earlier ++ if parcel.size ≤ Word.maxLength then
          [.realloc 0 0 parcel.align (UInt32.ofNat parcel.size)] else []) := by
  rw [delivers.on_eq, delivers.on_eq, on_recording_realloc]
  cases overflows : parcel.overflow? with
  | some length =>
      have large : ¬ parcel.size ≤ Word.maxLength := by
        rw [← parcel.overflow?_eq_none_iff, overflows]
        exact Option.some_ne_none length
      rw [if_neg large, List.append_nil]
  | none =>
      rw [if_pos (parcel.overflow?_eq_none_iff.mp overflows)]
      rcases (guest.realloc 0 0 parcel.align (UInt32.ofNat parcel.size)).on state with
        ⟨fault | address, after⟩
      case error => rfl
      case ok =>
        dsimp only [deposit, recording]
        split <;> rfl

/-- The allocator is called at most once, for room of exactly the size and alignment of the parcel;
its answer is checked against the memory that it leaves, and nothing changes outside that room. -/
def LowersInto (guest : GuestMemory σ) (parcel : Parcel)
    (work : ∀ {τ : Type}, GuestMemory τ → Attempt τ (Word × Word)) (state : σ) : Prop :=
  ∃ calls : List AllocatorCall,
    (∀ earlier, (work guest.recording).on (state, earlier) =
      (((work guest).on state).1, ((work guest).on state).2, earlier ++ calls)) ∧
    if parcel.size ≤ Word.maxLength then
      calls = [.realloc 0 0 parcel.align (UInt32.ofNat parcel.size)] ∧
      match (guest.realloc 0 0 parcel.align (UInt32.ofNat parcel.size)).on state with
      | (.error fault, after) => (work guest).on state = (.error fault, after)
      | (.ok address, after) =>
          if address.toNat + parcel.size ≤ (guest.bytes after).size then
            ∃ memory : Bytes,
              (work guest).on state =
                (.ok (address, UInt32.ofNat parcel.count), guest.setBytes memory after) ∧
              memory.size = (guest.bytes after).size ∧
              ∀ index, index < address.toNat ∨ address.toNat + parcel.size ≤ index →
                memory[index]? = (guest.bytes after)[index]?
          else
            (work guest).on state =
              (.error (.outOfBounds address (UInt64.ofNat parcel.size) (guest.bytes after).size),
                after)
    else
      calls = [] ∧ ∃ length, Word.maxLength < length ∧
        (work guest).on state = (.error (.lengthOverflow length), state)

theorem Delivers.lowersInto (delivers : Delivers parcel work) (guest : GuestMemory σ)
    (state : σ) : guest.LowersInto parcel work state := by
  refine ⟨_, delivers.on_recording guest state, ?_⟩
  rw [delivers.on_eq]
  by_cases small : parcel.size ≤ Word.maxLength
  · rw [if_pos small, if_pos small, parcel.overflow?_eq_none_iff.mpr small]
    refine ⟨rfl, ?_⟩
    rcases (guest.realloc 0 0 parcel.align (UInt32.ofNat parcel.size)).on state with
      ⟨fault | address, after⟩
    case error => rfl
    case ok =>
      dsimp only [deposit]
      split
      next inside =>
        refine ⟨_, rfl, Bytes.size_write _ _ _, fun index outside => ?_⟩
        rw [Bytes.getElem?_write, parcel.length_image, if_neg (by omega)]
      next => rfl
  · rw [if_neg small, if_neg small]
    refine ⟨rfl, ?_⟩
    obtain ⟨length, overflows⟩ := Option.ne_none_iff_exists'.mp
      (mt parcel.overflow?_eq_none_iff.mp small)
    exact ⟨length, Parcel.maxLength_lt_of_overflow? overflows, by rw [overflows]⟩

/-- Whatever an allocator does, a text, bytes and a list of scalars of any type are lowered by one
call at most, for exactly their size and alignment, and into the room that it answers or nowhere. -/
theorem lower_of_any_allocator (guest : GuestMemory σ) (state : σ) :
    (∀ value : String, guest.LowersInto (.text value) (·.lowerText value) state) ∧
      (∀ data : List UInt8, guest.LowersInto (.bytes data) (·.lowerBytes data) state) ∧
      ∀ {α : Type} [Scalar α] [SizedScalar α], Scalar.size α < UInt32.size → ∀ items : List α,
        guest.LowersInto (.list items) (·.lowerList items) state :=
  ⟨fun value => (delivers_lowerText value).lowersInto guest state,
    fun data => (delivers_lowerBytes data).lowersInto guest state,
    fun short items => (delivers_lowerList short items).lowersInto guest state⟩

end GuestMemory

section

variable {α : Type} [Scalar α]

/-- Two scalars in a row, which need no more alignment than one. -/
instance pairScalar : Scalar (α × α) where
  size := Scalar.size α + Scalar.size α
  align := Scalar.align α
  encode pair := Scalar.encode pair.1 ++ Scalar.encode pair.2
  decode bytes :=
    (Scalar.decode bytes, Scalar.decode fun distance => bytes (Scalar.size α + distance))

instance [SizedScalar α] : SizedScalar (α × α) where
  size_pos := Nat.add_pos_left SizedScalar.size_pos _
  length_encode pair := by
    change (Scalar.encode pair.1 ++ Scalar.encode pair.2).length = Scalar.size α + Scalar.size α
    rw [List.length_append, SizedScalar.length_encode, SizedScalar.length_encode]

end

/-- Pairs of words, which are aligned to half of their size, beyond an allocator's odd start. -/
theorem GuestMemory.lower_of_any_allocator_of_pairs :
    let arena : Arena := { memory := .zeros 64, next := 17 }
    let pairs : List (Word × Word) := [(1, 2), (3, 4)]
    Scalar.align (Word × Word) = 4 ∧ Scalar.size (Word × Word) = 8 ∧
      SizedScalar (Word × Word) ∧ Scalar.size (Word × Word) < UInt32.size ∧
      Arena.guestMemory.LowersInto (.list pairs) (·.lowerList pairs) arena ∧
      ((Arena.guestMemory.lowerList pairs).on arena).1.toOption = some (20, 2) := by
  intro arena pairs
  obtain ⟨-, -, lists⟩ := lower_of_any_allocator Arena.guestMemory arena
  have short : Scalar.size (Word × Word) < UInt32.size := by decide
  exact ⟨rfl, rfl, inferInstance, short, lists short pairs, by decide +kernel⟩

end GuestBoundary
