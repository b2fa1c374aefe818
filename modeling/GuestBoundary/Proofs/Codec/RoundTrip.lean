import GuestBoundary.Proofs.Codec.Sequence
import GuestBoundary.Proofs.Utf8
import Mathlib.Data.List.Forall2

/-!
# Lifting what was lowered

An allocator is faithful if the rooms it grants lie inside the memory, apart from each other, and
stay there with what was written into them. Besides that it may do anything: grow the memory, move
it, and change whatever lies in no room. Under a faithful allocator everything that was lowered
lifts back, however much is lowered afterwards.

What is kept from one step to the next is that the image of each value stands in its room.
-/

namespace GuestBoundary

/-! ## Values that stand in memory -/

namespace Lowerable

/-- The addresses that a value takes. -/
def room (place : Word × Word) (value : Lowerable) : Range :=
  ⟨place.1.toNat, place.1.toNat + value.size⟩

/-- The image of a value stands at a place, and the number beside it is that of the value. -/
structure Stored (memory : Bytes) (place : Word × Word) (value : Lowerable) : Prop where
  small : value.size ≤ Word.maxLength
  number : place.2 = UInt32.ofNat value.count
  fits : place.1.toNat + value.size ≤ memory.size
  image : ∀ (index : Nat) (inside : index < value.image.length),
    memory.byte (place.1.toNat + index) = value.image[index]

namespace Stored

variable {memory : Bytes} {place : Word × Word}

theorem slice {value : Lowerable} (stored : value.Stored memory place) :
    memory.slice place.1 (UInt64.ofNat value.size) = .ok value.image := by
  have short : (UInt64.ofNat value.size).toNat < UInt32.size := by
    rw [Word.toNat_uint64OfNat stored.small]
    exact Word.lt_size_of_le_maxLength stored.small
  rw [Bytes.slice_of_lt _ _ short, Word.toNat_uint64OfNat stored.small, if_pos stored.fits]
  apply congrArg Except.ok
  apply List.ext_getElem
  · rw [List.length_map, List.length_range', length_image]
  · intro index _ inside
    rw [List.getElem_map, List.getElem_range', Nat.one_mul]
    exact stored.image index inside

/-- The elements of a list are read back one by one, each from its own bytes. -/
theorem elements {type : NumberType} {items : List type.Value}
    (stored : (list type items).Stored memory place) :
    ((List.range items.length).map fun index => (Scalar.decode fun distance =>
      memory.byte (place.1.toNat + index * Scalar.size type.Value + distance) : type.Value)) =
      items := by
  apply List.ext_getElem
  · rw [List.length_map, List.length_range]
  · intro index _ inside
    rw [List.getElem_map, List.getElem_range]
    apply Scalar.decode_eq_of_encode
    intro distance near
    have far : index * Scalar.size type.Value + distance < (list type items).image.length := by
      rw [length_image]
      calc index * Scalar.size type.Value + distance
          < index * Scalar.size type.Value + Scalar.size type.Value :=
            Nat.add_lt_add_left near _
        _ = (index + 1) * Scalar.size type.Value := (Nat.succ_mul _ _).symm
        _ ≤ items.length * Scalar.size type.Value := Nat.mul_le_mul_right _ inside
    have found : items[index]? = some items[index] := List.getElem?_eq_getElem inside
    rw [← Scalar.getElem?_flatMap_encode items _ found near, Nat.add_assoc,
      stored.image _ far]
    exact List.getElem?_eq_getElem far

/-- What stands at a place lifts from it. -/
theorem lifts {value : Lowerable} (stored : value.Stored memory place) :
    value.LiftsFrom memory place := by
  have countable : value.count ≤ Word.maxLength := Nat.le_trans value.count_le_size stored.small
  have number : place.2.toUInt64 = UInt64.ofNat value.count := by
    rw [stored.number, Word.toUInt64_ofNat countable]
  cases value with
  | text value =>
      have read : memory.slice place.1 place.2.toUInt64 = .ok (Utf8.encode value.toList) := by
        rw [number]
        exact stored.slice
      rw [LiftsFrom, liftText, read]
      dsimp only [bind, Except.bind]
      rw [Utf8.decode_encode]
      exact congrArg Except.ok String.ofList_toList
  | bytes data => exact (congrArg (memory.slice place.1) number).trans stored.slice
  | list type items =>
      change items.length ≤ Word.maxLength at countable
      have small : items.length * Scalar.size type.Value ≤ Word.maxLength := stored.small
      have fits : place.1.toNat + items.length * Scalar.size type.Value ≤ memory.size := stored.fits
      have few : place.2.toNat = items.length := by
        rw [stored.number]
        exact UInt32.toNat_ofNat_of_lt' (Word.lt_size_of_le_maxLength countable)
      rw [LiftsFrom, liftList_of_le _ _ (few.symm ▸ small), few, if_pos fits]
      exact congrArg Except.ok stored.elements

/-- A value still stands where nothing changed its room. -/
theorem of_same {value : Lowerable} {other : Bytes} (stored : value.Stored memory place)
    (fits : (value.room place).stop ≤ other.size)
    (same : ∀ index, (value.room place).start ≤ index → index < (value.room place).stop →
      other.byte index = memory.byte index) :
    value.Stored other place where
  small := stored.small
  number := stored.number
  fits := fits
  image index inside := by
    have near : index < value.size := value.length_image ▸ inside
    exact (same _ (Nat.le_add_right _ _) (Nat.add_lt_add_left near _)).trans
      (stored.image index inside)

end Stored

end Lowerable

/-! ## Faithful allocators -/

namespace GuestMemory

variable {σ : Type} (guest : GuestMemory σ) (origin : σ)

/-- The rooms granted so far, newest first, and the state after it, when the host has only asked for
rooms and written into those it was granted. -/
inductive Granted : List Range → σ → Prop where
  | none : Granted [] origin
  | grant {rooms : List Range} {state after : σ} {address : Word} (align length : Word)
      (granted : Granted rooms state)
      (answered : (guest.realloc 0 0 align length).on state = (.ok address, after)) :
      Granted (⟨address.toNat, address.toNat + length.toNat⟩ :: rooms) after
  | write {rooms : List Range} {state : σ} {room : Range} (memory : Bytes)
      (granted : Granted rooms state) (mem : room ∈ rooms)
      (size_eq : memory.size = (guest.bytes state).size)
      (same : ∀ index, index < room.start ∨ room.stop ≤ index →
        memory.byte index = (guest.bytes state).byte index) :
      Granted rooms (guest.setBytes memory state)

/-- All rooms lie inside the memory `after`, and hold what they held in the memory `before`. -/
def Keeps (rooms : List Range) (before after : Bytes) : Prop :=
  ∀ room ∈ rooms, room.stop ≤ after.size ∧
    ∀ index, room.start ≤ index → index < room.stop → after.byte index = before.byte index

/-- Each room that is granted lies inside the memory and apart from the earlier ones, which keep
their bytes. -/
structure Faithful : Prop where
  inside {rooms : List Range} {state after : σ} {address align length : Word}
    (granted : guest.Granted origin rooms state)
    (answered : (guest.realloc 0 0 align length).on state = (.ok address, after)) :
    address.toNat + length.toNat ≤ (guest.bytes after).size
  apart {rooms : List Range} {state after : σ} {address align length : Word}
    (granted : guest.Granted origin rooms state)
    (answered : (guest.realloc 0 0 align length).on state = (.ok address, after)) :
    ∀ room ∈ rooms, ∀ index, room.start ≤ index → index < room.stop →
      index < address.toNat ∨ address.toNat + length.toNat ≤ index
  keeps {rooms : List Range} {state after : σ} {address align length : Word}
    (granted : guest.Granted origin rooms state)
    (answered : (guest.realloc 0 0 align length).on state = (.ok address, after)) :
    Keeps rooms (guest.bytes state) (guest.bytes after)

namespace Keeps

variable {rooms : List Range} {before middle after : Bytes}

theorem refl (inside : ∀ room ∈ rooms, room.stop ≤ before.size) : Keeps rooms before before :=
  fun room mem => ⟨inside room mem, fun _ _ _ => rfl⟩

theorem trans (first : Keeps rooms before middle) (second : Keeps rooms middle after) :
    Keeps rooms before after := fun room mem =>
  ⟨(second room mem).1, fun index from_start to_stop =>
    ((second room mem).2 index from_start to_stop).trans
      ((first room mem).2 index from_start to_stop)⟩

theorem tail {room : Range} (keeps : Keeps (room :: rooms) before after) :
    Keeps rooms before after := fun other mem =>
  keeps other (List.mem_cons_of_mem room mem)

end Keeps

variable {guest origin}

/-- A value that was lowered stands in a new room, and every earlier room is as it was. -/
theorem Faithful.lower (faithful : guest.Faithful origin) {rooms : List Range} {state after : σ}
    (granted : guest.Granted origin rooms state) {value : Lowerable} {place : Word × Word}
    (lowered : (guest.lower value).on state = (.ok place, after)) :
    guest.Granted origin (value.room place :: rooms) after ∧
      Keeps rooms (guest.bytes state) (guest.bytes after) ∧
        value.Stored (guest.bytes after) place := by
  rw [on_lower] at lowered
  cases overflows : value.parcel.overflow? with
  | some length => exact nomatch overflows ▸ lowered
  | none =>
      rw [overflows] at lowered
      dsimp only at lowered
      have small : value.size ≤ Word.maxLength := value.parcel.overflow?_eq_none_iff.mp overflows
      have length : (UInt32.ofNat value.size).toNat = value.size :=
        UInt32.toNat_ofNat_of_lt' (Word.lt_size_of_le_maxLength small)
      rcases answered : (guest.realloc 0 0 value.align (UInt32.ofNat value.size)).on state with
        ⟨fault | address, middle⟩
      case error => exact nomatch answered ▸ lowered
      case ok =>
        have fits := faithful.inside granted answered
        have apart := faithful.apart granted answered
        have keeps := faithful.keeps granted answered
        have room := Granted.grant value.align (UInt32.ofNat value.size) granted answered
        rw [length] at fits apart room
        rw [answered] at lowered
        dsimp only [deposit, Lowerable.parcel] at lowered
        rw [if_pos fits] at lowered
        obtain ⟨rfl, rfl⟩ : (address, UInt32.ofNat value.count) = place ∧
            guest.setBytes ((guest.bytes middle).write address.toNat value.image) middle = after :=
          by simpa using lowered
        rw [guest.bytes_setBytes]
        refine ⟨?_, ?_, ?_⟩
        · apply Granted.write _ room List.mem_cons_self (Bytes.size_write _ _ _)
          intro index outside
          exact Bytes.byte_write_outside _ _ _ (value.length_image ▸ outside)
        · apply Keeps.trans keeps
          intro earlier mem
          refine ⟨le_of_le_of_eq (keeps earlier mem).1 (Bytes.size_write _ _ _).symm, ?_⟩
          intro index from_start to_stop
          exact Bytes.byte_write_outside _ _ _
            (value.length_image ▸ apart earlier mem index from_start to_stop)
        · refine ⟨small, rfl, le_of_le_of_eq fits (Bytes.size_write _ _ _).symm, ?_⟩
          intro index inside
          exact Bytes.byte_write_inside _ (value.length_image ▸ fits) inside

/-- Everything that was lowered stands in its room after the last step. -/
theorem Faithful.lowerAll (faithful : guest.Faithful origin) {rooms : List Range}
    {state final : σ} (granted : guest.Granted origin rooms state)
    (inside : ∀ room ∈ rooms, room.stop ≤ (guest.bytes state).size) {values : List Lowerable}
    {places : List (Word × Word)}
    (lowered : (guest.lowerAll values).on state = (.ok places, final)) :
    Keeps rooms (guest.bytes state) (guest.bytes final) ∧
      List.Forall₂ (fun value place => value.Stored (guest.bytes final) place) values places := by
  induction values generalizing rooms state places with
  | nil =>
      obtain ⟨rfl, rfl⟩ : [] = places ∧ state = final := by
        simpa [GuestMemory.lowerAll] using lowered
      exact ⟨Keeps.refl inside, .nil⟩
  | cons value values inductionHypothesis =>
      rw [GuestMemory.lowerAll, Work.on_bind] at lowered
      rcases first : (guest.lower value).on state with ⟨fault | place, middle⟩
      case error => exact nomatch first ▸ lowered
      case ok =>
        rw [first] at lowered
        dsimp only at lowered
        rw [Work.on_bind] at lowered
        rcases rest : (guest.lowerAll values).on middle with ⟨fault | others, last⟩
        case error => exact nomatch rest ▸ lowered
        case ok =>
          obtain ⟨rfl, rfl⟩ : place :: others = places ∧ last = final := by
            simpa [rest] using lowered
          obtain ⟨room, kept, stored⟩ := faithful.lower granted first
          have held : ∀ other ∈ value.room place :: rooms,
              other.stop ≤ (guest.bytes middle).size := by
            rw [List.forall_mem_cons]
            exact ⟨stored.fits, fun other mem => (kept other mem).1⟩
          obtain ⟨keeps, all⟩ := inductionHypothesis room held rest
          have own := keeps _ List.mem_cons_self
          exact ⟨kept.trans keeps.tail, .cons (stored.of_same own.1 own.2) all⟩

/-! ## An allocator in a fixed memory -/

/-- A memory that hands out its next aligned room, and fails when there is none left. -/
def fixed : GuestMemory (Bytes × Nat) where
  bytes := Prod.fst
  setBytes memory state := (memory, state.2)
  realloc _ _ align length := do
    let (memory, next) ← get
    let address := Arena.roundUp next (max 1 align.toNat)
    if address + length.toNat ≤ memory.size then
      set (memory, address + length.toNat)
      return UInt32.ofNat address
    else throw (.failure "out of memory")
  free _ _ _ := return ()

theorem le_roundUp (address align : Nat) (positive : 0 < align) :
    address ≤ Arena.roundUp address align := by
  have parts := Nat.div_add_mod (address + align - 1) align
  have rest := Nat.mod_lt (address + align - 1) positive
  rw [Arena.roundUp, Nat.mul_comm]
  omega

/-- The room that a fixed memory hands out lies after all that it handed out before. -/
theorem fixed_realloc {state after : Bytes × Nat} {address align length : Word}
    (addressable : state.1.size < UInt32.size)
    (answered : (fixed.realloc 0 0 align length).on state = (.ok address, after)) :
    state.2 ≤ address.toNat ∧ address.toNat + length.toNat ≤ state.1.size ∧
      after = (state.1, address.toNat + length.toNat) := by
  have beyond := le_roundUp state.2 (max 1 align.toNat) (by omega)
  simp only [fixed, Work.on_get_bind] at answered
  split at answered
  next fits =>
    obtain ⟨rfl, rfl⟩ : UInt32.ofNat (Arena.roundUp state.2 (max 1 align.toNat)) = address ∧
        (state.1, Arena.roundUp state.2 (max 1 align.toNat) + length.toNat) = after := by
      simpa only [Work.on_bind, Work.on_set, Work.on_pure, Prod.mk.injEq, Except.ok.injEq]
        using answered
    rw [UInt32.toNat_ofNat_of_lt' (by omega)]
    exact ⟨beyond, fits, rfl⟩
  next => exact nomatch answered

/-- A fixed memory keeps its size, and all rooms lie below what it hands out next. -/
theorem Granted.of_fixed {origin state : Bytes × Nat} {rooms : List Range}
    (addressable : origin.1.size < UInt32.size) (granted : fixed.Granted origin rooms state) :
    state.1.size = origin.1.size ∧
      ∀ room ∈ rooms, room.stop ≤ state.2 ∧ room.stop ≤ origin.1.size := by
  induction granted with
  | none => exact ⟨rfl, fun _ mem => nomatch mem⟩
  | grant align length granted answered inductionHypothesis =>
      obtain ⟨size_eq, below⟩ := inductionHypothesis
      obtain ⟨beyond, fits, rfl⟩ := fixed_realloc (size_eq ▸ addressable) answered
      refine ⟨size_eq, List.forall_mem_cons.mpr ⟨⟨Nat.le_refl _, size_eq ▸ fits⟩, ?_⟩⟩
      intro room mem
      have earlier := below room mem
      exact ⟨by dsimp only; omega, earlier.2⟩
  | write memory granted mem same_size same inductionHypothesis =>
      exact ⟨same_size.trans inductionHypothesis.1, inductionHypothesis.2⟩

theorem fixed_faithful {origin : Bytes × Nat} (addressable : origin.1.size < UInt32.size) :
    fixed.Faithful origin where
  inside granted answered := by
    have size_eq := (granted.of_fixed addressable).1
    obtain ⟨-, fits, rfl⟩ := fixed_realloc (size_eq ▸ addressable) answered
    exact fits
  apart granted answered room mem index from_start to_stop := by
    obtain ⟨size_eq, below⟩ := granted.of_fixed addressable
    have beyond := (fixed_realloc (size_eq ▸ addressable) answered).1
    have earlier := (below room mem).1
    omega
  keeps granted answered := by
    obtain ⟨size_eq, below⟩ := granted.of_fixed addressable
    obtain ⟨-, -, rfl⟩ := fixed_realloc (size_eq ▸ addressable) answered
    exact Keeps.refl fun room mem => size_eq ▸ (below room mem).2

/-! ## The round trip -/

/-- Whatever was lowered without a failure lifts back after the last step, each value from the place
that was handed out for it. -/
theorem lowerAll_lifts (guest : GuestMemory σ) (origin : σ) (faithful : guest.Faithful origin)
    (values : List Lowerable) (places : List (Word × Word)) (final : σ)
    (lowered : (guest.lowerAll values).on origin = (.ok places, final)) :
    List.Forall₂ (fun value place => value.LiftsFrom (guest.bytes final) place) values places :=
  (faithful.lowerAll .none (fun _ mem => nomatch mem) lowered).2.imp fun _ _ stored => stored.lifts

theorem lowerAll_lifts_of_fixed :
    let values : List Lowerable :=
      [.text "né€𝄞", .list .i16 [(-2 : Int16), (300 : Int16)], .bytes [],
        .list .f32 [⟨0x7FA00001⟩, ⟨0x80000000⟩], .bytes [255, 0], .list .u64 []]
    let places : List (Word × Word) := [(3, 10), (14, 2), (18, 0), (20, 2), (28, 2), (32, 0)]
    let lowered := (fixed.lowerAll values).on (Bytes.zeros 32, 3)
    (Bytes.zeros 32).size < UInt32.size ∧ lowered.1 = .ok places ∧
      List.Forall₂ (fun value place => value.LiftsFrom (fixed.bytes lowered.2) place)
        values places := by
  intro values places lowered
  have addressable : (Bytes.zeros 32).size < UInt32.size := by decide
  have ended : lowered.1 = .ok places := by decide +kernel
  have ending : lowered = (.ok places, lowered.2) := by rw [← ended]
  exact ⟨addressable, ended,
    lowerAll_lifts fixed _ (fixed_faithful addressable) values places lowered.2 ending⟩

end GuestMemory

end GuestBoundary
