import Mathlib.Logic.Function.Basic
import GuestBoundary.Event.Session
import GuestBoundary.Proofs.Codec.RoundTrip
import GuestBoundary.Proofs.Memory.Words
import GuestBoundary.Proofs.Resource.Lending

/-!
# Guests that keep records

A guest keeps records if it remembers, for each field of each event, the address and the length
that its setter was given last, and hands out a copy of what is there. What it owes the host is
stated call by call. Rooms that it has handed out belong to the host, which may write into them;
whatever the guest needs for itself, its records among it, lies in no room. No memory lasts for
ever, so the guest only owes the rooms of a plan: their lengths, in the order in which they are
going to be asked for.

What is kept from one call to the next is that the value set last stands where the guest has
recorded it.
-/

namespace GuestBoundary

/-- No address is in both ranges. -/
def Range.Apart (range other : Range) : Prop :=
  range.stop ≤ other.start ∨ other.stop ≤ range.start

/-- What is written apart from all rooms changes none of them. -/
theorem GuestMemory.Keeps.write {rooms : List Range} {before memory : Bytes}
    (keeps : GuestMemory.Keeps rooms before memory) {start : Nat} {data : List UInt8}
    (apart : ∀ room ∈ rooms, room.Apart ⟨start, start + data.length⟩) :
    GuestMemory.Keeps rooms before (memory.write start data) := by
  intro room mem
  refine ⟨le_of_le_of_eq (keeps room mem).1 (Bytes.size_write _ _ _).symm, ?_⟩
  intro index fromStart toStop
  rw [← (keeps room mem).2 index fromStart toStop]
  apply Bytes.byte_write_outside
  rcases apart room mem with before | after
  · exact .inl (Nat.lt_of_lt_of_le toStop before)
  · exact .inr (Nat.le_trans after fromStart)

theorem Lowerable.stored_write (value : Lowerable) (small : value.size ≤ Word.maxLength)
    {memory : Bytes} {address : Word} (fits : address.toNat + value.size ≤ memory.size) :
    value.Stored (memory.write address.toNat value.image) (address, UInt32.ofNat value.count) where
  small := small
  number := rfl
  fits := le_of_le_of_eq fits (Bytes.size_write _ _ _).symm
  image _ inside := Bytes.byte_write_inside _ (value.length_image ▸ fits) inside

namespace Event

/-! ### Fields and their values -/

/-- What can be set and read of an event: an attribute, or its data. -/
inductive Field where
  | text (name : Attribute)
  | data
deriving DecidableEq

namespace Field

def Value : Field → Type
  | text _ => String
  | data => List UInt8

def empty : (field : Field) → field.Value
  | text _ => ""
  | data => []

/-- What is lowered for a value of the field. -/
def lowerable : (field : Field) → field.Value → Lowerable
  | text _, value => .text value
  | data, value => .bytes value

def lift : (field : Field) → Bytes → Word → Word → Except Fault field.Value
  | text _ => liftText
  | data => liftBytes

/-- How many bytes a value takes. -/
def size (field : Field) (value : field.Value) : Nat := (field.lowerable value).size

variable (field : Field) (value : field.Value)

theorem size_empty : field.size field.empty = 0 := by cases field <;> rfl

theorem count_lowerable : (field.lowerable value).count = field.size value := by
  cases field <;> rfl

theorem align_lowerable : (field.lowerable value).align = 1 := by cases field <;> rfl

theorem lift_of_stored {memory : Bytes} {place : Word × Word}
    (stored : (field.lowerable value).Stored memory place) :
    field.lift memory place.1 place.2 = .ok value := by
  cases field <;> exact stored.lifts

end Field

def Contract.fieldAccessors (contract : Contract) : Field → Accessors
  | .text name => contract.accessorsOf name
  | .data => contract.data

namespace Session

variable (session : Session) (event : EventReference)

/-- Setting an attribute and setting the data are one operation. -/
def setField (field : Field) (value : field.Value) : Attempt EventStore Unit := do
  let place ← session.guestMemory.lower (field.lowerable value)
  session.callSetter (session.contract.fieldAccessors field).setter event place

def getField (field : Field) : Attempt EventStore field.Value :=
  session.callGetter (session.contract.fieldAccessors field).getter event field.lift

theorem setField_text (name : Attribute) (value : (Field.text name).Value) :
    session.setField event (.text name) value = session.set event name value := rfl

theorem setField_data (data : Field.data.Value) :
    session.setField event .data data = session.setData event data := rfl

theorem getField_text (name : Attribute) :
    session.getField event (.text name) = session.get event name := rfl

theorem getField_data : session.getField event .data = session.getData event := rfl

variable {session event} {α : Type} {store answered after : EventStore}

theorem on_callSetter {setter : FunctionId} {place : Word × Word} {answer : Word}
    (called : (session.running.call setter
      [UInt32.ofNat (store.nextSlot event), place.1, place.2]).on
        ((store.count event).place event) = (.ok answer, after)) :
    (session.callSetter setter event place).on store = (.ok (), after) := by
  rw [callSetter, Work.on_bind, Store.on_lower]
  dsimp only
  rw [Work.on_discard, called]
  rfl

/-- What a getter answered is read in the memory that it left, before it is freed. -/
theorem on_callGetter {getter : FunctionId} {lift : Bytes → Word → Word → Except Fault α}
    {area address length answer : Word} {value : α}
    (called : (session.running.call getter [UInt32.ofNat (store.nextSlot event)]).on
      ((store.count event).place event) = (.ok area, answered))
    (first : answered.memory.word? area = some address)
    (second : answered.memory.word? (area + 8) = some length)
    (lifted : lift answered.memory address length = .ok value)
    (freed : (session.running.call session.contract.free [address, length, 1]).on answered =
      (.ok answer, after)) :
    (session.callGetter getter event lift).on store = (.ok value, after) := by
  have examined {β : Type} (view : Bytes → Except Fault β) :
      (session.guestMemory.examine view).on answered = (view answered.memory, answered) :=
    Attempt.on_examine _ _
  have loaded {offset word : Word} (there : answered.memory.word? (area + offset) = some word) :
      (answered.memory.load area offset : Except Fault Word) = .ok word := by
    rw [Bytes.load_word, there]
  have given : (session.guestMemory.free address length 1).on answered = (.ok (), after) := by
    change (discard (session.running.call session.contract.free [address, length, 1])).on _ = _
    rw [Work.on_discard, freed]
    rfl
  have origin : answered.memory.word? (area + 0) = some address := by rw [UInt32.add_zero, first]
  rw [callGetter, Work.on_bind, Store.on_lower]
  dsimp only
  rw [Work.on_bind, called]
  dsimp only
  rw [Work.on_bind, examined, loaded origin]
  dsimp only
  rw [Work.on_bind, examined, returnAreaOffset, loaded second]
  dsimp only
  rw [Work.on_bind, examined, lifted]
  dsimp only
  rw [Work.on_bind, given]
  rfl

end Session

/-- The values that the fields of all events should have. -/
abbrev Shelf := Nat → (field : Field) → field.Value

namespace Shelf

def empty : Shelf := fun _ field => field.empty

/-- The shelf with another value for a field of the event with an identity. -/
def put (identity : Nat) (field : Field) (value : field.Value) (shelf : Shelf) : Shelf :=
  Function.update shelf identity (Function.update (shelf identity) field value)

theorem put_self (shelf : Shelf) (identity : Nat) (field : Field) (value : field.Value) :
    shelf.put identity field value identity field = value := by
  rw [put, Function.update_self, Function.update_self]

theorem put_of_ne (shelf : Shelf) {identity other : Nat} {field otherField : Field}
    (value : field.Value) (different : ¬ (other = identity ∧ otherField = field)) :
    shelf.put identity field value other otherField = shelf other otherField := by
  unfold put
  by_cases here : other = identity
  · subst here
    rw [Function.update_self, Function.update_of_ne fun same => different ⟨rfl, same⟩]
  · rw [Function.update_of_ne here]

end Shelf

/-! ### What the guest owes -/

/-- What is owed: the rooms handed out, and what was recorded last. -/
structure Ledger where
  rooms : List Range := []
  /-- The address and the length recorded for a field of the event with an identity. -/
  recorded : Nat → Field → Option (Word × Word) := fun _ _ => none

namespace Ledger

def grant (room : Range) (ledger : Ledger) : Ledger := { ledger with rooms := room :: ledger.rooms }

def record (identity : Nat) (field : Field) (place : Word × Word) (ledger : Ledger) : Ledger :=
  { ledger with recorded := fun other otherField =>
      if other = identity ∧ otherField = field then some place
      else ledger.recorded other otherField }

/-- Where the bytes of a field are; there are none where nothing was recorded. -/
def place (ledger : Ledger) (identity : Nat) (field : Field) : Word × Word :=
  (ledger.recorded identity field).getD (0, 0)

@[simp]
theorem rooms_record (ledger : Ledger) (identity : Nat) (field : Field) (place : Word × Word) :
    (ledger.record identity field place).rooms = ledger.rooms := rfl

theorem record_self (ledger : Ledger) (identity : Nat) (field : Field) (place : Word × Word) :
    (ledger.record identity field place).recorded identity field = some place :=
  if_pos ⟨rfl, rfl⟩

theorem record_of_ne (ledger : Ledger) {identity other : Nat} {field otherField : Field}
    (place : Word × Word) (different : ¬ (other = identity ∧ otherField = field)) :
    (ledger.record identity field place).recorded other otherField =
      ledger.recorded other otherField := if_neg different

end Ledger

/-- The guest finds the same in another store: outside of the rooms the same memory, the same
globals, and the same representations. -/
structure Undisturbed (rooms : List Range) (store other : EventStore) : Prop where
  size : other.memory.size = store.memory.size
  bytes : ∀ index, (∀ room ∈ rooms, index < room.start ∨ room.stop ≤ index) →
    other.memory.byte index = store.memory.byte index
  globals : other.globals = store.globals
  memoryLimit : other.memoryLimit = store.memoryLimit
  wraps : ∀ reference, other.Wraps reference ↔ store.Wraps reference
  representations : ∀ reference,
    (other.resource reference).representation = (store.resource reference).representation

/-- A new room lies inside the memory and apart from the earlier ones, which keep their bytes. -/
structure Opens (rooms : List Range) (before : Bytes) (room : Range) (after : Bytes) : Prop where
  inside : room.stop ≤ after.size
  apart : ∀ other ∈ rooms, other.Apart room
  keeps : GuestMemory.Keeps rooms before after

/-- What a guest that keeps records owes its host. -/
structure RecordKeeping (session : Session) where
  /-- The guest is in order: with the rooms still to be asked for, it can go on by the ledger. -/
  Keeps : (plan : List Nat) → Ledger → EventStore → Prop
  /-- The host may write into rooms, and park handles. -/
  rely {plan : List Nat} {ledger : Ledger} {store other : EventStore}
    (keeps : Keeps plan ledger store) (undisturbed : Undisturbed ledger.rooms store other) :
    Keeps plan ledger other
  /-- Room is handed out apart from all earlier rooms. -/
  realloc {length : Nat} {plan : List Nat} {ledger : Ledger} {store : EventStore}
    (keeps : Keeps (length :: plan) ledger store) (small : length ≤ Word.maxLength) :
    ∃ (address : Word) (after : EventStore),
      (session.running.call session.contract.realloc [0, 0, 1, UInt32.ofNat length]).on store =
          (.ok address, after) ∧
        Opens ledger.rooms store.memory ⟨address.toNat, address.toNat + length⟩ after.memory ∧
          after.registries = store.registries ∧
            Keeps plan (ledger.grant ⟨address.toNat, address.toNat + length⟩) after
  /-- A setter records what it is given and drops its handle. -/
  setter {plan : List Nat} {ledger : Ledger} {store : EventStore} {event : EventReference}
    {handle : Word} (field : Field) (place : Word × Word) (keeps : Keeps plan ledger store)
    (lent : store.Lent event handle) :
    ∃ (value : Word) (after : EventStore),
      (session.running.call (session.contract.fieldAccessors field).setter
          [handle, place.1, place.2]).on store = (.ok value, after) ∧
        GuestMemory.Keeps ledger.rooms store.memory after.memory ∧
          after.registries = (store.dropped event handle).registries ∧
            Keeps plan (ledger.record event.identity field place) after
  /-- A getter copies what was recorded to a new room, drops its handle, and answers with the
  address of two words: the address of the copy and its length. -/
  getter {plan : List Nat} {ledger : Ledger} {store : EventStore} {event : EventReference}
    {handle : Word} {field : Field} {place : Word × Word}
    (recorded : ledger.place event.identity field = place)
    (keeps : Keeps (place.2.toNat :: plan) ledger store) (lent : store.Lent event handle)
    (inside : place.1.toNat + place.2.toNat ≤ store.memory.size) :
    ∃ (area copy : Word) (after : EventStore),
      (session.running.call (session.contract.fieldAccessors field).getter [handle]).on store =
          (.ok area, after) ∧
        after.memory.word? area = some copy ∧ after.memory.word? (area + 8) = some place.2 ∧
          Opens ledger.rooms store.memory ⟨copy.toNat, copy.toNat + place.2.toNat⟩ after.memory ∧
            (∀ index, index < place.2.toNat →
              after.memory.byte (copy.toNat + index) =
                store.memory.byte (place.1.toNat + index)) ∧
              after.registries = (store.dropped event handle).registries ∧
                Keeps plan (ledger.grant ⟨copy.toNat, copy.toNat + place.2.toNat⟩) after
  /-- Freeing a room changes nothing that is owed. -/
  free {plan : List Nat} {ledger : Ledger} {store : EventStore} (address length : Word)
    (keeps : Keeps plan ledger store) :
    ∃ (value : Word) (after : EventStore),
      (session.running.call session.contract.free [address, length, 1]).on store =
          (.ok value, after) ∧
        GuestMemory.Keeps ledger.rooms store.memory after.memory ∧
          after.registries = store.registries ∧ Keeps plan ledger after

/-! ### Values on record -/

/-- Where a value is on record, it stands in a room; where nothing is, there are no bytes. -/
inductive Lodged (rooms : List Range) (memory : Bytes) (value : Lowerable) :
    Option (Word × Word) → Prop where
  | unset (empty : value.size = 0) : Lodged rooms memory value none
  | set {place : Word × Word} (stored : value.Stored memory place)
      (room : value.room place ∈ rooms) : Lodged rooms memory value (some place)

namespace Lodged

variable {rooms : List Range} {memory other : Bytes} {value : Lowerable}
  {recorded : Option (Word × Word)}

theorem stored (lodged : Lodged rooms memory value recorded) :
    value.Stored memory (recorded.getD (0, 0)) := by
  cases lodged with
  | set stored => exact stored
  | unset empty =>
      have nothing : value.image.length = 0 := value.length_image.trans empty
      have none : value.count = 0 := Nat.le_zero.mp (empty ▸ value.count_le_size)
      exact {
        small := empty ▸ Nat.zero_le _
        number := by rw [none]; rfl
        fits := by rw [empty]; exact Nat.zero_le _
        image := fun index inside => absurd inside (by omega) }

theorem keep (lodged : Lodged rooms memory value recorded)
    (keeps : GuestMemory.Keeps rooms memory other) : Lodged rooms other value recorded := by
  cases lodged with
  | unset empty => exact .unset empty
  | set stored room =>
      have kept := keeps _ room
      exact .set (stored.of_same kept.1 kept.2) room

theorem grant (lodged : Lodged rooms memory value recorded) (room : Range) :
    Lodged (room :: rooms) memory value recorded := by
  cases lodged with
  | unset empty => exact .unset empty
  | set stored mem => exact .set stored (List.mem_cons_of_mem room mem)

end Lodged

namespace RecordKeeping

variable {session : Session} (keeping : RecordKeeping session)

/-- The guest is in order, and has every value of the shelf on record. -/
structure Holds (plan : List Nat) (shelf : Shelf) (ledger : Ledger) (store : EventStore) :
    Prop where
  keeps : keeping.Keeps plan ledger store
  lodged : ∀ identity field, Lodged ledger.rooms store.memory
    (field.lowerable (shelf identity field)) (ledger.recorded identity field)

variable {keeping} {plan : List Nat} {shelf : Shelf} {ledger : Ledger} {store : EventStore}
  {event : EventReference} {field : Field}

/-- Lending a reference leaves the guest in order. -/
theorem keeps_place_count (keeps : keeping.Keeps plan ledger store) (event : EventReference) :
    keeping.Keeps plan ledger ((store.count event).place event) := by
  have parks := store.parks_place_count event
  refine keeping.rely keeps ⟨rfl, fun _ _ => rfl, rfl, rfl, parks.wraps_iff, fun reference => ?_⟩
  rw [parks.counted]
  split <;> rfl

/-- Room for a value is granted and filled, and nothing else that counts has changed. -/
theorem Holds.lower {value : field.Value}
    (holds : keeping.Holds (field.size value :: plan) shelf ledger store)
    (small : field.size value ≤ Word.maxLength) :
    ∃ (place : Word × Word) (after : EventStore),
      (session.guestMemory.lower (field.lowerable value)).on store = (.ok place, after) ∧
        keeping.Holds plan shelf (ledger.grant ((field.lowerable value).room place)) after ∧
          (field.lowerable value).Stored after.memory place ∧
            after.registries = store.registries := by
  obtain ⟨address, granted, answered, opens, same, keeps⟩ := keeping.realloc holds.keeps small
  let lowered := field.lowerable value
  have length : lowered.image.length = field.size value := lowered.length_image
  let room : Range := ⟨address.toNat, address.toNat + field.size value⟩
  let after : EventStore :=
    { granted with memory := granted.memory.write address.toNat lowered.image }
  have undisturbed : Undisturbed (ledger.grant room).rooms granted after := {
    size := Bytes.size_write _ _ _
    bytes := fun _ outside => Bytes.byte_write_outside _ _ _
      (length ▸ outside room List.mem_cons_self)
    globals := rfl
    memoryLimit := rfl
    wraps := fun _ => Iff.rfl
    representations := fun _ => rfl }
  refine ⟨(address, UInt32.ofNat lowered.count), after, ?_,
    ⟨keeping.rely keeps undisturbed, fun identity other => ?_⟩,
      lowered.stored_write small opens.inside, same⟩
  · have asked : (session.guestMemory.realloc 0 0 lowered.align
        (UInt32.ofNat lowered.size)).on store = (.ok address, granted) := by
      rw [field.align_lowerable]
      exact answered
    rw [GuestMemory.on_lower, lowered.parcel.overflow?_eq_none_iff.mpr small, asked]
    exact if_pos opens.inside
  · have kept : GuestMemory.Keeps ledger.rooms store.memory after.memory :=
      opens.keeps.write (length.symm ▸ opens.apart)
    exact ((holds.lodged identity other).keep kept).grant _

/-- A value that is set is on record when the call returns. -/
theorem Holds.set {value : field.Value}
    (holds : keeping.Holds (field.size value :: plan) shelf ledger store)
    (small : field.size value ≤ Word.maxLength) (lendable : store.Lendable event) :
    ∃ (laterLedger : Ledger) (after : EventStore),
      (session.setField event field value).on store = (.ok (), after) ∧
        keeping.Holds plan (shelf.put event.identity field value) laterLedger after ∧
          store.Settled after := by
  obtain ⟨place, filled, lowered, held, stored, same⟩ := holds.lower small
  have unchanged := Store.Settled.of_registries same
  have ready := lendable.settled unchanged
  have parked := keeps_place_count held.keeps event
  obtain ⟨answer, after, called, kept, dropped, keeps⟩ :=
    keeping.setter field place parked ready.lent
  refine ⟨_, after, ?_, ⟨keeps, ?_⟩, unchanged.trans (Store.settled_of_dropped ready dropped)⟩
  · rw [Session.setField, Work.on_bind, lowered]
    exact session.on_callSetter called
  · intro identity other
    by_cases here : identity = event.identity ∧ other = field
    · obtain ⟨rfl, rfl⟩ := here
      rw [Shelf.put_self, Ledger.record_self, Ledger.rooms_record]
      exact (Lodged.set stored List.mem_cons_self).keep kept
    · rw [shelf.put_of_ne value here, Ledger.record_of_ne _ place here, Ledger.rooms_record]
      exact (held.lodged identity other).keep kept

/-- A value is read where it is on record. -/
theorem Holds.get (holds : keeping.Holds (field.size (shelf event.identity field) :: plan)
      shelf ledger store) (lendable : store.Lendable event) :
    ∃ (laterLedger : Ledger) (after : EventStore),
      (session.getField event field).on store = (.ok (shelf event.identity field), after) ∧
        keeping.Holds plan shelf laterLedger after ∧ store.Settled after := by
  let value := shelf event.identity field
  have stored := (holds.lodged event.identity field).stored
  have length : ((ledger.place event.identity field).2).toNat = field.size value := by
    rw [Ledger.place, stored.number, field.count_lowerable]
    exact UInt32.toNat_ofNat_of_lt' (Word.lt_size_of_le_maxLength stored.small)
  have parked := keeps_place_count holds.keeps event
  rw [← length] at parked
  obtain ⟨area, copy, answered, called, first, second, opens, copied, dropped, keeps⟩ :=
    keeping.getter rfl parked lendable.lent (length ▸ stored.fits)
  rw [length] at opens copied keeps
  have there : (field.lowerable value).Stored answered.memory
      (copy, (ledger.place event.identity field).2) := {
    small := stored.small
    number := stored.number
    fits := opens.inside
    image := fun index inside =>
      (copied index (lt_of_lt_of_eq inside (field.lowerable value).length_image)).trans
        (stored.image index inside) }
  obtain ⟨word, after, freed, kept, same, keepsAfter⟩ :=
    keeping.free copy (ledger.place event.identity field).2 keeps
  refine ⟨_, after, ?_, ⟨keepsAfter, ?_⟩,
    (Store.settled_of_dropped lendable dropped).trans (.of_registries same)⟩
  · exact session.on_callGetter called first second (field.lift_of_stored value there) freed
  · intro identity other
    exact (((holds.lodged identity other).keep opens.keeps).grant _).keep kept

end RecordKeeping

end Event

end GuestBoundary
