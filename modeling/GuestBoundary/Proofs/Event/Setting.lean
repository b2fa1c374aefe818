import GuestBoundary.Proofs.Event.Contract
import GuestBoundary.Proofs.Event.RecordGuest
import GuestBoundary.Proofs.Guest.Dropping

/-!
# Setting a field

The guest runs twice while a field is set: its allocator finds room for the value, and its setter
takes the value over. In between, the host writes the value and parks a handle, in this order and
by what the allocator left; so when the allocator fails or its room cannot be used, no handle is
left behind. From then on the handle is the guest's.
-/

namespace GuestBoundary.Event

/-- A value was written at an address and a handle for an event was parked, and nothing else has
changed since the allocator returned. -/
structure Prepared (left : EventStore) (event : EventReference) (address : Word)
    (value : Lowerable) (prepared : EventStore) : Prop where
  written : prepared.memory.read ⟨address.toNat, address.toNat + value.size⟩ = value.image
  size : prepared.memory.size = left.memory.size
  others : ∀ index, index < address.toNat ∨ address.toNat + value.size ≤ index →
    prepared.memory[index]? = left.memory[index]?
  parks : { left with memory := prepared.memory }.Parks event (left.nextSlot event) prepared

/-- What the allocator is asked for a value. -/
def roomFor (value : Lowerable) : List Word := [0, 0, 1, UInt32.ofNat value.size]

/-- What the setter is given: the handle that the table is about to hand out, and where the value
is. -/
def handover (left : EventStore) (event : EventReference) (address : Word) (value : Lowerable) :
    List Word :=
  [UInt32.ofNat (left.nextSlot event), address, UInt32.ofNat value.size]

/-- The ways in which setting a field ends, with the calls that the host makes for it. -/
inductive Setting (running : Instance 1) (realloc setter : FunctionId) (event : EventReference)
    (value : Lowerable) (store : EventStore) :
    Except Fault Unit × EventStore → List (Call 1) → Prop where
  /-- No guest can be told the length. -/
  | long (tooLong : Word.maxLength < value.size) :
      Setting running realloc setter event value store
        (.error (.lengthOverflow value.size), store) []
  | unallocated {fault : Fault} {left : EventStore} (short : value.size ≤ Word.maxLength)
      (failed : (running.call realloc (roomFor value)).on store = (.error fault, left)) :
      Setting running realloc setter event value store (.error fault, left)
        [{ function := realloc, arguments := roomFor value }]
  | outside {address : Word} {left : EventStore} (short : value.size ≤ Word.maxLength)
      (given : (running.call realloc (roomFor value)).on store = (.ok address, left))
      (outside : left.memory.size < address.toNat + value.size) :
      Setting running realloc setter event value store
        (.error (.outOfBounds address (UInt64.ofNat value.size) left.memory.size), left)
        [{ function := realloc, arguments := roomFor value }]
  /-- The setter's answer is the outcome; the handle stays, unless the guest drops it. -/
  | called {address : Word} {left prepared final : EventStore} {outcome : Except Fault Word}
      (short : value.size ≤ Word.maxLength)
      (given : (running.call realloc (roomFor value)).on store = (.ok address, left))
      (inside : address.toNat + value.size ≤ left.memory.size)
      (ready : Prepared left event address value prepared)
      (ended : (running.call setter (handover left event address value)).on prepared =
        (outcome, final))
      (kept : final.Occupies event (left.nextSlot event) ∨
        running.CallDrops event.kind (UInt32.ofNat (left.nextSlot event))
          { function := setter, arguments := handover left event address value } prepared) :
      Setting running realloc setter event value store (outcome.map fun _ => (), final)
        [{ function := realloc, arguments := roomFor value },
          { function := setter, arguments := handover left event address value }]

theorem prepared_write {left : EventStore} {event : EventReference} {address : Word}
    {value : Lowerable} (inside : address.toNat + value.size ≤ left.memory.size) :
    let filled : EventStore :=
      { left with memory := left.memory.write address.toNat value.image }
    Prepared left event address value ((filled.count event).place event) where
  written := by
    have fits : address.toNat + value.image.length ≤ left.memory.size := by
      rw [value.length_image]
      exact inside
    have read := Bytes.read_write value.image fits
    rwa [value.length_image] at read
  size := Bytes.size_write _ _ _
  others index outside := by
    change (left.memory.write address.toNat value.image)[index]? = _
    rw [Bytes.getElem?_write, value.length_image, if_neg (by omega)]
  parks := Store.parks_place_count _ event

namespace Session

variable (session : Session) (event : EventReference)

/-- A setter is called with the handle that was parked for it. -/
theorem on_callSetter_eq (setter : FunctionId) (place : Word × Word) (store : EventStore) :
    (session.callSetter setter event place).on store =
      let called := (session.running.call setter
        [UInt32.ofNat (store.nextSlot event), place.1, place.2]).on
          ((store.count event).place event)
      (called.1.map fun _ => (), called.2) := by
  rw [callSetter, Work.on_bind, Store.on_lower]
  dsimp only
  rw [Work.on_discard]

theorem on_setField_of_long {field : Field} {value : field.Value}
    (tooLong : Word.maxLength < field.size value) (store : EventStore) :
    (session.setField event field value).on store =
      (.error (.lengthOverflow (field.size value)), store) := by
  have overflows : (field.lowerable value).parcel.overflow? = some (field.size value) := by
    have count : (field.lowerable value).parcel.count = field.size value :=
      field.count_lowerable value
    rw [Parcel.overflow?, count, if_pos tooLong]
  rw [setField, Work.on_bind, GuestMemory.on_lower, overflows]

/-- The allocator's answer is checked against the memory that it leaves, and used there. -/
theorem on_setField_of_short {field : Field} {value : field.Value}
    (short : field.size value ≤ Word.maxLength) (store : EventStore) :
    (session.setField event field value).on store =
      match (session.running.call session.contract.realloc
        (roomFor (field.lowerable value))).on store with
      | (.error fault, left) => (.error fault, left)
      | (.ok address, left) =>
          if address.toNat + field.size value ≤ left.memory.size then
            (session.callSetter (session.contract.fieldAccessors field).setter event
              (address, UInt32.ofNat (field.size value))).on
                { left with
                  memory := left.memory.write address.toNat (field.lowerable value).image }
          else
            (.error (.outOfBounds address (UInt64.ofNat (field.size value)) left.memory.size),
              left) := by
  have asked : session.guestMemory.realloc 0 0 (field.lowerable value).align
      (UInt32.ofNat (field.lowerable value).size) =
        session.running.call session.contract.realloc (roomFor (field.lowerable value)) := by
    rw [field.align_lowerable]
    rfl
  have fits := (field.lowerable value).parcel.overflow?_eq_none_iff.mpr short
  rw [setField, Work.on_bind, GuestMemory.on_lower, fits, asked]
  dsimp only
  rcases (session.running.call session.contract.realloc
    (roomFor (field.lowerable value))).on store with ⟨fault | address, left⟩
  · rfl
  · by_cases inside : address.toNat + field.size value ≤ left.memory.size
    · have placed : session.guestMemory.deposit (field.lowerable value).parcel (.ok address, left) =
          (.ok (address, UInt32.ofNat (field.size value)),
            { left with
              memory := left.memory.write address.toNat (field.lowerable value).image }) := by
        rw [← field.count_lowerable]
        exact if_pos inside
      rw [placed]
      exact (if_pos inside).symm
    · have refused :
          session.guestMemory.deposit (field.lowerable value).parcel (.ok address, left) =
            (.error (.outOfBounds address (UInt64.ofNat (field.size value)) left.memory.size),
              left) := if_neg inside
      rw [refused]
      exact (if_neg inside).symm

/-- However the guest behaves, a field is set in one of the ways. -/
theorem setting_setField (field : Field) (value : field.Value) (store : EventStore) :
    ∃ calls, Setting session.running session.contract.realloc
        (session.contract.fieldAccessors field).setter event (field.lowerable value) store
        ((session.setField event field value).on store) calls ∧
      ((session.setField event field value).on store).2.hostCalls = store.hostCalls ++ calls := by
  let realloc := session.contract.realloc
  let setter := (session.contract.fieldAccessors field).setter
  let lowered := field.lowerable value
  by_cases short : field.size value ≤ Word.maxLength
  case neg =>
    have tooLong := Nat.lt_of_not_le short
    rw [session.on_setField_of_long event tooLong]
    exact ⟨[], .long tooLong, (List.append_nil _).symm⟩
  case pos =>
    have asked := session.running.hostCalls_call realloc (roomFor lowered) store
    rw [session.on_setField_of_short event short]
    rcases given : (session.running.call realloc (roomFor lowered)).on store with
      ⟨fault | address, left⟩
    · rw [given] at asked
      exact ⟨_, .unallocated short given, asked⟩
    · rw [given] at asked
      dsimp only
      by_cases inside : address.toNat + field.size value ≤ left.memory.size
      · rw [if_pos inside, on_callSetter_eq]
        let filled : EventStore :=
          { left with memory := left.memory.write address.toNat lowered.image }
        have ready : Prepared left event address lowered ((filled.count event).place event) :=
          prepared_write inside
        have called := session.running.hostCalls_call setter
          (handover left event address lowered) ((filled.count event).place event)
        have before : ((filled.count event).place event).hostCalls = left.hostCalls := rfl
        refine ⟨_, .called short given inside ready rfl ?_, ?_⟩
        · exact Instance.call_occupies_or_drops ready.parks.occupied setter _
        · exact called.trans (by rw [before, asked, List.append_assoc]; rfl)
      · rw [if_neg inside]
        exact ⟨_, .outside short given (Nat.lt_of_not_le inside), asked⟩

end Session

/-- An operation that sets what the guest exports a setter of this name for: it is done in one of
the ways, with the guest's own allocator and this setter, and the host calls nothing else. -/
def Sets (running : Instance 1) (names : Names) (setterName : String) (event : EventReference)
    (value : Lowerable) (operation : Attempt EventStore Unit) : Prop :=
  ∃ realloc setter, running.typedExport names.realloc (.words 4) = .ok realloc ∧
    running.typedExport (resourceName ++ "::set-" ++ setterName) (.wordsToUnit 3) = .ok setter ∧
      ∀ store, ∃ calls,
        Setting running realloc setter event value store (operation.on store) calls ∧
          (operation.on store).2.hostCalls = store.hostCalls ++ calls

namespace Session

theorem sets_setField {session : Session} {names : Names} {destructor : FunctionId}
    (resolved : Contract.resolve session.running names = .ok (session.contract, destructor))
    (event : EventReference) (field : Field) (value : field.Value) :
    Sets session.running names field.name event (field.lowerable value)
      (session.setField event field value) := by
  have exported := Contract.exported_of_resolve resolved
  exact ⟨_, _, exported.realloc, exported.setter field,
    session.setting_setField event field value⟩

/-- Setting a field writes the value before it parks a handle: the guest is asked for room once,
and only if the value fits there is the setter of exactly this field called, once, with a handle
of its own for the event. The setter's failure is the failure, and the handle is left to the
guest. -/
theorem set_parks_after_writing {session : Session} {names : Names} {destructor : FunctionId}
    (resolved : Contract.resolve session.running names = .ok (session.contract, destructor))
    (event : EventReference) :
    (∀ (field : Attribute) (value : String),
      Sets session.running names field.name event (.text value)
        (session.set event field value)) ∧
      ∀ data : List UInt8,
        Sets session.running names "data" event (.bytes data) (session.setData event data) :=
  ⟨fun field value => sets_setField resolved event (.text field) value,
    fun data => sets_setField resolved event .data data⟩

/-- A guest that keeps records, and an event that it may or may not know. -/
theorem set_parks_after_writing_of_records :
    Contract.resolve { program := RecordGuest.program, engine := ({} : Configuration).engine } {} =
        .ok (RecordGuest.contract, 2) ∧
      Sets (RecordGuest.session ({} : Configuration).engine).running {} "id"
        { kind := eventKind, identity := 0 } (.text "text")
        ((RecordGuest.session ({} : Configuration).engine).set
          { kind := eventKind, identity := 0 } .id "text") := by
  have resolved := RecordGuest.resolve_program ({} : Configuration).engine
  exact ⟨resolved, (set_parks_after_writing resolved _).1 .id "text"⟩

end Session

end GuestBoundary.Event
