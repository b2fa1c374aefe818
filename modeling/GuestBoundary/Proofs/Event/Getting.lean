import GuestBoundary.Proofs.Codec.Text
import GuestBoundary.Proofs.Event.Contract
import GuestBoundary.Proofs.Event.RecordGuest
import GuestBoundary.Proofs.Guest.Leaving

/-!
# Getting a field

A getter answers with an address where the guest has left two more words: where the bytes of the
field are, and how many. All of it is the guest's word and is checked against the memory that the
getter has left, one step after the other. The bytes are copied before they are given back; what the
guest does when they are freed comes too late to change them.
-/

namespace GuestBoundary.Event

section

variable {α : Type}

/-- The bytes of a text. -/
def textBytes (text : String) : List UInt8 := Utf8.encode text.toList

/-- What a getter's answer stands for in the memory that the getter has left: the address and the
length of the bytes and the value that they are the image of, or the fault of the first check that
fails. -/
inductive Reads (image : α → List UInt8) (memory : Bytes) (area : Word) :
    Except Fault (Word × Word × α) → Prop where
  | addressOutside (outside : memory.word? area = none) :
      Reads image memory area (.error (.outOfBounds area 4 memory.size))
  | lengthOutside {address : Word} (first : memory.word? area = some address)
      (outside : memory.word? (area + 8) = none) :
      Reads image memory area (.error (.outOfBounds (area + 8) 4 memory.size))
  | bytesOutside {address length : Word} (first : memory.word? area = some address)
      (second : memory.word? (area + 8) = some length)
      (outside : memory.size < address.toNat + length.toNat) :
      Reads image memory area (.error (.outOfBounds address length.toUInt64 memory.size))
  | flawed {address length : Word} {flaw : Utf8.Flaw} (first : memory.word? area = some address)
      (second : memory.word? (area + 8) = some length)
      (inside : address.toNat + length.toNat ≤ memory.size)
      (none : ∀ value,
        image value ≠ memory.read ⟨address.toNat, address.toNat + length.toNat⟩)
      (located : flaw.Locates (memory.read ⟨address.toNat, address.toNat + length.toNat⟩)) :
      Reads image memory area (.error (.encoding flaw))
  | read {address length : Word} {value : α} (first : memory.word? area = some address)
      (second : memory.word? (area + 8) = some length)
      (inside : address.toNat + length.toNat ≤ memory.size)
      (bytes : image value = memory.read ⟨address.toNat, address.toNat + length.toNat⟩) :
      Reads image memory area (.ok (address, length, value))

/-- The ways in which getting a field ends, with the calls that the host makes for it. -/
inductive Getting (running : Instance 1) (getter free : FunctionId) (image : α → List UInt8)
    (event : EventReference) (store : EventStore) :
    Except Fault α × EventStore → List (Call 1) → Prop where
  | unanswered {parked left : EventStore} {fault : Fault}
      (parks : store.Parks event (store.nextSlot event) parked)
      (failed : (running.call getter [UInt32.ofNat (store.nextSlot event)]).on parked =
        (.error fault, left)) :
      Getting running getter free image event store (.error fault, left)
        [{ function := getter, arguments := [UInt32.ofNat (store.nextSlot event)] }]
  | unread {parked left : EventStore} {area : Word} {fault : Fault}
      (parks : store.Parks event (store.nextSlot event) parked)
      (answered : (running.call getter [UInt32.ofNat (store.nextSlot event)]).on parked =
        (.ok area, left))
      (reads : Reads image left.memory area (.error fault)) :
      Getting running getter free image event store (.error fault, left)
        [{ function := getter, arguments := [UInt32.ofNat (store.nextSlot event)] }]
  /-- The value is what was read; only whether there is one depends on how freeing ends. -/
  | freed {parked left final : EventStore} {area address length : Word} {value : α}
      {outcome : Except Fault Word}
      (parks : store.Parks event (store.nextSlot event) parked)
      (answered : (running.call getter [UInt32.ofNat (store.nextSlot event)]).on parked =
        (.ok area, left))
      (reads : Reads image left.memory area (.ok (address, length, value)))
      (ended : (running.call free [address, length, 1]).on left = (outcome, final)) :
      Getting running getter free image event store (outcome.map fun _ => value, final)
        [{ function := getter, arguments := [UInt32.ofNat (store.nextSlot event)] },
          { function := free, arguments := [address, length, 1] }]

/-! ### Reading an answer -/

/-- A way to lift bytes that says what they are the image of, or where they have a flaw. -/
def LiftsImages (image : α → List UInt8) (lift : Bytes → Word → Word → Except Fault α) : Prop :=
  ∀ memory address length,
    if address.toNat + length.toNat ≤ memory.size then
      let bytes := memory.read ⟨address.toNat, address.toNat + length.toNat⟩
      (∃ value, lift memory address length = .ok value ∧ image value = bytes) ∨
        ∃ flaw, lift memory address length = .error (.encoding flaw) ∧
          (∀ value, image value ≠ bytes) ∧ flaw.Locates bytes
    else lift memory address length = .error (.outOfBounds address length.toUInt64 memory.size)

theorem liftsImages_bytes : LiftsImages id liftBytes := by
  intro memory address length
  rw [liftBytes, memory.slice_word]
  by_cases inside : address.toNat + length.toNat ≤ memory.size
  · rw [if_pos inside, if_pos inside]
    exact .inl ⟨_, rfl, rfl⟩
  · rw [if_neg inside, if_neg inside]

theorem liftsImages_text : LiftsImages textBytes liftText := by
  intro memory address length
  rw [liftText, memory.slice_word]
  by_cases inside : address.toNat + length.toNat ≤ memory.size
  · rw [if_pos inside, if_pos inside]
    dsimp only [bind, Except.bind]
    cases decoded : Utf8.decode
        (memory.read ⟨address.toNat, address.toNat + length.toNat⟩) with
    | ok characters =>
        refine .inl ⟨String.ofList characters, rfl, ?_⟩
        rw [textBytes, String.toList_ofList]
        exact Utf8.encode_of_decode decoded
    | error flaw =>
        exact .inr ⟨flaw, rfl, fun text => Utf8.encode_ne_of_decode decoded _,
          Utf8.locates_of_decode decoded⟩
  · rw [if_neg inside, if_neg inside]
    rfl

/-- What a getter's answer stands for, worked out. -/
def reading (lift : Bytes → Word → Word → Except Fault α) (memory : Bytes) (area : Word) :
    Except Fault (Word × Word × α) :=
  match (memory.load area 0 : Except Fault Word) with
  | .error fault => .error fault
  | .ok address =>
      match (memory.load area returnAreaOffset : Except Fault Word) with
      | .error fault => .error fault
      | .ok length => (lift memory address length).map fun value => (address, length, value)

theorem reads_reading {image : α → List UInt8} {lift : Bytes → Word → Word → Except Fault α}
    (lifts : LiftsImages image lift) (memory : Bytes) (area : Word) :
    Reads image memory area (reading lift memory area) := by
  rw [reading, Bytes.load_word, UInt32.add_zero, Bytes.load_word, returnAreaOffset]
  cases first : memory.word? area with
  | none => exact .addressOutside first
  | some address =>
  cases second : memory.word? (area + 8) with
  | none => exact .lengthOutside first second
  | some length =>
  have lifted := lifts memory address length
  dsimp only
  by_cases inside : address.toNat + length.toNat ≤ memory.size
  · rw [if_pos inside] at lifted
    rcases lifted with ⟨value, lifted, bytes⟩ | ⟨flaw, lifted, none, located⟩
    · rw [lifted]
      exact .read first second inside bytes
    · rw [lifted]
      exact .flawed first second inside none located
  · rw [if_neg inside] at lifted
    rw [lifted]
    exact .bytesOutside first second (Nat.lt_of_not_le inside)

namespace Session

variable (session : Session) (event : EventReference)

/-- A getter is called with the handle that was parked for it; what it answers is read in one go,
and freed if that succeeds. -/
theorem on_callGetter_eq (getter : FunctionId) (lift : Bytes → Word → Word → Except Fault α)
    (store : EventStore) :
    (session.callGetter getter event lift).on store =
      match (session.running.call getter [UInt32.ofNat (store.nextSlot event)]).on
        ((store.count event).place event) with
      | (.error fault, left) => (.error fault, left)
      | (.ok area, left) =>
          match reading lift left.memory area with
          | .error fault => (.error fault, left)
          | .ok (address, length, value) =>
              let freed := (session.running.call session.contract.free [address, length, 1]).on left
              (freed.1.map fun _ => value, freed.2) := by
  have examined {β : Type} (view : Bytes → Except Fault β) (left : EventStore) :
      (session.guestMemory.examine view).on left = (view left.memory, left) :=
    Attempt.on_examine _ _
  have given (address length : Word) (left : EventStore) :
      (session.guestMemory.free address length 1).on left =
        ((((session.running.call session.contract.free [address, length, 1]).on left).1.map
            fun _ => ()),
          ((session.running.call session.contract.free [address, length, 1]).on left).2) :=
    Work.on_discard _ _
  rw [callGetter, Work.on_bind, Store.on_lower]
  dsimp only
  rw [Work.on_bind]
  rcases (session.running.call getter [UInt32.ofNat (store.nextSlot event)]).on
    ((store.count event).place event) with ⟨fault | area, left⟩
  · rfl
  dsimp only
  rw [Work.on_bind, examined, reading]
  cases (left.memory.load area 0 : Except Fault Word) with
  | error fault => rfl
  | ok address =>
  dsimp only
  rw [Work.on_bind, examined]
  cases (left.memory.load area returnAreaOffset : Except Fault Word) with
  | error fault => rfl
  | ok length =>
  dsimp only
  rw [Work.on_bind, examined]
  cases lift left.memory address length with
  | error fault => rfl
  | ok value =>
  dsimp only [Except.map]
  rw [Work.on_bind, given]
  rcases (session.running.call session.contract.free [address, length, 1]).on left with
    ⟨fault | answer, final⟩ <;> rfl

/-- However the guest behaves, a field is got in one of the ways. -/
theorem getting_callGetter {image : α → List UInt8}
    {lift : Bytes → Word → Word → Except Fault α} (lifts : LiftsImages image lift)
    (getter : FunctionId) (store : EventStore) :
    ∃ calls, Getting session.running getter session.contract.free image event store
        ((session.callGetter getter event lift).on store) calls ∧
      ((session.callGetter getter event lift).on store).2.hostCalls =
        store.hostCalls ++ calls := by
  have parks := store.parks_place_count event
  have asked := session.running.hostCalls_call getter [UInt32.ofNat (store.nextSlot event)]
    ((store.count event).place event)
  have before : ((store.count event).place event).hostCalls = store.hostCalls := rfl
  rw [before] at asked
  rw [on_callGetter_eq]
  rcases answered : (session.running.call getter [UInt32.ofNat (store.nextSlot event)]).on
    ((store.count event).place event) with ⟨fault | area, left⟩
  · rw [answered] at asked
    exact ⟨_, .unanswered parks answered, asked⟩
  rw [answered] at asked
  have reads := reads_reading lifts left.memory area
  dsimp only
  generalize reading lift left.memory area = read at reads
  rcases read with fault | ⟨address, length, value⟩
  · exact ⟨_, .unread parks answered reads, asked⟩
  · refine ⟨_, .freed parks answered reads rfl, ?_⟩
    refine (session.running.hostCalls_call session.contract.free [address, length, 1] left).trans ?_
    rw [asked, List.append_assoc]
    rfl

end Session

/-- An operation that gets what the guest exports a getter of this name for: it is done in one of
the ways, with this getter and the guest's own function for freeing, and the host calls nothing
else. -/
def Gets (running : Instance 1) (names : Names) (getterName : String) (image : α → List UInt8)
    (event : EventReference) (operation : Attempt EventStore α) : Prop :=
  ∃ getter free,
    running.typedExport (resourceName ++ "::get-" ++ getterName) (.words 1) = .ok getter ∧
      running.typedExport names.free (.wordsToUnit 3) = .ok free ∧
        ∀ store, ∃ calls,
          Getting running getter free image event store (operation.on store) calls ∧
            (operation.on store).2.hostCalls = store.hostCalls ++ calls

end

namespace Session

/-- Getting a field copies what the getter has left before it is freed: the getter of exactly this
field is called once, with a handle of its own for the event, and what it answers is freed, once,
if all of it can be read. The value is the bytes as they were before; where they cannot be read, the
first check that fails says why and nothing is freed. -/
theorem get_copies_before_freeing {session : Session} {names : Names} {destructor : FunctionId}
    (resolved : Contract.resolve session.running names = .ok (session.contract, destructor))
    (event : EventReference) :
    (∀ field : Attribute,
      Gets session.running names field.name textBytes event (session.get event field)) ∧
      Gets session.running names "data" id event (session.getData event) := by
  have exported := Contract.exported_of_resolve resolved
  constructor
  · exact fun field => ⟨_, _, exported.getter (.text field), exported.free,
      session.getting_callGetter event liftsImages_text _⟩
  · exact ⟨_, _, exported.getter .data, exported.free,
      session.getting_callGetter event liftsImages_bytes _⟩

/-- A guest that keeps records, and an event that it may or may not know. -/
theorem get_copies_before_freeing_of_records :
    Contract.resolve { program := RecordGuest.program, engine := ({} : Configuration).engine } {} =
        .ok (RecordGuest.contract, 2) ∧
      Gets (RecordGuest.session ({} : Configuration).engine).running {} "id" textBytes
        { kind := eventKind, identity := 0 }
        ((RecordGuest.session ({} : Configuration).engine).get
          { kind := eventKind, identity := 0 } .id) := by
  have resolved := RecordGuest.resolve_program ({} : Configuration).engine
  exact ⟨resolved, (get_copies_before_freeing resolved _).1 .id⟩

end Session

end GuestBoundary.Event
