import Mathlib.Algebra.GroupWithZero.Nat
import GuestBoundary.Event.RecordGuest
import GuestBoundary.Host
import GuestBoundary.Proofs.Event.Contract
import GuestBoundary.Proofs.Guest.Returning

/-!
# A guest that keeps records

The record guest lays its memory out in order: the return area first, then the records and the
rooms as they were asked for, and the free memory last. While the rooms of a plan fit into the free
memory, it keeps records.
-/

namespace GuestBoundary.Event

/-- Where a field is in a record. -/
def Field.position : Field → Nat
  | .text name => name.index
  | .data => 8

theorem Field.position_le (field : Field) : field.position ≤ 8 := by
  cases field with
  | text name => exact Nat.le_of_lt name.index.isLt
  | data => exact Nat.le_refl 8

theorem Field.position_injective : Function.Injective Field.position := by
  have index_injective : Function.Injective Attribute.index := by
    intro first second same
    have named := congrArg (fun index : Fin 8 => Attribute.all[index]) same
    simpa only [Attribute.all_index] using named
  intro first second same
  cases first with
  | text name =>
      cases second with
      | text other => exact congrArg Field.text (index_injective (Fin.ext same))
      | data => exact absurd same (Nat.ne_of_lt name.index.isLt)
  | data =>
      cases second with
      | text other => exact absurd same.symm (Nat.ne_of_lt other.index.isLt)
      | data => rfl

/-- Events are of one kind. -/
theorem eq_of_identity {event other : EventReference} (same : other.identity = event.identity) :
    other = event := by
  obtain ⟨kind, identity⟩ := event
  obtain ⟨otherKind, otherIdentity⟩ := other
  cases same
  rw [Subsingleton.elim kind otherKind]

namespace RecordGuest

def assembly : Assembly 1 where
  definitions := definitions
  lifecycles := [(({} : Names).importNamespace, eventKind)]

def program : Program 1 where
  functions := assembly.functions.toArray
  imports := assembly.imports (.replicate 1 resourceName)
  exports := assembly.exports
  globals := #[Code.heapStart]

example : assembly.program #v[resourceName] = .ok program := rfl

def contract : Contract where
  realloc := 0
  free := 1
  create := 3
  attributes := Vector.ofFn fun index => { getter := 4 + 2 * index, setter := 5 + 2 * index }
  data := { getter := 20, setter := 21 }
  handler := 22

def session (engine : Engine 1) : Session := { running := { program, engine }, contract }

deriving instance DecidableEq for Contract

/-- The contract is what a session finds when it starts; the destructor is the third function. -/
theorem resolve_program (engine : Engine 1) :
    Contract.resolve { program, engine } {} = .ok (contract, 2) := by
  have found : Contract.resolve { program, engine := { stack := 0, callSize := 0 } } {} =
      .ok (contract, 2) := by decide +kernel
  apply Contract.resolve_of_same _ found
  rfl

/-! ### The layout of the memory -/

/-- Where the return area ends. -/
def areaStop : Nat := 20

def record (store : EventStore) (event : EventReference) : Range :=
  ⟨(store.resource event).representation.toNat,
    (store.resource event).representation.toNat + recordSize.toNat⟩

/-- Where the address and the length of a field are recorded. -/
def slotAddress (store : EventStore) (event : EventReference) (field : Field) : Nat :=
  (store.resource event).representation.toNat + 8 * field.position

theorem slotAddress_inside (store : EventStore) (event : EventReference) (field : Field) :
    (record store event).start ≤ slotAddress store event field ∧
      slotAddress store event field + 8 ≤ (record store event).stop := by
  have position := field.position_le
  simp only [record, slotAddress, recordSize, UInt32.reduceToNat]
  omega

/-- Everything lies between the return area and the free memory, each in its own place, and what is
still planned fits into the free memory. -/
structure Layout (heap : Word) (plan : List Nat) (rooms : List Range) (store : EventStore) :
    Prop where
  whole : ∃ pages < maxPages, store.memory.size = pages * pageSize
  global : store.globals[Code.heapGlobal]? = some heap
  beyond : areaStop ≤ heap.toNat
  enough : heap.toNat + plan.sum ≤ store.memory.size
  roomBetween : ∀ room ∈ rooms, areaStop ≤ room.start ∧ room.stop ≤ heap.toNat
  recordBetween : ∀ event, store.Wraps event →
    areaStop ≤ (record store event).start ∧ (record store event).stop ≤ heap.toNat
  recordApart : ∀ event, store.Wraps event → ∀ room ∈ rooms, (record store event).Apart room
  recordsApart : ∀ event other, store.Wraps event → store.Wraps other → event ≠ other →
    (record store event).Apart (record store other)

/-- The records hold what the ledger says. -/
def Recorded (ledger : Ledger) (store : EventStore) : Prop :=
  ∀ event field, store.Wraps event →
    store.memory.HasWord (slotAddress store event field) (ledger.place event.identity field).1 ∧
      store.memory.HasWord (slotAddress store event field + 4)
        (ledger.place event.identity field).2

/-- Another store with as much memory and the same records at the same places. -/
structure Alike (store other : EventStore) : Prop where
  size : other.memory.size = store.memory.size
  globals : other.globals = store.globals
  wraps : ∀ event, other.Wraps event ↔ store.Wraps event
  representations : ∀ event,
    (other.resource event).representation = (store.resource event).representation

section

variable {heap : Word} {plan : List Nat} {rooms : List Range} {ledger : Ledger}
  {store other : EventStore}

namespace Alike

theorem record_eq (alike : Alike store other) (event : EventReference) :
    record other event = record store event := by
  rw [record, record, alike.representations]

theorem slotAddress_eq (alike : Alike store other) (event : EventReference) (field : Field) :
    slotAddress other event field = slotAddress store event field := by
  rw [slotAddress, slotAddress, alike.representations]

theorem layout (alike : Alike store other) (layout : Layout heap plan rooms store) :
    Layout heap plan rooms other where
  whole := by rw [alike.size]; exact layout.whole
  global := by rw [alike.globals]; exact layout.global
  beyond := layout.beyond
  enough := by rw [alike.size]; exact layout.enough
  roomBetween := layout.roomBetween
  recordBetween event := by rw [alike.wraps, alike.record_eq]; exact layout.recordBetween event
  recordApart event := by rw [alike.wraps, alike.record_eq]; exact layout.recordApart event
  recordsApart event another := by
    rw [alike.wraps, alike.wraps, alike.record_eq, alike.record_eq]
    exact layout.recordsApart event another

/-- What is recorded stays where the records keep their bytes. -/
theorem recorded (alike : Alike store other) (recorded : Recorded ledger store)
    (same : ∀ event, store.Wraps event → ∀ index, (record store event).start ≤ index →
      index < (record store event).stop → other.memory.byte index = store.memory.byte index) :
    Recorded ledger other := by
  intro event field wrapped
  rw [alike.wraps] at wrapped
  obtain ⟨start, stop⟩ := slotAddress_inside store event field
  obtain ⟨address, length⟩ := recorded event field wrapped
  rw [alike.slotAddress_eq]
  exact ⟨address.of_same alike.size fun index fromStart toStop =>
      same event wrapped index (by omega) (by omega),
    length.of_same alike.size fun index fromStart toStop =>
      same event wrapped index (by omega) (by omega)⟩

end Alike

theorem Alike.of_undisturbed (undisturbed : Undisturbed rooms store other) :
    Alike store other :=
  ⟨undisturbed.size, undisturbed.globals, undisturbed.wraps, undisturbed.representations⟩

/-- After a handle is dropped, the records are where they were. -/
theorem Alike.of_dropped {event : EventReference} {handle : Word}
    (size : other.memory.size = store.memory.size) (globals : other.globals = store.globals)
    (same : other.registries = (store.dropped event handle).registries) : Alike store other := by
  have settled := Store.Settled.of_registries same
  refine ⟨size, globals, fun event => ?_, fun event => ?_⟩
  · rw [settled.wraps, Store.wraps_dropped]
  · rw [settled.resources, Store.representation_dropped]

/-- Only the memory was changed before a handle was dropped. -/
theorem Alike.of_withMemory {event : EventReference} {handle : Word} {memory : Bytes}
    (size : memory.size = store.memory.size) :
    Alike store (Store.dropped event handle { store with memory }) := by
  refine .of_dropped ?_ (Store.globals_dropped _ event handle)
    (Store.registries_dropped_congr event handle rfl)
  rw [Store.memory_dropped]
  exact size

namespace Layout

theorem addressable (layout : Layout heap plan rooms store) :
    store.memory.size < UInt32.size := by
  obtain ⟨pages, few, whole⟩ := layout.whole
  rw [whole]
  exact Nat.mul_lt_mul_of_pos_right few (by decide)

/-- The next room is taken from the free memory. -/
theorem grant {length : Word} (layout : Layout heap (length.toNat :: plan) rooms store) :
    Layout (heap + length) plan (⟨heap.toNat, heap.toNat + length.toNat⟩ :: rooms)
      { store with globals := store.globals.setIfInBounds Code.heapGlobal (heap + length) } := by
  have enough := layout.enough
  have addressable := layout.addressable
  rw [List.sum_cons] at enough
  have stop : (heap + length).toNat = heap.toNat + length.toNat := by
    rw [UInt32.toNat_add, Nat.mod_eq_of_lt]
    exact Nat.lt_of_le_of_lt (by omega) addressable
  obtain ⟨inBounds, -⟩ := Array.getElem?_eq_some_iff.mp layout.global
  exact {
    whole := layout.whole
    global := Array.getElem?_setIfInBounds_self_of_lt inBounds
    beyond := by have := layout.beyond; omega
    enough := by dsimp only; omega
    roomBetween := by
      rw [List.forall_mem_cons]
      refine ⟨⟨layout.beyond, Nat.le_of_eq stop.symm⟩, fun room mem => ?_⟩
      have between := layout.roomBetween room mem
      omega
    recordBetween := fun event wrapped => by
      have between := layout.recordBetween event wrapped
      exact ⟨between.1, by rw [stop]; exact Nat.le_add_right_of_le between.2⟩
    recordApart := fun event wrapped => by
      rw [List.forall_mem_cons]
      exact ⟨.inl (layout.recordBetween event wrapped).2, layout.recordApart event wrapped⟩
    recordsApart := layout.recordsApart }

theorem keeps (layout : Layout heap plan rooms store) {memory : Bytes}
    (size : memory.size = store.memory.size)
    (same : ∀ room ∈ rooms, ∀ index, room.start ≤ index → index < room.stop →
      memory.byte index = store.memory.byte index) :
    GuestMemory.Keeps rooms store.memory memory := by
  intro room mem
  have between := layout.roomBetween room mem
  have enough := layout.enough
  exact ⟨by omega, same room mem⟩

theorem slotAddress_between (layout : Layout heap plan rooms store) {event : EventReference}
    (wrapped : store.Wraps event) (field : Field) :
    areaStop ≤ slotAddress store event field ∧
      slotAddress store event field + 8 ≤ heap.toNat := by
  have between := layout.recordBetween event wrapped
  have inside := slotAddress_inside store event field
  exact ⟨Nat.le_trans between.1 inside.1, Nat.le_trans inside.2 between.2⟩

end Layout

/-- The slots of two fields have no address in common. -/
theorem slotAddress_apart (layout : Layout heap plan rooms store) {event other : EventReference}
    (wrapped : store.Wraps event) (wrappedToo : store.Wraps other) {field otherField : Field}
    (different : ¬ (other = event ∧ otherField = field)) :
    slotAddress store event field + 8 ≤ slotAddress store other otherField ∨
      slotAddress store other otherField + 8 ≤ slotAddress store event field := by
  by_cases same : other = event
  · subst same
    have distinct : otherField.position ≠ field.position := fun equal =>
      different ⟨rfl, Field.position_injective equal⟩
    simp only [slotAddress]
    omega
  · have inside := slotAddress_inside store event field
    have insideToo := slotAddress_inside store other otherField
    rcases layout.recordsApart other event wrappedToo wrapped same with before | behind
    · exact .inr (Nat.le_trans insideToo.2 (Nat.le_trans before inside.1))
    · exact .inl (Nat.le_trans inside.2 (Nat.le_trans behind insideToo.1))

/-! ### What the functions do -/

/-- The memory after a setter has recorded an address and a length. -/
def noted (memory : Bytes) (address : Nat) (place : Word × Word) : Bytes :=
  memory.writePair address (address + 4) place

/-- The memory after two words were left in the return area. -/
def answered (memory : Bytes) (pair : Word × Word) : Bytes :=
  memory.writePair returnArea.toNat (returnArea + returnAreaOffset).toNat pair

theorem byte_answered_outside (memory : Bytes) (pair : Word × Word) {index : Nat}
    (beyond : areaStop ≤ index) : (answered memory pair).byte index = memory.byte index :=
  memory.byte_writePair_outside pair (by decide) (.inr beyond)

theorem word?_answered {memory : Bytes} (pair : Word × Word) (inside : areaStop ≤ memory.size) :
    (answered memory pair).word? returnArea = some pair.1 ∧
      (answered memory pair).word? (returnArea + returnAreaOffset) = some pair.2 :=
  (Bytes.hasWord_writePair pair (by decide) inside).imp (·.word?) (·.word?)

variable {enter : (room : Nat) → Entry 1} {room : Nat} {event : EventReference} {handle : Word}
  {field : Field}

theorem returns_slot (layout : Layout heap plan rooms store) (lent : store.Lent event handle) :
    ∃ word : Word, (slot handle field.position).Returns enter room store word store ∧
      word.toNat = slotAddress store event field := by
  have kind : event.kind = eventKind := Subsingleton.elim _ _
  refine ⟨(store.resource event).representation + 8 * UInt32.ofNat field.position, ?_, ?_⟩
  · refine .bind ?_ (.pure _ store)
    rw [← kind]
    exact .askGet lent.held
  · have position := field.position_le
    have between := (layout.slotAddress_between lent.wraps field).2
    have enough := layout.enough
    have addressable := layout.addressable
    have small : field.position < UInt32.size := Nat.lt_of_le_of_lt position (by decide)
    rw [UInt32.toNat_add, UInt32.toNat_mul, UInt32.toNat_ofNat_of_lt' small]
    simp only [slotAddress, UInt32.size, UInt32.reduceToNat] at *
    omega

theorem returns_dropHandle (lent : store.Lent event handle) :
    (dropHandle handle).Returns enter room store () (store.dropped event handle) := by
  have kind : event.kind = eventKind := Subsingleton.elim _ _
  have dropped : (Code.ask .drop eventKind handle).Returns enter room store 0
      (store.dropped event handle) := by
    rw [← kind]
    exact .askDrop lent
  exact dropped.bind (.pure () _)

/-- Two words are stored, and whatever comes next goes on. -/
theorem returns_storePair {first second : Nat} (pair : Word × Word)
    (firstInside : first + 4 ≤ store.memory.size) (inside : second + 4 ≤ store.memory.size)
    {rest : Code 1 Word} {value : Word} {after : EventStore}
    (going : rest.Returns enter room
      { store with memory := store.memory.writePair first second pair } value after) :
    (do Code.storeWord first pair.1; Code.storeWord second pair.2; rest :
      Code 1 Word).Returns enter room store value after := by
  let half : EventStore :=
    { store with memory := store.memory.write first (Scalar.encode pair.1) }
  have one : (Code.storeWord first pair.1).Returns enter room store () half :=
    .storeWord _ firstInside
  have two : (Code.storeWord second pair.2).Returns enter room half ()
      { store with memory := store.memory.writePair first second pair } :=
    .storeWord _ (by dsimp only [half]; rw [Bytes.size_write]; exact inside)
  exact one.bind (two.bind going)

theorem returns_set (layout : Layout heap plan rooms store) (lent : store.Lent event handle)
    (place : Word × Word) :
    (set field.position handle place.1 place.2).Returns enter room store 0
      (Store.dropped event handle
        { store with memory := noted store.memory (slotAddress store event field) place }) := by
  obtain ⟨word, found, address⟩ := returns_slot layout lent
  have between := (layout.slotAddress_between lent.wraps field).2
  have enough := layout.enough
  let full : EventStore :=
    { store with memory := noted store.memory (slotAddress store event field) place }
  have dropped : (dropHandle handle).Returns enter room full () (full.dropped event handle) :=
    returns_dropHandle (lent.of_registries rfl)
  have going : (do dropHandle handle; pure 0 : Code 1 Word).Returns enter room full 0
      (full.dropped event handle) := dropped.bind (.pure 0 _)
  refine found.bind ?_
  rw [address]
  exact returns_storePair place (by omega) (by omega) going

theorem returns_answer (inside : areaStop ≤ store.memory.size) (pair : Word × Word) :
    (answer pair.1 pair.2).Returns enter room store returnArea
      { store with memory := answered store.memory pair } :=
  returns_storePair pair (Nat.le_trans (by decide) inside) inside (.pure returnArea _)

/-- The steps of a getter, one after the other. -/
theorem returns_get_of_steps {position : Nat} {word address length copy : Word}
    {granted copied left after : EventStore}
    (found : (slot handle position).Returns enter room store word store)
    (first : (Code.loadWord (word.toNat + 4)).Returns enter room store length store)
    (allocated : (Code.allocate 0 0 1 length).Returns enter room store copy granted)
    (second : (Code.loadWord word.toNat).Returns enter room granted address granted)
    (copying : (Code.copyBytes copy address length).Returns enter room granted () copied)
    (dropped : (dropHandle handle).Returns enter room copied () left)
    (answering : (answer copy length).Returns enter room left returnArea after) :
    (get position handle).Returns enter room store returnArea after :=
  found.bind (first.bind (allocated.bind (second.bind (copying.bind (dropped.bind answering)))))

theorem returns_get {place : Word × Word}
    (layout : Layout heap (place.2.toNat :: plan) rooms store) (lent : store.Lent event handle)
    (address : store.memory.HasWord (slotAddress store event field) place.1)
    (length : store.memory.HasWord (slotAddress store event field + 4) place.2)
    (inside : place.1.toNat + place.2.toNat ≤ store.memory.size) :
    ∃ after : EventStore,
      (∀ enter room, (get field.position handle).Returns enter room store returnArea after) ∧
      after.memory =
        answered (store.memory.copy heap.toNat place.1.toNat place.2.toNat) (heap, place.2) ∧
      after.globals = store.globals.setIfInBounds Code.heapGlobal (heap + place.2) ∧
      after.registries = (store.dropped event handle).registries := by
  obtain ⟨pages, few, whole⟩ := layout.whole
  have enough := layout.enough
  have beyond := layout.beyond
  rw [List.sum_cons] at enough
  let granted : EventStore :=
    { store with globals := store.globals.setIfInBounds Code.heapGlobal (heap + place.2) }
  let copied : EventStore :=
    { granted with memory := store.memory.copy heap.toNat place.1.toNat place.2.toNat }
  let left : EventStore := copied.dropped event handle
  have memory : left.memory = copied.memory := Store.memory_dropped copied event handle
  have globals : left.globals = granted.globals := Store.globals_dropped copied event handle
  have registries : left.registries = (store.dropped event handle).registries :=
    Store.registries_dropped_congr event handle rfl
  have size : areaStop ≤ left.memory.size := by
    rw [memory, Bytes.size_copy]
    omega
  refine ⟨{ left with memory := answered left.memory (heap, place.2) }, ?_, ?_, globals, registries⟩
  · intro enter room
    obtain ⟨word, found, there⟩ := returns_slot layout lent
    apply returns_get_of_steps found
    · rw [there]
      exact .loadWord length
    · exact .allocate whole few layout.global (by omega)
    · rw [there]
      exact .loadWord address
    · exact .copyBytes inside (by dsimp only [granted]; omega)
    · exact returns_dropHandle (lent.of_registries rfl)
    · exact returns_answer size (heap, place.2)
  · rw [memory]

/-! ### What the functions leave -/

/-- The guest is in order, with the ledger on record. -/
def Orderly (plan : List Nat) (ledger : Ledger) (store : EventStore) : Prop :=
  ∃ heap, Layout heap plan ledger.rooms store ∧ Recorded ledger store

theorem Alike.orderly (alike : Alike store other) (memory : other.memory = store.memory)
    (orderly : Orderly plan ledger store) : Orderly plan ledger other := by
  obtain ⟨heap, layout, recorded⟩ := orderly
  exact ⟨heap, alike.layout layout, alike.recorded recorded fun _ _ _ _ _ => by rw [memory]⟩

theorem alike_note (occurrence : Occurrence 1) (store : EventStore) :
    Alike store (store.note occurrence) :=
  ⟨rfl, rfl, fun _ => Iff.rfl, fun _ => rfl⟩

/-- A setter writes to one slot, which lies in no room and in no other slot. -/
theorem orderly_of_set {after : EventStore} {place : Word × Word}
    (layout : Layout heap plan ledger.rooms store) (recorded : Recorded ledger store)
    (wrapped : store.Wraps event) (alike : Alike store after)
    (memory : after.memory = noted store.memory (slotAddress store event field) place) :
    GuestMemory.Keeps ledger.rooms store.memory after.memory ∧
      Orderly plan (ledger.record event.identity field place) after := by
  have enough := layout.enough
  have between := layout.slotAddress_between wrapped field
  refine ⟨layout.keeps alike.size fun room mem index fromStart toStop => ?_,
    heap, alike.layout layout, fun other otherField wrappedToo => ?_⟩
  · have inside := slotAddress_inside store event field
    rw [memory]
    apply Bytes.byte_writePair_outside _ _ (Nat.le_refl _)
    rcases layout.recordApart event wrapped room mem with before | behind
    · exact .inr (Nat.le_trans inside.2 (Nat.le_trans before fromStart))
    · exact .inl (Nat.lt_of_lt_of_le toStop (Nat.le_trans behind inside.1))
  · rw [alike.wraps] at wrappedToo
    rw [alike.slotAddress_eq, memory, Ledger.place]
    by_cases here : other = event ∧ otherField = field
    · obtain ⟨rfl, rfl⟩ := here
      rw [Ledger.record_self]
      exact Bytes.hasWord_writePair place (Nat.le_refl _) (by omega)
    · have elsewhere : ¬ (other.identity = event.identity ∧ otherField = field) := by
        rintro ⟨same, sameField⟩
        exact here ⟨eq_of_identity same, sameField⟩
      have apart := slotAddress_apart layout wrapped wrappedToo here
      rw [Ledger.record_of_ne ledger place elsewhere]
      obtain ⟨address, length⟩ := recorded other otherField wrappedToo
      exact ⟨address.of_same (Bytes.size_writePair _ _) fun index fromStart toStop =>
          Bytes.byte_writePair_outside _ _ (Nat.le_refl _) (by omega),
        length.of_same (Bytes.size_writePair _ _) fun index fromStart toStop =>
          Bytes.byte_writePair_outside _ _ (Nat.le_refl _) (by omega)⟩

/-- A getter writes to a new room and to the return area, where nothing is on record. -/
theorem orderly_of_get {after : EventStore} {place : Word × Word}
    (layout : Layout heap (place.2.toNat :: plan) ledger.rooms store)
    (recorded : Recorded ledger store)
    (memory : after.memory =
      answered (store.memory.copy heap.toNat place.1.toNat place.2.toNat) (heap, place.2))
    (alike : Alike { store with
      globals := store.globals.setIfInBounds Code.heapGlobal (heap + place.2) } after) :
    Opens ledger.rooms store.memory ⟨heap.toNat, heap.toNat + place.2.toNat⟩ after.memory ∧
      (∀ index, index < place.2.toNat → after.memory.byte (heap.toNat + index) =
        store.memory.byte (place.1.toNat + index)) ∧
      Orderly plan (ledger.grant ⟨heap.toNat, heap.toNat + place.2.toNat⟩) after := by
  have enough := layout.enough
  have beyond := layout.beyond
  rw [List.sum_cons] at enough
  have size : after.memory.size = store.memory.size := alike.size
  have untouched (index : Nat) (above : areaStop ≤ index) (below : index < heap.toNat) :
      after.memory.byte index = store.memory.byte index := by
    rw [memory, byte_answered_outside _ _ above, Bytes.byte_copy_outside _ _ _ (.inl below)]
  refine ⟨⟨by rw [size]; dsimp only; omega, fun room mem => .inl (layout.roomBetween room mem).2,
    layout.keeps size fun room mem index fromStart toStop => ?_⟩, fun index inside => ?_,
      heap + place.2, alike.layout layout.grant, ?_⟩
  · have between := layout.roomBetween room mem
    exact untouched index (by omega) (by omega)
  · rw [memory, byte_answered_outside _ _ (by omega),
      Bytes.byte_copy_inside _ _ _ (by omega) inside]
  · have same : Recorded (ledger.grant ⟨heap.toNat, heap.toNat + place.2.toNat⟩)
        { store with
          globals := store.globals.setIfInBounds Code.heapGlobal (heap + place.2) } := recorded
    refine alike.recorded same fun event wrapped index fromStart toStop => ?_
    have between := layout.recordBetween event wrapped
    exact untouched index (Nat.le_trans between.1 fromStart) (Nat.lt_of_lt_of_le toStop between.2)

/-- Room is granted where the free memory begins. -/
theorem exists_returns_allocate {length : Word}
    (orderly : Orderly (length.toNat :: plan) ledger store) :
    ∃ (address : Word) (after : EventStore),
      (∀ enter room, (Code.allocate 0 0 1 length).Returns enter room store address after) ∧
        Opens ledger.rooms store.memory ⟨address.toNat, address.toNat + length.toNat⟩
          after.memory ∧
        after.registries = store.registries ∧
        Orderly plan (ledger.grant ⟨address.toNat, address.toNat + length.toNat⟩) after := by
  obtain ⟨heap, layout, recorded⟩ := orderly
  obtain ⟨pages, few, whole⟩ := layout.whole
  have enough := layout.enough
  rw [List.sum_cons] at enough
  refine ⟨heap, _, fun enter room => .allocate whole few layout.global (by omega), ?_, rfl,
    heap + length, layout.grant, recorded⟩
  exact ⟨by dsimp only; omega, fun room mem => .inl (layout.roomBetween room mem).2,
    layout.keeps rfl fun _ _ _ _ _ => rfl⟩

theorem exists_returns_set (orderly : Orderly plan ledger store) (lent : store.Lent event handle)
    (place : Word × Word) :
    ∃ after : EventStore,
      (∀ enter room, (set field.position handle place.1 place.2).Returns enter room store 0
        after) ∧
        GuestMemory.Keeps ledger.rooms store.memory after.memory ∧
        after.registries = (store.dropped event handle).registries ∧
        Orderly plan (ledger.record event.identity field place) after := by
  obtain ⟨heap, layout, recorded⟩ := orderly
  let after : EventStore := Store.dropped event handle
    { store with memory := noted store.memory (slotAddress store event field) place }
  have memory : after.memory = noted store.memory (slotAddress store event field) place := by
    dsimp only [after]
    rw [Store.memory_dropped]
  have registries : after.registries = (store.dropped event handle).registries := by
    apply Store.registries_dropped_congr event handle
    dsimp only
  have alike : Alike store after := .of_withMemory (Bytes.size_writePair _ _)
  obtain ⟨keeps, later⟩ := orderly_of_set layout recorded lent.wraps alike memory
  exact ⟨after, fun enter room => returns_set layout lent place, keeps, registries, later⟩

theorem exists_returns_get {place : Word × Word}
    (found : ledger.place event.identity field = place)
    (orderly : Orderly (place.2.toNat :: plan) ledger store) (lent : store.Lent event handle)
    (inside : place.1.toNat + place.2.toNat ≤ store.memory.size) :
    ∃ (copy : Word) (after : EventStore),
      (∀ enter room, (get field.position handle).Returns enter room store returnArea after) ∧
        after.memory.word? returnArea = some copy ∧
        after.memory.word? (returnArea + 8) = some place.2 ∧
        Opens ledger.rooms store.memory ⟨copy.toNat, copy.toNat + place.2.toNat⟩ after.memory ∧
        (∀ index, index < place.2.toNat →
          after.memory.byte (copy.toNat + index) = store.memory.byte (place.1.toNat + index)) ∧
        after.registries = (store.dropped event handle).registries ∧
        Orderly plan (ledger.grant ⟨copy.toNat, copy.toNat + place.2.toNat⟩) after := by
  obtain ⟨heap, layout, recorded⟩ := orderly
  have words := recorded event field lent.wraps
  rw [found] at words
  obtain ⟨after, returns, memory, globals, registries⟩ :=
    returns_get layout lent words.1 words.2 inside
  have size : after.memory.size = store.memory.size := by
    rw [memory, answered, Bytes.size_writePair, Bytes.size_copy]
  have alike : Alike { store with
      globals := store.globals.setIfInBounds Code.heapGlobal (heap + place.2) } after :=
    .of_dropped size globals (registries.trans (Store.registries_dropped_congr event handle rfl))
  obtain ⟨opens, copied, orderly⟩ := orderly_of_get layout recorded memory alike
  have enough := layout.enough
  have inside : areaStop ≤
      (store.memory.copy heap.toNat place.1.toNat place.2.toNat).size := by
    rw [Bytes.size_copy]
    exact Nat.le_trans layout.beyond (by omega)
  have area := word?_answered (heap, place.2) inside
  rw [← memory] at area
  exact ⟨heap, after, returns, area.1, area.2, opens, copied, registries, orderly⟩

end

/-! ### The contract is kept -/

theorem body_realloc (length : Word) :
    program.body contract.realloc [0, 0, 1, length] = Code.allocate 0 0 1 length :=
  Code.bind_done _

theorem body_setter (field : Field) (handle : Word) (place : Word × Word) :
    program.body (contract.fieldAccessors field).setter [handle, place.1, place.2] =
      set field.position handle place.1 place.2 := by
  apply Eq.trans _ (Code.bind_done _)
  cases field with
  | text name => cases name <;> rfl
  | data => rfl

theorem body_getter (field : Field) (handle : Word) :
    program.body (contract.fieldAccessors field).getter [handle] = get field.position handle := by
  apply Eq.trans _ (Code.bind_done _)
  cases field with
  | text name => cases name <;> rfl
  | data => rfl

theorem body_free (arguments : List Word) :
    program.body contract.free arguments =
      .perform (.enterFrame 16) fun _ => .perform (.leaveFrame 16) fun _ => .done 0 := rfl

/-- The record guest keeps records on every engine that lets a function without steps run. -/
def keeping (engine : Engine 1) (deep : 16 ≤ engine.stack) : RecordKeeping (session engine) where
  Keeps := Orderly
  rely {plan ledger store other} orderly undisturbed := by
    obtain ⟨heap, layout, recorded⟩ := orderly
    have alike := Alike.of_undisturbed undisturbed
    refine ⟨heap, alike.layout layout, alike.recorded recorded fun event wrapped index _ _ => ?_⟩
    refine undisturbed.bytes index fun room mem => ?_
    have apart := layout.recordApart event wrapped room mem
    simp only [Range.Apart] at apart
    omega
  realloc {length plan ledger store} orderly small := by
    have word : (UInt32.ofNat length).toNat = length :=
      UInt32.toNat_ofNat_of_lt' (Word.lt_size_of_le_maxLength small)
    rw [← word] at orderly
    obtain ⟨address, after, returns, left⟩ :=
      exists_returns_allocate ((alike_note _ store).orderly rfl orderly)
    rw [word] at left
    exact ⟨address, after, Instance.on_call fun enter => body_realloc _ ▸ returns enter _, left⟩
  setter {plan ledger store event handle} field place orderly lent := by
    obtain ⟨after, returns, keeps, registries, later⟩ :=
      exists_returns_set ((alike_note _ store).orderly rfl orderly) (lent.of_registries rfl) place
    exact ⟨0, after, Instance.on_call fun enter => body_setter field handle place ▸ returns enter _,
      keeps, registries.trans (Store.registries_dropped_congr event handle rfl), later⟩
  getter {plan ledger store event handle field place} found orderly lent inside := by
    obtain ⟨copy, after, returns, address, length, opens, copied, registries, later⟩ :=
      exists_returns_get found ((alike_note _ store).orderly rfl orderly) (lent.of_registries rfl)
        inside
    exact ⟨returnArea, copy, after,
      Instance.on_call fun enter => body_getter field handle ▸ returns enter _, address, length,
      opens, copied, registries.trans (Store.registries_dropped_congr event handle rfl), later⟩
  free {plan ledger store} address length orderly := by
    let call : Call 1 := { function := contract.free, arguments := [address, length, 1] }
    have left := (alike_note (.called call true) store).orderly rfl orderly
    obtain ⟨heap, layout, recorded⟩ := orderly
    exact ⟨0, store.note (.called call true),
      Instance.on_call fun enter => body_free _ ▸ .frame deep 0 _,
      layout.keeps rfl fun _ _ _ _ _ => rfl, rfl, left⟩

/-! ### Two events and a clone -/

/-- A host that holds two events of the guest, and a clone of the first. -/
def twoEvents : Host 1 where
  store := {
    memory := Bytes.zeros pageSize
    globals := #[4240]
    registries := #v[{
      name := resourceName
      resources := #[⟨4096, 2, false, 2⟩, ⟨4168, 1, false, 2⟩]
      table := { slots := #[.free 1], head := 0, live := 0 }
      destructor := some 2 }] }
  held := #v[#[some 0, some 1, some 0]]

theorem wraps_twoEvents {event : EventReference} (wrapped : twoEvents.store.Wraps event) :
    event = { kind := eventKind, identity := 0 } ∨
      event = { kind := eventKind, identity := 1 } := by
  have small : event.identity < 2 := by
    obtain ⟨kind, identity⟩ := event
    obtain rfl : kind = eventKind := Subsingleton.elim _ _
    exact wrapped
  rcases Nat.le_one_iff_eq_zero_or_eq_one.mp (Nat.le_of_lt_succ small) with first | second
  · exact .inl (eq_of_identity first)
  · exact .inr (eq_of_identity second)

theorem orderly_twoEvents {plan : List Nat} (fits : 4240 + plan.sum ≤ pageSize) :
    Orderly plan {} twoEvents.store := by
  have layout : Layout 4240 plan [] twoEvents.store := by
    refine ⟨⟨1, by decide, rfl⟩, rfl, by decide, fits, nofun, ?_, nofun, ?_⟩
    · intro event wrapped
      rcases wraps_twoEvents wrapped with rfl | rfl <;> decide
    · intro event other wrapped wrappedToo different
      rcases wraps_twoEvents wrapped with rfl | rfl <;>
        rcases wraps_twoEvents wrappedToo with rfl | rfl
      · exact absurd rfl different
      · exact .inl (by decide)
      · exact .inr (by decide)
      · exact absurd rfl different
  refine ⟨4240, layout, fun event field wrapped => ?_⟩
  have between := (layout.slotAddress_between wrapped field).2
  have inside : slotAddress twoEvents.store event field + 8 ≤ pageSize :=
    Nat.le_trans between (by decide)
  exact ⟨Bytes.hasWord_zeros (by omega), Bytes.hasWord_zeros (by omega)⟩

end RecordGuest

end GuestBoundary.Event
