import GuestBoundary.Codec
import GuestBoundary.Engine

/-!
# Sessions

A session is one running guest that exchanges events with its host: it makes them, answers what
their fields are, and handles them.

## Attributes

The vocabulary of events: their text attributes, in the order in which guests declare them, and
the codes with which a guest's handler rejects an event.
-/

namespace GuestBoundary.Event

inductive Attribute where
  | id
  | source
  | specversion
  | type
  | datacontenttype
  | dataschema
  | subject
  | time
deriving DecidableEq, Repr

namespace Attribute

def all : List Attribute :=
  [id, source, specversion, type, datacontenttype, dataschema, subject, time]

def index : Attribute → Fin 8
  | id => 0
  | source => 1
  | specversion => 2
  | type => 3
  | datacontenttype => 4
  | dataschema => 5
  | subject => 6
  | time => 7

/-- The attribute's name in an event and in the names of its accessors. -/
def name : Attribute → String
  | id => "id"
  | source => "source"
  | specversion => "specversion"
  | type => "type"
  | datacontenttype => "datacontenttype"
  | dataschema => "dataschema"
  | subject => "subject"
  | time => "time"

def ofName? (name : String) : Option Attribute := all.find? (·.name = name)

@[simp]
theorem all_index (field : Attribute) : all[field.index] = field := by
  cases field <;> rfl

end Attribute

/-- How a handler turns an event down. -/
inductive Rejection where
  | success
  | error
deriving DecidableEq, Repr

namespace Rejection

def message : Rejection → String
  | success => "success"
  | error => "event rejected by guest"

instance : ErrorCode Rejection where
  name := "error"
  ofCode? code := if code = 0 then some success else if code = 1 then some error else none
  code
    | success => 0
    | error => 1

instance : LawfulErrorCode Rejection where
  ofCode?_eq_some_iff code member := by
    cases member <;> simp only [ErrorCode.ofCode?, ErrorCode.code] <;> grind

end Rejection

/-!
## The contract

The contract of an event guest: what it has to export, under which name and with which signature.
Every export is looked up before the first event exists, in a fixed order, and the first one that
is missing or of another type fails the whole guest; the destructor is bound last, so no resource
can be wrapped before the guest is known to keep the contract.
-/

def resourceName : String := "cloudevent"

/-- Events are the only kind of resource. -/
def eventKind : Fin 1 := ⟨0, Nat.one_pos⟩

structure Accessors where
  getter : FunctionId
  setter : FunctionId
deriving DecidableEq, Repr

structure Contract where
  realloc : FunctionId
  free : FunctionId
  create : FunctionId
  attributes : Vector Accessors 8
  data : Accessors
  handler : FunctionId

namespace Contract

variable {kinds : Nat} (running : Instance kinds)

def accessors (fieldName : String) : Except Fault Accessors := do
  let getter ← running.typedExport (resourceName ++ "::get-" ++ fieldName) (.words 1)
  let setter ← running.typedExport (resourceName ++ "::set-" ++ fieldName) (.wordsToUnit 3)
  return { getter, setter }

def accessorsOf (contract : Contract) (field : Attribute) : Accessors :=
  contract.attributes[field.index]

/-- Looks up every function of the contract, and the destructor. -/
def resolve (names : Names) : Except Fault (Contract × FunctionId) := do
  unless running.program.exportsMemory names.memory do throw (.missingExport names.memory)
  let realloc ← running.typedExport names.realloc (.words 4)
  let free ← running.typedExport names.free (.wordsToUnit 3)
  let create ← running.typedExport (resourceName ++ "::create") (.words 0)
  let attributes ← Vector.ofFnM fun index => accessors running Attribute.all[index].name
  let data ← accessors running "data"
  let handler ← running.typedExport "ce-handler" (.words 1)
  let destructor ← running.typedExport (names.dropExport resourceName) (.wordsToUnit 1)
  return ({ realloc, free, create, attributes, data, handler }, destructor)

end Contract

/-!
## Operations

A session is one running guest that keeps the event contract. Its operations lower what the guest
needs, call the guest, and lift what comes back; each trusts nothing that the guest returned. A
handle that the guest receives stands for a reference of its own, which the guest gives back.
-/

/-- The store of a session: events are its only kind of resource. -/
abbrev EventStore := Store 1

abbrev EventReference := Reference 1

/-- A running guest with its contract. -/
structure Session where
  running : Instance 1
  contract : Contract

def freshStore (configuration : Configuration) : EventStore :=
  .ofNames #v[resourceName] configuration.maxMemory

namespace Session

/-- Links and starts a program, looks up its contract, and binds its destructor. -/
def start (engine : Engine 1) (configuration : Configuration) (program : Program 1) :
    Attempt EventStore Session := do
  let names := configuration.names
  let linker ← .ofExcept (Linker.register {} names.importNamespace resourceName)
  let running ← linker.instantiate engine program
  let (contract, destructor) ← .ofExcept (Contract.resolve running names)
  Store.bindDestructor eventKind destructor
  return { running, contract }

variable (session : Session)

def guestMemory : GuestMemory EventStore where
  bytes := Store.memory
  setBytes memory store := { store with memory }
  realloc oldAddress oldLength align newLength :=
    session.running.call session.contract.realloc [oldAddress, oldLength, align, newLength]
  free address length align :=
    discard (session.running.call session.contract.free [address, length, align])

def create : Attempt EventStore EventReference := do
  let handle ← session.running.call session.contract.create []
  Store.unpark eventKind handle

def callSetter (setter : FunctionId) (event : EventReference) (value : Word × Word) :
    Attempt EventStore Unit := do
  let handle ← Store.lower event
  discard (session.running.call setter [handle, value.1, value.2])

/-- Sets a text attribute: the bytes are in place before the handle is parked. -/
def set (event : EventReference) (field : Attribute) (value : String) :
    Attempt EventStore Unit := do
  let lowered ← session.guestMemory.lowerText value
  session.callSetter (session.contract.accessorsOf field).setter event lowered

def setData (event : EventReference) (data : List UInt8) : Attempt EventStore Unit := do
  let lowered ← session.guestMemory.lowerBytes data
  session.callSetter session.contract.data.setter event lowered

/-- Calls a getter, copies what it returned out of the guest, and then frees it. -/
def callGetter {α : Type} (getter : FunctionId) (event : EventReference)
    (lift : Bytes → Word → Word → Except Fault α) : Attempt EventStore α := do
  let handle ← Store.lower event
  let area ← session.running.call getter [handle]
  let address ← session.guestMemory.examine (·.load area 0)
  let length ← session.guestMemory.examine (·.load area returnAreaOffset)
  let value ← session.guestMemory.examine (lift · address length)
  session.guestMemory.free address length 1
  return value

def get (event : EventReference) (field : Attribute) : Attempt EventStore String :=
  session.callGetter (session.contract.accessorsOf field).getter event liftText

def getData (event : EventReference) : Attempt EventStore (List UInt8) :=
  session.callGetter session.contract.data.getter event liftBytes

/-- Hands an event to the guest's handler, which answers with an event or a rejection. -/
def handle (event : EventReference) : Attempt EventStore (Except Rejection EventReference) := do
  let handle ← Store.lower event
  let area ← session.running.call session.contract.handler [handle]
  let raw ← session.guestMemory.examine (RawVariant.load · area returnAreaOffset)
  raw.intoResult (Store.unpark eventKind)

def release (event : EventReference) : Attempt EventStore Unit :=
  Store.release session.running.enter event

/-- Gives back every reference that the guest still holds; the first fault is the answer. -/
def close : Attempt EventStore Unit := do
  let references ← Store.unparkAll eventKind
  modify (Store.launch references)
  Store.releaseAll session.running.enter references

end Session

/-- Drops the store of a session, which reports a leak if the guest still holds a handle. -/
def dispose : Attempt EventStore Unit := do
  match (← get).leak? eventKind with
  | some leak => throw leak
  | none => return ()

/-- Closes a session and drops its store; a leak hides the outcome of closing. -/
def Session.closeAndDispose (session : Session) : Attempt EventStore Unit := do
  let closed ← session.close.settle
  dispose
  .ofExcept closed

end GuestBoundary.Event
