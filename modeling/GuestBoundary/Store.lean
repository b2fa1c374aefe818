import GuestBoundary.Attempt
import GuestBoundary.Guest.Program
import GuestBoundary.Memory.Bytes
import GuestBoundary.Slab

/-!
# The store

The store holds everything that host and guest share: the guest's memory and globals, and for each
kind of resource a registry. A registry keeps one record for every resource ever wrapped and a
table of handles; each occupied slot of the table is itself a counted reference.

References are plain values that name a record. Copying one without counting is possible, and the
record notices only when it is given back too often.
-/

namespace GuestBoundary

abbrev FunctionId := Nat

/-- What the host knows of a resource. -/
structure Resource where
  representation : Word
  references : Nat
  /-- Set before the guest destroys it, and never cleared. -/
  destroyed : Bool
  /-- The guest function that destroys it, fixed when it was wrapped. -/
  destructor : FunctionId
deriving DecidableEq, Repr

namespace Resource

/-- What a reference to no record shows: a resource that is gone. -/
def absent : Resource :=
  { representation := 0, references := 0, destroyed := true, destructor := 0 }

end Resource

/-- A reference to a resource of one of `kinds` kinds. -/
structure Reference (kinds : Nat) where
  kind : Fin kinds
  identity : Nat
deriving DecidableEq, Repr

structure Registry where
  name : String
  resources : Array Resource := #[]
  /-- The references that handles stand for. -/
  table : Slab Nat := ∅
  destructor : Option FunctionId := none

/-- A call into the guest. -/
structure Call (kinds : Nat) where
  function : FunctionId
  arguments : List Word
  /-- The resource that a destructor is called for. -/
  onBehalfOf : Option (Reference kinds) := none
deriving DecidableEq, Repr

def Resource.destructorCall {kinds : Nat} (resource : Resource) (reference : Reference kinds) :
    Call kinds :=
  { function := resource.destructor
    arguments := [resource.representation]
    onBehalfOf := some reference }

/-- What giving a reference back comes to. -/
inductive Verdict (kinds : Nat) where
  /-- The resource was destroyed before; the reference is refused. -/
  | refused
  /-- Other references to the resource remain. -/
  | shared
  /-- It was the last reference, and its destructor is called. -/
  | last (call : Call kinds)
deriving DecidableEq, Repr

/-- What a store remembers of the past. -/
inductive Occurrence (kinds : Nat) where
  /-- A function was bound to destroy the resources of a kind that are wrapped from now on. -/
  | bound (kind : Fin kinds) (function : FunctionId)
  | wrapped (reference : Reference kinds) (resource : Resource)
  | released (reference : Reference kinds) (verdict : Verdict kinds)
  /-- The guest was called; without enough stack the call did not get in. -/
  | called (call : Call kinds) (entered : Bool)
deriving DecidableEq, Repr

/-- The state shared by a host and a guest. -/
structure Store (kinds : Nat) where
  memory : Bytes := {}
  memoryLimit : Option Nat := none
  globals : Array Word := #[]
  registries : Vector Registry kinds
  log : Array (Occurrence kinds) := #[]
  /-- The references taken out of a table that have yet to be given back. -/
  inFlight : List (Reference kinds) := []

namespace Store

variable {kinds : Nat}

def ofNames (names : Vector String kinds) (memoryLimit : Option Nat) : Store kinds :=
  { registries := names.map fun name => { name }, memoryLimit }

def registry (store : Store kinds) (kind : Fin kinds) : Registry := store.registries[kind]

def onRegistry (kind : Fin kinds) (change : Registry → Registry) (store : Store kinds) :
    Store kinds :=
  { store with registries := store.registries.set kind (change (store.registry kind)) }

def resource (store : Store kinds) (reference : Reference kinds) : Resource :=
  (store.registry reference.kind).resources.getD reference.identity .absent

def onResource (reference : Reference kinds) (change : Resource → Resource) :
    Store kinds → Store kinds :=
  onRegistry reference.kind fun registry =>
    { registry with resources := registry.resources.modify reference.identity change }

def withTable (kind : Fin kinds) (table : Slab Nat) : Store kinds → Store kinds :=
  onRegistry kind fun registry => { registry with table }

def addResource (kind : Fin kinds) (resource : Resource) : Store kinds → Store kinds :=
  onRegistry kind fun registry =>
    { registry with resources := registry.resources.push resource }

def note (occurrence : Occurrence kinds) (store : Store kinds) : Store kinds :=
  { store with log := store.log.push occurrence }

/-- Counts references as in flight until they are given back. -/
def launch (references : List (Reference kinds)) (store : Store kinds) : Store kinds :=
  { store with inFlight := references ++ store.inFlight }

def land (reference : Reference kinds) (store : Store kinds) : Store kinds :=
  { store with inFlight := store.inFlight.erase reference }

/-- The references in the table of a kind, in the order of their handles. -/
def parked (store : Store kinds) (kind : Fin kinds) : List (Reference kinds) :=
  (store.registry kind).table.values.map fun identity => { kind, identity }

def outstanding (store : Store kinds) (kind : Fin kinds) : Nat := (store.registry kind).table.size

/-- What dropping the table as it is would report: a leak of its lowest handle. -/
def leak? (store : Store kinds) (kind : Fin kinds) : Option Fault :=
  (store.parked kind).head?.map fun reference =>
    .leaked (store.registry kind).name (store.resource reference).representation

end Store

/-!
## References and handles

What a host does with references and handles. Wrapping makes a record with one reference; counting
a second reference, parking a reference under a handle and taking it back are separate steps, and
the host's larger operations are sequences of them.
-/

namespace Store

variable {kinds : Nat}

/-- The function that will destroy the next resource of a kind, or the fault that none is bound. -/
def boundDestructor (kind : Fin kinds) : Attempt (Store kinds) FunctionId :=
  .examine fun store =>
    let registry := store.registry kind
    match registry.destructor with
    | some function => .ok function
    | none => .error (.missingExport ("drop entry point for `" ++ registry.name ++ "`"))

/-- Binds the function that destroys resources wrapped from now on. -/
def bindDestructor (kind : Fin kinds) (function : FunctionId) : Attempt (Store kinds) Unit := do
  modify (onRegistry kind fun registry => { registry with destructor := some function })
  modify (note (.bound kind function))

def wrap (kind : Fin kinds) (representation : Word) (destructor : FunctionId) :
    Attempt (Store kinds) (Reference kinds) := do
  let reference := { kind, identity := ((← get).registry kind).resources.size }
  let resource := { representation, references := 1, destroyed := false, destructor }
  modify (addResource kind resource)
  modify (note (.wrapped reference resource))
  return reference

def wrapBound (kind : Fin kinds) (representation : Word) :
    Attempt (Store kinds) (Reference kinds) := do
  wrap kind representation (← boundDestructor kind)

/-- Counts one more reference to the same resource. -/
def duplicate (reference : Reference kinds) : Attempt (Store kinds) (Reference kinds) := do
  modify (onResource reference fun resource =>
    { resource with references := resource.references + 1 })
  return reference

def park (reference : Reference kinds) : Attempt (Store kinds) Word := do
  let (handle, table) := ((← get).registry reference.kind).table.put reference.identity
  modify (withTable reference.kind table)
  return handle

def peek (kind : Fin kinds) (handle : Word) : Attempt (Store kinds) (Reference kinds) :=
  .examine fun store =>
    ((store.registry kind).table.fetch handle).map fun identity => { kind, identity }

def unpark (kind : Fin kinds) (handle : Word) : Attempt (Store kinds) (Reference kinds) := do
  let (identity, table) ← .examine fun store => (store.registry kind).table.take handle
  modify (withTable kind table)
  return { kind, identity }

def unparkAll (kind : Fin kinds) : Attempt (Store kinds) (List (Reference kinds)) := do
  let (identities, table) := ((← get).registry kind).table.drain
  modify (withTable kind table)
  return identities.map fun identity => { kind, identity }

/-- Parks a new reference to the same resource, for the guest to own. -/
def lower (reference : Reference kinds) : Attempt (Store kinds) Word := do
  park (← duplicate reference)

end Store

/-!
## Release and the lifecycle functions

Giving references back, and the lifecycle functions that a guest imports. Both enter the guest
again to destroy a resource, so the way in is an argument, `enter`: a call that changes the store
and ends with a word or an abort.

A release first refuses a resource that is already destroyed, then counts down, and on the last
reference marks the resource destroyed before its destructor runs. So whatever the destructor
does, it meets a resource that cannot be destroyed a second time.
-/

/-- Work inside the engine, which ends early with an abort. -/
abbrev GuestRun (kinds : Nat) := Work Abort (Store kinds)

abbrev Entry (kinds : Nat) := Call kinds → GuestRun kinds Word

namespace GuestRun

variable {kinds : Nat} {α : Type}

/-- Host work done inside the engine: its faults abort the guest. -/
def ofHost (attempt : Attempt (Store kinds) α) : GuestRun kinds α :=
  ExceptT.adapt Fault.abort attempt

/-- Guest work as the host sees it: faults raised inside come out as themselves. -/
def toHost (work : GuestRun kinds α) : Attempt (Store kinds) α := ExceptT.adapt Abort.recover work

end GuestRun

namespace Store

variable {kinds : Nat}

/-- Gives a reference back; the last one destroys the resource. -/
def release (enter : Entry kinds) (reference : Reference kinds) :
    Attempt (Store kinds) Unit := do
  let store ← get
  let resource := store.resource reference
  if resource.destroyed then
    modify (note (.released reference .refused))
    throw (.doubleDrop (store.registry reference.kind).name resource.representation)
  modify (onResource reference fun resource =>
    { resource with references := resource.references - 1 })
  if resource.references = 1 then
    modify (onResource reference fun resource => { resource with destroyed := true })
    let call := resource.destructorCall reference
    modify (note (.released reference (.last call)))
    discard (enter call).toHost
  else modify (note (.released reference .shared))

/-- Gives references in flight back one after the other, whatever fails, and keeps the first
fault. -/
def releaseAll (enter : Entry kinds) : List (Reference kinds) → Attempt (Store kinds) Unit
  | [] => return ()
  | reference :: rest => do
      modify (land reference)
      let first ← (release enter reference).settle
      let later ← (releaseAll enter rest).settle
      .ofExcept (first *> later)

/-- The lifecycle functions that the guest imports, as the host performs them. -/
def lifecycle (enter : Entry kinds) (kind : Fin kinds) :
    Lifecycle → Word → Attempt (Store kinds) Word
  | .new, representation => do park (← wrapBound kind representation)
  | .clone, handle => do lower (← peek kind handle)
  | .get, handle => do
      let reference ← peek kind handle
      return ((← get).resource reference).representation
  | .drop, handle => do
      release enter (← unpark kind handle)
      return 0

end Store

end GuestBoundary
