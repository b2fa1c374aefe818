import GuestBoundary.Fault
import GuestBoundary.Guest.Program
import GuestBoundary.Store

/-!
# The engine

An engine links a guest to its host, starts it, and runs its calls, within the limits that the host
has configured.

## Configuration

What a host decides before it starts a guest: the names under which the two sides find each
other, and how much memory the guest may have.
-/

namespace GuestBoundary

structure Names where
  /-- Where the lifecycle functions of resources are imported from. -/
  importNamespace : String := "canonical_abi"
  memory : String := "memory"
  realloc : String := "canonical_abi_realloc"
  free : String := "canonical_abi_free"
  /-- Followed by a resource's name, the export that destroys it. -/
  dropPrefix : String := "canonical_abi_drop_"
deriving DecidableEq, Repr

namespace Names

def dropExport (names : Names) (resource : String) : String := names.dropPrefix ++ resource

end Names

structure Configuration where
  names : Names := {}
  /-- The greatest memory a guest may have, in bytes. -/
  maxMemory : Option Nat := none
  backtraces : Bool := false
deriving DecidableEq, Repr

namespace Configuration

def withImportNamespace (configuration : Configuration) (importNamespace : String) :
    Configuration :=
  { configuration with names := { configuration.names with importNamespace } }

def withNames (configuration : Configuration) (names : Names) : Configuration :=
  { configuration with names }

def withMaxMemory (configuration : Configuration) (bytes : Nat) : Configuration :=
  { configuration with maxMemory := some bytes }

def withBacktraces (configuration : Configuration) (backtraces : Bool) : Configuration :=
  { configuration with backtraces }

end Configuration

/-!
## Calls

The engine runs guest code against the store. Calls nest: code asks for a lifecycle function, the
host releases a resource, its destructor is called. All nested calls share one stack, from which
guest code takes frames and each nested call takes a fixed size; the engine aborts the innermost
call when too little is left. It may add notes to an abort on its way out of a call, and it never
changes what the abort carries.
-/

def pageSize : Nat := 65536

def maxPages : Nat := 65536

namespace Store

variable {kinds : Nat}

def trap {α : Type} (reason : String) : GuestRun kinds α := throw (.failure reason)

/-- Lets a call not get in for want of stack. -/
def turnAway {α : Type} (call : Call kinds) : GuestRun kinds α := do
  modify (note (.called call false))
  trap "call stack exhausted"

/-- The memory with `pages` more pages, if the limits allow it. -/
def grown? (store : Store kinds) (pages : Nat) : Option Bytes :=
  let size := store.memory.size + pages * pageSize
  if pages = 0 then some store.memory
  else if size ≤ maxPages * pageSize ∧ store.memoryLimit.all (size ≤ ·) then
    some (store.memory.extend size)
  else none

def execute (enter : Entry kinds) : (command : Command kinds) → GuestRun kinds command.Answer
  | .read address length => do
      let memory := (← get).memory
      if address + length ≤ memory.size then return memory.read ⟨address, address + length⟩
      else trap "out of bounds memory access"
  | .write address data => do
      if address + data.length ≤ (← get).memory.size then
        modify fun store => { store with memory := store.memory.write address data }
      else trap "out of bounds memory access"
  | .copy target source length => do
      let memory := (← get).memory
      if source + length ≤ memory.size ∧ target + length ≤ memory.size then
        modify fun store => { store with memory := store.memory.copy target source length }
      else trap "out of bounds memory access"
  | .pages => return UInt32.ofNat ((← get).memory.size / pageSize)
  | .grow pages => do
      let store ← get
      match store.grown? pages.toNat with
      | some memory =>
          set { store with memory }
          return UInt32.ofNat (store.memory.size / pageSize)
      | none => return -1
  | .readGlobal index => return (← get).globals.getD index 0
  | .writeGlobal index value =>
      modify fun store => { store with globals := store.globals.setIfInBounds index value }
  | .lifecycle action kind argument => .ofHost (lifecycle enter kind action argument)
  | .enterFrame _ | .leaveFrame _ => return ()

end Store

/-- Runs code against the store on `room` bytes of stack; `enter` is the way into the guest on
what is left of them. At each node the code can look at the store. -/
def Code.run {kinds : Nat} {α : Type} (enter : (room : Nat) → Entry kinds) :
    (room : Nat) → Code kinds α → GuestRun kinds α
  | _, .done value => do
      Work.expose
      return value
  | _, .trap reason => do
      Work.expose
      Store.trap reason
  | room, .perform command next => do
      Work.expose
      match command.roomAfter room with
      | some after => do (next (← Store.execute (enter room) command)).run enter after
      | none => Store.trap "call stack exhausted"

structure Engine (kinds : Nat) where
  stack : Nat
  callSize : Nat
  /-- The notes added to an abort that leaves a call, the last one outermost. -/
  notes : Call kinds → List String := fun _ => []
  /-- Why a function is not taken for one of the expected signature. -/
  mismatch : (expected actual : Signature) → String := fun _ _ => ""

/-- The engine of a host: each call that an abort leaves is noted, with backtraces by function, and
a mismatch is one of the parameters if they differ. -/
def Configuration.engine {kinds : Nat} (configuration : Configuration) : Engine kinds :=
  { stack := 512 * 1024 - 1024
    callSize := 5876
    notes := fun call =>
      if configuration.backtraces then ["in guest function " ++ toString call.function]
      else ["in guest code"]
    mismatch := fun expected actual =>
      if expected.parameters = actual.parameters then "type mismatch with results"
      else "type mismatch with parameters" }

namespace Engine

variable {kinds : Nat}

/-- A nested way into the guest, which takes its share of the stack first. -/
def nested (engine : Engine kinds) (enter : (room : Nat) → Entry kinds) :
    (room : Nat) → Entry kinds :=
  fun room call =>
    if room < engine.callSize then Store.turnAway call
    else enter (room - engine.callSize) call

/-- A way into the guest whose functions are `body`, for less than `depth` nested calls on `room`
bytes of stack. -/
def enter (engine : Engine kinds) (body : FunctionId → List Word → Code kinds Word) :
    (depth room : Nat) → Entry kinds
  | 0, _, call => Store.turnAway call
  | depth + 1, room, call => do
      modify (Store.note (.called call true))
      ExceptT.adapt (Abort.withNotes (engine.notes call))
        ((body call.function call.arguments).run (engine.nested (engine.enter body depth)) room)

end Engine

/-!
## Linking

Linking brings a program to life. A linker holds the host functions on offer, each under a
namespace and a name; the lifecycle functions of a resource kind are registered together. A
program is linked only if every import is on offer with exactly its signature, gets its initial
memory if that is within the limit, and is then started.
-/

namespace Lifecycle

def all : List Lifecycle := [new, clone, get, drop]

/-- The first part of the import's name, which the kind's name completes. -/
def stem : Lifecycle → String
  | new => "resource_new_"
  | clone => "resource_clone_"
  | get => "resource_get_"
  | drop => "resource_drop_"

def signature : Lifecycle → Signature
  | new | clone | get => .words 1
  | drop => .wordsToUnit 1

/-- The host function that a guest imports for resources of this name. -/
def hostFunction (action : Lifecycle) (space resource : String) : Import :=
  { space, name := action.stem ++ resource, signature := action.signature }

end Lifecycle

structure Linker where
  offered : List Import := []

namespace Linker

def define (linker : Linker) (function : Import) : Except Fault Linker :=
  let isTaken := linker.offered.any fun taken =>
    taken.space = function.space ∧ taken.name = function.name
  if isTaken then .error (.failure "function is defined twice")
  else .ok { offered := linker.offered ++ [function] }

def register (linker : Linker) (space resource : String) : Except Fault Linker :=
  Lifecycle.all.foldlM (fun linker action => linker.define (action.hostFunction space resource))
    linker

end Linker

structure Instance (kinds : Nat) where
  program : Program kinds
  engine : Engine kinds

namespace Instance

variable {kinds : Nat}

/-- The way into the guest from outside. No more calls nest than the stack has bytes. -/
def enter (running : Instance kinds) : Entry kinds :=
  running.engine.enter running.program.body (running.engine.stack + 1) running.engine.stack

def call (running : Instance kinds) (function : FunctionId) (arguments : List Word) :
    Attempt (Store kinds) Word :=
  (running.enter { function, arguments }).toHost

/-- The function that the guest exports under a name with a signature. What is wrong with another
signature is for the engine to say. -/
def typedExport (running : Instance kinds) (name : String) (signature : Signature) :
    Except Fault FunctionId :=
  match running.program.exportedFunction? name with
  | none => .error (.missingExport name)
  | some (function, actual) =>
      if actual = signature then .ok function
      else .error (.signatureMismatch name (running.engine.mismatch signature actual))

/-- Calls a function without knowing its signature: the arguments have to fit, and there is a
result only if the signature has one. -/
def callUntyped (running : Instance kinds) (function : FunctionId) (signature : Signature)
    (arguments : List Word) : Attempt (Store kinds) (Option Word) := do
  unless signature.parameters = arguments.map fun _ => .i32 do
    throw (.failure "wrong arguments")
  let result ← running.call function arguments
  return if signature.results.isEmpty then none else some result

end Instance

def Linker.instantiate {kinds : Nat} (linker : Linker) (engine : Engine kinds)
    (program : Program kinds) : Attempt (Store kinds) (Instance kinds) := do
  unless program.imports.all (linker.offered.contains ·) do
    throw (.failure "unknown import")
  let size := program.pages * pageSize
  unless program.pages ≤ maxPages ∧ (← get).memoryLimit.all (size ≤ ·) do
    throw (.failure "the initial memory exceeds the limit")
  modify fun store =>
    { store with memory := Bytes.zeros size, globals := program.globals }
  let running : Instance kinds := { program, engine }
  match program.start with
  | none => return running
  | some function =>
      discard (running.call function [])
      return running

end GuestBoundary
