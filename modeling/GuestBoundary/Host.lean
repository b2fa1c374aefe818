import GuestBoundary.Engine

/-!
# Hosts

A host at work: the store, and the references that the host holds for itself. The host numbers its
references of each kind in the order in which it got them; a number whose reference was given away
or given back stands for nothing from then on.

Every request of a host is a step on this state. Copying a reference without counting it is a
request too, so that hosts that break the rules can be described.
-/

namespace GuestBoundary

/-- The store and the references a host holds, by kind and number. -/
structure Host (kinds : Nat) where
  store : Store kinds
  held : Vector (Array (Option Nat)) kinds
  /-- The references that the host dropped without giving them back. -/
  leaked : List (Reference kinds) := []

inductive Refusal where
  | noReference
  | noFunction
  /-- The session is gone. -/
  | closed
  | fault (fault : Fault)
deriving DecidableEq

/-- A request at work: the state of the host survives a refusal. -/
abbrev HostRun (kinds : Nat) := Work Refusal (Host kinds)

namespace Host

variable {kinds : Nat} {α : Type}

def ofStore (store : Store kinds) : Host kinds := { store, held := Vector.replicate kinds #[] }

/-- What the numbers of one kind stand for. -/
def numbers (host : Host kinds) (kind : Fin kinds) : Array (Option Nat) := host.held.get kind

def onNumbers (kind : Fin kinds) (change : Array (Option Nat) → Array (Option Nat))
    (host : Host kinds) : Host kinds :=
  { host with held := host.held.set kind (change (host.numbers kind)) kind.isLt }

def attempt (work : Attempt (Store kinds) α) : HostRun kinds α := fun host => do
  let (outcome, store) ← (work.watched host.store).embed fun store => { host with store }
  return (outcome.mapError Refusal.fault, { host with store })

def reference (kind : Fin kinds) (number : Nat) : HostRun kinds (Reference kinds) := do
  match ((← get).numbers kind)[number]? with
  | some (some identity) => return { kind, identity }
  | _ => throw .noReference

def hold (reference : Reference kinds) : HostRun kinds Nat := do
  let number := ((← get).numbers reference.kind).size
  modify (onNumbers reference.kind (·.push (some reference.identity)))
  return number

/-- The reference under a number, which stands for nothing from now on. -/
def surrender (kind : Fin kinds) (number : Nat) : HostRun kinds (Reference kinds) := do
  let found ← reference kind number
  modify (onNumbers kind (·.setIfInBounds number none))
  return found

end Host

structure Inspection where
  kind : String
  representation : Word
  references : Nat
  destroyed : Bool
deriving DecidableEq, Repr

namespace Inspection

def line (inspection : Inspection) : String :=
  "Resource \x7b kind: \"" ++ inspection.kind ++ "\", rep: " ++
    toString inspection.representation.signed ++ ", refs: " ++ toString inspection.references ++
    ", destroyed: " ++ toString inspection.destroyed ++ " \x7d"

end Inspection

namespace Store

variable {kinds : Nat}

def inspect (store : Store kinds) (reference : Reference kinds) : Inspection :=
  let resource := store.resource reference
  { kind := (store.registry reference.kind).name
    representation := resource.representation
    references := resource.references
    destroyed := resource.destroyed }

end Store

/-!
## Requests

The requests that hosts of any guest can make: on the references they hold, on the table of a
kind, and on the guest's exports.
-/

inductive HoldingRequest where
  | inspect (number : Nat)
  /-- Counts and holds one more reference to the same resource. -/
  | clone (number : Nat)
  /-- Holds the same reference a second time without counting it. -/
  | alias (number : Nat)
  /-- Drops a reference without giving it back; the resource stays counted. -/
  | leak (number : Nat)
deriving DecidableEq, Repr

inductive TableRequest where
  | wrap (representation : Word)
  | release (number : Nat)
  /-- Parks a new reference for the guest. -/
  | lower (number : Nat)
  | lift (handle : Word)
  | peek (handle : Word)
  | insert (number : Nat)
  | drain
  | isEmpty
  | destructor
  | bind (name : String)
deriving DecidableEq, Repr

inductive Reply where
  | done
  | flag (value : Bool)
  | handle (handle : Word)
  | held (number : Nat)
  | allHeld (numbers : List Nat)
  | inspection (inspection : Inspection)
  | result (value : Option Word)
deriving DecidableEq, Repr

namespace Host

variable {kinds : Nat}

def serveHolding (kind : Fin kinds) : HoldingRequest → HostRun kinds Reply
  | .inspect number => do
      let found ← reference kind number
      return .inspection ((← get).store.inspect found)
  | .clone number => do
      let found ← reference kind number
      return .held (← hold (← attempt (Store.duplicate found)))
  | .alias number => do return .held (← hold (← reference kind number))
  | .leak number => do
      let found ← surrender kind number
      modify fun host => { host with leaked := found :: host.leaked }
      let inspection := (← get).store.inspect found
      throw (.fault (.leaked inspection.kind inspection.representation))

def serveTable (running : Instance kinds) (kind : Fin kinds) : TableRequest → HostRun kinds Reply
  | .wrap representation => do
      return .held (← hold (← attempt (Store.wrapBound kind representation)))
  | .release number => do
      let found ← surrender kind number
      attempt (Store.release running.enter found)
      return .done
  | .lower number => do
      let found ← reference kind number
      return .handle (← attempt (Store.lower found))
  | .lift handle => do return .held (← hold (← attempt (Store.unpark kind handle)))
  | .peek handle => do
      let found ← attempt (Store.peek kind handle)
      return .inspection ((← get).store.inspect found)
  | .insert number => do
      let found ← surrender kind number
      return .handle (← attempt (Store.park found))
  | .drain => do
      let found ← attempt (Store.unparkAll kind)
      return .allHeld (← found.mapM hold)
  | .isEmpty => do return .flag ((← get).store.outstanding kind = 0)
  | .destructor => do
      discard (attempt (Store.boundDestructor kind))
      return .flag true
  | .bind name => do
      let function ← attempt (.ofExcept (running.typedExport name (.wordsToUnit 1)))
      attempt (Store.bindDestructor kind function)
      return .done

def callExport (running : Instance kinds) (name : String) (arguments : List Word) :
    HostRun kinds Reply := do
  match running.program.exportedFunction? name with
  | none => throw .noFunction
  | some (function, signature) =>
      return .result (← attempt (running.callUntyped function signature arguments))

def findExport (running : Instance kinds) (name : String) (signature : Signature) :
    HostRun kinds Reply := do
  discard (attempt (.ofExcept (running.typedExport name signature)))
  return .flag true

end Host

end GuestBoundary
