import GuestBoundary.Memory.Scalar
import GuestBoundary.Utf8

/-!
# Faults

Faults are the causes for which work across the boundary fails. A fault raised while the guest is
running has to pass through the engine, which ends the enclosing guest calls with an `Abort` and
may add notes on the way out; `Abort.recover` finds the fault again below any notes, and
`Fault.abort` never wraps what is already the engine's.
-/

namespace GuestBoundary

mutual

/-- The cause of a failure. -/
inductive Fault where
  | outOfBounds (address : Word) (length : UInt64) (memorySize : Nat)
  /-- A length that the guest cannot represent. -/
  | lengthOverflow (length : Nat)
  /-- Guest bytes that are no text. -/
  | encoding (flaw : Utf8.Flaw)
  | invalidHandle (handle : Word)
  /-- A discriminant or code outside the cases of its type. -/
  | invalidDiscriminant (type : String) (discriminant : Int32)
  | missingExport (name : String)
  | signatureMismatch (name : String) (reason : String)
  /-- A reference given back after its resource was destroyed. -/
  | doubleDrop (resource : String) (representation : Word)
  /-- Anything that the engine itself reports. -/
  | engine (abort : Abort)
  /-- A reference dropped without being given back; the host stops. -/
  | leaked (resource : String) (representation : Word)
  /-- The end of a range is no 64-bit number; the host stops. -/
  | sumOverflow
  /-- The size of a list is no 64-bit number; the host stops. -/
  | productOverflow
deriving DecidableEq

/-- What ends a guest call early. -/
inductive Abort where
  /-- A failure of the engine or of the guest: a trap, a link error. -/
  | failure (text : String)
  /-- A fault that a host function raised. -/
  | raised (fault : Fault)
  | note (text : String) (inner : Abort)
deriving DecidableEq

end

namespace Abort

/-- The fault below all notes, if a host function raised one. -/
def fault? : Abort → Option Fault
  | failure _ => none
  | raised fault => some fault
  | note _ inner => inner.fault?

/-- What the host sees of an abort: the raised fault itself, or else the abort as the engine's. -/
def recover (abort : Abort) : Fault := abort.fault?.getD (.engine abort)

def withNotes (notes : List String) (abort : Abort) : Abort :=
  notes.foldl (fun inner text => .note text inner) abort

end Abort

namespace Fault

/-- How a fault enters the engine; an engine failure goes back as it came. -/
def abort : Fault → Abort
  | engine abort => abort
  | fault => .raised fault

def failure (text : String) : Fault := .engine (.failure text)

/-- Lower-case hexadecimal digits after `0x`. -/
def hexadecimal (address : Word) : String :=
  "0x" ++ String.ofList (Nat.toDigits 16 address.toNat)

end Fault

mutual

def Fault.message : Fault → String
  | .outOfBounds address length memorySize =>
      "out-of-bounds guest memory access: " ++ toString length.toNat ++ " bytes at " ++
        Fault.hexadecimal address ++ ", memory is " ++ toString memorySize ++ " bytes"
  | .lengthOverflow length =>
      "length " ++ toString length ++ " does not fit the 32-bit guest address space"
  | .encoding flaw => "invalid utf-8 in guest string: " ++ flaw.message
  | .invalidHandle handle => "invalid handle " ++ toString handle.toNat
  | .invalidDiscriminant type discriminant =>
      "invalid discriminant " ++ toString discriminant.toInt ++ " for `" ++ type ++ "`"
  | .missingExport name => "guest does not export '" ++ name ++ "'"
  | .signatureMismatch name reason =>
      "guest export '" ++ name ++ "' has an unexpected signature: " ++ reason
  | .doubleDrop resource representation =>
      "`" ++ resource ++ "` resource " ++ toString representation.signed ++
        " dropped after it was destroyed"
  | .engine abort => abort.message
  | .leaked resource representation =>
      "`" ++ resource ++ "` resource " ++ toString representation.signed ++ " leaked"
  | .sumOverflow => "attempt to add with overflow"
  | .productOverflow => "attempt to multiply with overflow"

/-- An abort shows its outermost note, or what it was made of. -/
def Abort.message : Abort → String
  | .failure text => text
  | .raised fault => fault.message
  | .note text _ => text

end

/-- What an abort says below its outermost note. -/
def Abort.cause? : Abort → Option String
  | .failure _ => none
  | .raised _ => none
  | .note _ inner => some inner.message

/-- The text of what caused a fault, where something else did. -/
def Fault.cause? : Fault → Option String
  | .encoding flaw => some flaw.message
  | .engine abort => abort.cause?
  | _ => none

end GuestBoundary
