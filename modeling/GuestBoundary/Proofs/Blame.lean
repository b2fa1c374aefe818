import GuestBoundary.Codec
import GuestBoundary.Fault

/-!
# What faults go back to

A fault may have passed through the engine any number of times. Nothing on that way hides what it
goes back to or makes it up. A refused reference is reported by a fault of its own, and so is an
export that is missing; work that only looks at values has faults of other kinds, which neither go
back to a reference nor have been in the engine.
-/

namespace GuestBoundary

mutual

/-- The fault that was raised first, below the engine and its notes. -/
def Fault.root : Fault → Fault
  | .engine abort => abort.root
  | fault => fault

@[inherit_doc Fault.root]
def Abort.root : Abort → Fault
  | .failure text => .failure text
  | .raised fault => fault.root
  | .note _ inner => inner.root

end

@[simp]
theorem Fault.root_abort (fault : Fault) : fault.abort.root = fault.root := by
  cases fault <;> rfl

theorem Abort.root_of_fault? {fault : Fault} : (abort : Abort) → abort.fault? = some fault →
    abort.root = fault.root
  | .raised _, found => congrArg Fault.root (Option.some.inj found)
  | .note _ inner, found => inner.root_of_fault? found

@[simp]
theorem Abort.root_recover (abort : Abort) : abort.recover.root = abort.root := by
  unfold Abort.recover
  cases raised : abort.fault? with
  | none => rfl
  | some fault => exact (abort.root_of_fault? raised).symm

@[simp]
theorem Abort.root_withNotes (notes : List String) (abort : Abort) :
    (abort.withNotes notes).root = abort.root := by
  unfold Abort.withNotes
  induction notes generalizing abort with
  | nil => rfl
  | cons note notes inductionHypothesis =>
      rw [List.foldl_cons, inductionHypothesis]
      rfl

mutual

/-- Whether a fault goes back to a reference that was refused. -/
def Fault.isDoubleDrop : Fault → Bool
  | .doubleDrop .. => true
  | .engine abort => abort.isDoubleDrop
  | _ => false

/-- Whether an abort goes back to a reference that was refused. -/
def Abort.isDoubleDrop : Abort → Bool
  | .failure _ => false
  | .raised fault => fault.isDoubleDrop
  | .note _ inner => inner.isDoubleDrop

end

mutual

theorem Fault.isDoubleDrop_root : (fault : Fault) →
    fault.root.isDoubleDrop = fault.isDoubleDrop
  | .engine abort => abort.isDoubleDrop_root
  | .outOfBounds .. | .lengthOverflow _ | .encoding _ | .invalidHandle _
  | .invalidDiscriminant .. | .missingExport _ | .signatureMismatch .. | .doubleDrop ..
  | .leaked .. | .sumOverflow | .productOverflow => rfl

theorem Abort.isDoubleDrop_root : (abort : Abort) →
    abort.root.isDoubleDrop = abort.isDoubleDrop
  | .failure _ => rfl
  | .raised fault => fault.isDoubleDrop_root
  | .note _ inner => inner.isDoubleDrop_root

end

/-- Whether a fault is raised for an export that is missing or has another signature. -/
def Fault.isLookup : Fault → Bool
  | .missingExport _ | .signatureMismatch .. => true
  | _ => false

/-- Whether a fault goes back to a lookup of an export. -/
def Fault.isOfLookup (fault : Fault) : Bool := fault.root.isLookup

/-- A fault that has not been in the engine and is none for a refused reference. -/
def Fault.isOwn : Fault → Bool
  | .doubleDrop .. => false
  | .engine (.failure _) => true
  | .engine _ => false
  | _ => true

theorem Fault.isDoubleDrop_of_isOwn : {fault : Fault} → fault.isOwn = true →
    fault.isDoubleDrop = false
  | .outOfBounds .., _ | .lengthOverflow _, _ | .encoding _, _ | .invalidHandle _, _
  | .invalidDiscriminant .., _ | .missingExport _, _ | .signatureMismatch .., _
  | .engine (.failure _), _ | .leaked .., _ | .sumOverflow, _ | .productOverflow, _ => rfl

/-- A result that, if it is a fault, is one of these. -/
def FaultsOnly {α : Type} (allowed : Fault → Bool) (result : Except Fault α) : Prop :=
  ∀ fault, result = .error fault → allowed fault = true

namespace FaultsOnly

variable {α β : Type} {allowed : Fault → Bool}

theorem ok (value : α) : FaultsOnly allowed (.ok value) := nofun

theorem error {fault : Fault} (permitted : allowed fault = true) :
    FaultsOnly allowed (.error fault : Except Fault α) := by
  rintro _ ⟨⟩
  exact permitted

theorem bind {result : Except Fault α} {next : α → Except Fault β}
    (first : FaultsOnly allowed result) (later : ∀ value, FaultsOnly allowed (next value)) :
    FaultsOnly allowed (result >>= next) := by
  cases result with
  | ok value => exact later value
  | error fault => exact error (first fault rfl)

end FaultsOnly

/-- A result that, if it is a fault, is one of its own. -/
def Innocent {α : Type} (result : Except Fault α) : Prop :=
  ∀ fault, result = .error fault → fault.isOwn = true

namespace Innocent

variable {α β : Type}

theorem ok (value : α) : Innocent (.ok value) := FaultsOnly.ok value

theorem error {fault : Fault} (own : fault.isOwn = true) :
    Innocent (.error fault : Except Fault α) :=
  FaultsOnly.error own

theorem bind {result : Except Fault α} {next : α → Except Fault β} (first : Innocent result)
    (later : ∀ value, Innocent (next value)) : Innocent (result >>= next) :=
  FaultsOnly.bind first later

end Innocent

/-!
## The faults of codecs

Reading and writing values in a guest's memory gives back no references and looks up no exports, so
no fault of a codec goes back to a refused reference or to an export that is missing.
-/

/-- A fault about values in a guest's memory. -/
def Fault.isCodec : Fault → Bool
  | .outOfBounds .. | .lengthOverflow _ | .encoding _ | .invalidDiscriminant .. | .sumOverflow
  | .productOverflow => true
  | _ => false

theorem Fault.isOwn_of_isCodec : {fault : Fault} → fault.isCodec = true → fault.isOwn = true
  | .outOfBounds .., _ | .lengthOverflow _, _ | .encoding _, _ | .invalidDiscriminant .., _
  | .sumOverflow, _ | .productOverflow, _ => rfl

/-- Faults about values in memory are about no export. -/
theorem Fault.isOfLookup_of_isCodec : {fault : Fault} → fault.isCodec = true →
    fault.isOfLookup = false
  | .outOfBounds .., _ | .lengthOverflow _, _ | .encoding _, _ | .invalidDiscriminant .., _
  | .sumOverflow, _ | .productOverflow, _ => rfl

theorem checkedRange_coded (memorySize : Nat) (address : Word) (length : UInt64) :
    FaultsOnly Fault.isCodec (checkedRange memorySize address length) := by
  unfold checkedRange
  dsimp only
  split
  next => exact .error rfl
  next =>
      split
      next => exact .error rfl
      next => exact .ok _

namespace Bytes

theorem slice_coded (memory : Bytes) (address : Word) (length : UInt64) :
    FaultsOnly Fault.isCodec (memory.slice address length) :=
  (checkedRange_coded _ _ _).bind fun _ => .ok _

theorem overwrite_coded (memory : Bytes) (address : Word) (length : UInt64)
    (data : List UInt8) : FaultsOnly Fault.isCodec (memory.overwrite address length data) :=
  (checkedRange_coded _ _ _).bind fun _ => .ok _

theorem load_coded {α : Type} [Scalar α] (memory : Bytes) (base offset : Word) :
    FaultsOnly Fault.isCodec (memory.load base offset : Except Fault α) :=
  (checkedRange_coded _ _ _).bind fun _ => .ok _

end Bytes

theorem guestLength_coded (length : Nat) : FaultsOnly Fault.isCodec (guestLength length) := by
  unfold guestLength
  split
  next => exact .ok _
  next => exact .error rfl

theorem liftText_coded (memory : Bytes) (address length : Word) :
    FaultsOnly Fault.isCodec (liftText memory address length) := by
  apply (memory.slice_coded _ _).bind
  intro bytes
  split
  next => exact .ok _
  next => exact .error rfl

theorem errorOfCode_coded (ε : Type) [ErrorCode ε] (code : Int32) :
    FaultsOnly Fault.isCodec (errorOfCode ε code) := by
  unfold errorOfCode
  split
  next => exact .ok _
  next => exact .error rfl

namespace RawVariant

theorem load_coded (memory : Bytes) (address offset : Word) :
    FaultsOnly Fault.isCodec (RawVariant.load memory address offset) :=
  (memory.load_coded _ _).bind fun _ => (memory.load_coded _ _).bind fun _ => .ok _

theorem case_coded (raw : RawVariant) (type : String) (cases : Word) :
    FaultsOnly Fault.isCodec (raw.case type cases) := by
  unfold RawVariant.case
  dsimp only
  split
  next => exact .ok _
  next => exact .error rfl

end RawVariant

end GuestBoundary
