import GuestBoundary.Proofs.Event.Records
import GuestBoundary.Proofs.Parts

/-!
# The exports behind a contract

A contract that was looked up has only functions that the guest exports, each under its name and
with its type.
-/

namespace GuestBoundary

/-- Where all elements of a vector were worked out, each of them was. -/
theorem Vector.of_ofFnM_eq_ok {ε α : Type} {count : Nat} {item : Fin count → Except ε α}
    {items : Vector α count} (done : Vector.ofFnM item = .ok items) (index : Fin count) :
    item index = .ok (items.get index) := by
  induction count with
  | zero => exact index.elim0
  | succ count inductionHypothesis =>
      rw [Vector.ofFnM_succ] at done
      obtain ⟨earlier, first, done⟩ := Except.of_bind_eq_ok done
      obtain ⟨last, second, done⟩ := Except.of_bind_eq_ok done
      cases done
      cases index using Fin.lastCases with
      | last => exact second.trans (congrArg Except.ok Vector.getElem_push_eq.symm)
      | cast index =>
          exact (inductionHypothesis first index).trans
            (congrArg Except.ok (Vector.getElem_push_lt index.isLt).symm)

namespace Event

/-- The name of a field in the names of its accessors. -/
def Field.name : Field → String
  | .text name => name.name
  | .data => "data"

namespace Contract

/-- The functions of a contract are the guest's exports of these names and types. -/
structure Exported (running : Instance 1) (names : Names) (contract : Contract) : Prop where
  realloc : running.typedExport names.realloc (.words 4) = .ok contract.realloc
  free : running.typedExport names.free (.wordsToUnit 3) = .ok contract.free
  getter (field : Field) :
    running.typedExport (resourceName ++ "::get-" ++ field.name) (.words 1) =
      .ok (contract.fieldAccessors field).getter
  setter (field : Field) :
    running.typedExport (resourceName ++ "::set-" ++ field.name) (.wordsToUnit 3) =
      .ok (contract.fieldAccessors field).setter

variable {running : Instance 1}

theorem of_accessors {fieldName : String} {found : Accessors}
    (resolved : accessors running fieldName = .ok found) :
    running.typedExport (resourceName ++ "::get-" ++ fieldName) (.words 1) = .ok found.getter ∧
      running.typedExport (resourceName ++ "::set-" ++ fieldName) (.wordsToUnit 3) =
        .ok found.setter := by
  obtain ⟨getter, first, resolved⟩ := Except.of_bind_eq_ok resolved
  obtain ⟨setter, second, resolved⟩ := Except.of_bind_eq_ok resolved
  cases resolved
  exact ⟨first, second⟩

theorem exported_of_resolve {names : Names} {contract : Contract} {destructor : FunctionId}
    (resolved : resolve running names = .ok (contract, destructor)) :
    contract.Exported running names := by
  unfold resolve at resolved
  split at resolved
  next =>
    obtain ⟨realloc, reallocFound, resolved⟩ := Except.of_bind_eq_ok resolved
    obtain ⟨free, freeFound, resolved⟩ := Except.of_bind_eq_ok resolved
    obtain ⟨create, -, resolved⟩ := Except.of_bind_eq_ok resolved
    obtain ⟨attributes, attributesFound, resolved⟩ := Except.of_bind_eq_ok resolved
    obtain ⟨data, dataFound, resolved⟩ := Except.of_bind_eq_ok resolved
    obtain ⟨handler, -, resolved⟩ := Except.of_bind_eq_ok resolved
    obtain ⟨function, -, resolved⟩ := Except.of_bind_eq_ok resolved
    cases resolved
    have found (field : Field) : accessors running field.name =
        .ok (fieldAccessors { realloc, free, create, attributes, data, handler } field) := by
      cases field with
      | data => exact dataFound
      | text name =>
          have looked := Vector.of_ofFnM_eq_ok attributesFound name.index
          rw [Attribute.all_index] at looked
          exact looked
    exact {
      realloc := reallocFound
      free := freeFound
      getter := fun field => (of_accessors (found field)).1
      setter := fun field => (of_accessors (found field)).2 }
  next => cases resolved

section

variable {other : Instance 1} (same : other.program = running.program)

include same

theorem typedExport_of_same {name : String} {signature : Signature} {function : FunctionId}
    (found : running.typedExport name signature = .ok function) :
    other.typedExport name signature = .ok function := by
  unfold Instance.typedExport at found ⊢
  rw [same]
  split at found
  next => cases found
  next =>
    split at found
    next fits => exact (if_pos fits).trans found
    next => cases found

theorem accessors_of_same {fieldName : String} {found : Accessors}
    (resolved : accessors running fieldName = .ok found) :
    accessors other fieldName = .ok found := by
  obtain ⟨getter, setter⟩ := of_accessors resolved
  rw [accessors, typedExport_of_same same getter]
  change (other.typedExport _ _ >>= _) = _
  rw [typedExport_of_same same setter]
  rfl

/-- What a contract finds in a guest is there whatever engine runs it. -/
theorem resolve_of_same {names : Names} {found : Contract × FunctionId}
    (resolved : resolve running names = .ok found) : resolve other names = .ok found := by
  unfold resolve at resolved ⊢
  rw [same]
  split at resolved
  next memory =>
    obtain ⟨realloc, reallocFound, resolved⟩ := Except.of_bind_eq_ok resolved
    obtain ⟨free, freeFound, resolved⟩ := Except.of_bind_eq_ok resolved
    obtain ⟨create, createFound, resolved⟩ := Except.of_bind_eq_ok resolved
    obtain ⟨attributes, attributesFound, resolved⟩ := Except.of_bind_eq_ok resolved
    obtain ⟨data, dataFound, resolved⟩ := Except.of_bind_eq_ok resolved
    obtain ⟨handler, handlerFound, resolved⟩ := Except.of_bind_eq_ok resolved
    obtain ⟨function, functionFound, resolved⟩ := Except.of_bind_eq_ok resolved
    have each : (fun index : Fin 8 => accessors other Attribute.all[index].name) =
        fun index : Fin 8 => accessors running Attribute.all[index].name := by
      funext index
      have looked := Vector.of_ofFnM_eq_ok attributesFound index
      rw [looked, accessors_of_same same looked]
    rw [if_pos memory, typedExport_of_same same reallocFound,
      typedExport_of_same same freeFound, typedExport_of_same same createFound, each,
      attributesFound, accessors_of_same same dataFound, typedExport_of_same same handlerFound,
      typedExport_of_same same functionFound]
    exact resolved
  next => cases resolved

end

end Contract

end Event

end GuestBoundary
