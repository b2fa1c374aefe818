import Mathlib.Data.List.Nodup
import GuestBoundary.Proofs.Resource.Chronicle

/-!
# The destructor calls in a log

Each resource is due one call from the moment it is wrapped, with the destructor and the
representation that it was wrapped with. The calls that a log has made are those of the resources
that are destroyed by now. So they depend on the records of a store alone, and not on the order in
which its references were given back.
-/

namespace GuestBoundary

variable {kinds : Nat}

namespace Occurrence

/-- The call that is made to destroy a resource. -/
def destruction? : Occurrence kinds → Option (Call kinds)
  | .called call _ => if call.onBehalfOf.isSome then some call else none
  | _ => none

/-- The call that a resource is due from the moment it is wrapped. -/
def due? : Occurrence kinds → Option (Call kinds)
  | .wrapped reference resource => some (resource.destructorCall reference)
  | _ => none

end Occurrence

def destructions (log : List (Occurrence kinds)) : List (Call kinds) :=
  log.filterMap Occurrence.destruction?

def dues (log : List (Occurrence kinds)) : List (Call kinds) := log.filterMap Occurrence.due?

/-- The calls that are read off occurrences name the resources that these are about. -/
def Attributed (select : Occurrence kinds → Option (Call kinds)) : Prop :=
  ∀ occurrence call, select occurrence = some call →
    ∃ reference, call.onBehalfOf = some reference ∧ occurrence.subject? = some reference

theorem Occurrence.eq_called_of_destruction? {occurrence : Occurrence kinds} {call : Call kinds}
    (selected : occurrence.destruction? = some call) :
    ∃ entered, occurrence = .called call entered := by
  cases occurrence with
  | called made entered =>
      obtain ⟨-, same⟩ := Option.ite_none_right_eq_some.mp selected
      exact ⟨entered, by rw [Option.some.inj same]⟩
  | _ => cases selected

theorem attributed_destruction? :
    Attributed (Occurrence.destruction? : Occurrence kinds → Option (Call kinds)) := by
  intro occurrence call selected
  cases occurrence with
  | called made entered =>
      obtain ⟨named, same⟩ := Option.ite_none_right_eq_some.mp selected
      obtain ⟨reference, about⟩ := Option.isSome_iff_exists.mp named
      obtain rfl := Option.some.inj same
      exact ⟨reference, about, about⟩
  | _ => exact nomatch selected

theorem attributed_due? :
    Attributed (Occurrence.due? : Occurrence kinds → Option (Call kinds)) := by
  intro occurrence call selected
  cases occurrence with
  | wrapped reference resource =>
      obtain rfl := Option.some.inj selected
      exact ⟨reference, rfl, rfl⟩
  | _ => exact nomatch selected

section

variable {select other : Occurrence kinds → Option (Call kinds)}
  {log otherLog : List (Occurrence kinds)}

/-- Calls on behalf of a resource are read off its history. -/
theorem Attributed.count_filterMap_history (attributed : Attributed select) {call : Call kinds}
    {reference : Reference kinds} (named : call.onBehalfOf = some reference) :
    (log.filterMap select).count call = ((history log reference).filterMap select).count call := by
  rw [history, List.count_filterMap, List.count_filterMap, List.countP_filter]
  apply List.countP_congr
  intro occurrence _
  simp only [beq_iff_eq, Bool.and_eq_true, decide_eq_true_eq]
  refine ⟨fun selected => ⟨selected, ?_⟩, And.left⟩
  obtain ⟨_, about, subject⟩ := attributed occurrence call selected
  rw [subject, ← about, named]

theorem Attributed.count_filterMap_of_unnamed (attributed : Attributed select) {call : Call kinds}
    (unnamed : call.onBehalfOf = none) : (log.filterMap select).count call = 0 := by
  rw [List.count_eq_zero]
  intro among
  obtain ⟨occurrence, -, selected⟩ := List.mem_filterMap.mp among
  obtain ⟨_, named, -⟩ := attributed occurrence call selected
  exact nomatch unnamed.symm.trans named

/-- Calls are the same but for their order if they are the same resource by resource. -/
theorem Attributed.filterMap_perm (attributed : Attributed select)
    (alsoAttributed : Attributed other)
    (same : ∀ reference,
      (history log reference).filterMap select = (history otherLog reference).filterMap other) :
    (log.filterMap select).Perm (otherLog.filterMap other) := by
  rw [List.perm_iff_count]
  intro call
  cases named : call.onBehalfOf with
  | none =>
      rw [attributed.count_filterMap_of_unnamed named,
        alsoAttributed.count_filterMap_of_unnamed named]
  | some reference =>
      rw [attributed.count_filterMap_history named, alsoAttributed.count_filterMap_history named,
        same]

end

namespace Store.Chronicled

variable {store other : Store kinds}

/-- In the history of a resource its destructor is called once if it is destroyed. -/
theorem filterMap_destruction?_history (chronicled : store.Chronicled)
    (reference : Reference kinds) :
    (history store.log.toList reference).filterMap Occurrence.destruction? =
      if store.Wraps reference ∧ (store.resource reference).destroyed = true then
        [(store.resource reference).destructorCall reference]
      else [] := by
  by_cases wrapped : store.Wraps reference
  · obtain ⟨story, whole, shares, refusals, entered, rfl⟩ := chronicled.wrapped reference wrapped
    rw [whole]
    by_cases destroyed : (store.resource reference).destroyed = true <;>
      simp [wrapped, destroyed, List.filterMap_cons, List.filterMap_replicate,
        Occurrence.destruction?, Resource.destructorCall]
  · rw [chronicled.unwrapped reference wrapped, if_neg fun both => wrapped both.1]
    rfl

theorem filterMap_due?_history (chronicled : store.Chronicled) (reference : Reference kinds) :
    (history store.log.toList reference).filterMap Occurrence.due? =
      if store.Wraps reference then [(store.resource reference).destructorCall reference]
      else [] := by
  by_cases wrapped : store.Wraps reference
  · obtain ⟨story, whole, shares, refusals, entered, rfl⟩ := chronicled.wrapped reference wrapped
    rw [whole]
    by_cases destroyed : (store.resource reference).destroyed = true <;>
      simp [wrapped, destroyed, Occurrence.due?, Resource.destructorCall, Resource.original]
  · rw [chronicled.unwrapped reference wrapped, if_neg wrapped]
    rfl

/-- Stores with the same records have made the same destructor calls. -/
theorem destructions_perm (chronicled : store.Chronicled) (alsoChronicled : other.Chronicled)
    (wraps : ∀ reference, store.Wraps reference ↔ other.Wraps reference)
    (resources : ∀ reference, store.resource reference = other.resource reference) :
    (destructions store.log.toList).Perm (destructions other.log.toList) := by
  apply attributed_destruction?.filterMap_perm attributed_destruction?
  intro reference
  rw [chronicled.filterMap_destruction?_history, alsoChronicled.filterMap_destruction?_history]
  simp only [wraps, resources]

/-- Once every resource is destroyed, the calls that were due have been made, one for each. -/
theorem destructions_perm_dues (chronicled : store.Chronicled)
    (gone : ∀ reference, store.Wraps reference →
      (store.resource reference).destroyed = true) :
    (destructions store.log.toList).Perm (dues store.log.toList) := by
  apply attributed_destruction?.filterMap_perm attributed_due?
  intro reference
  rw [chronicled.filterMap_destruction?_history, chronicled.filterMap_due?_history]
  by_cases wrapped : store.Wraps reference
  · rw [if_pos wrapped, if_pos ⟨wrapped, gone reference wrapped⟩]
  · rw [if_neg wrapped, if_neg fun both => wrapped both.1]

/-- No resource has its destructor called twice. -/
theorem nodup_destructions (chronicled : store.Chronicled) :
    ((destructions store.log.toList).map Call.onBehalfOf).Nodup := by
  rw [List.nodup_iff_count_le_one]
  intro resource
  rw [destructions, List.map_filterMap, List.count_filterMap]
  cases resource with
  | none =>
      refine Nat.le_trans (Nat.le_of_eq (List.countP_eq_zero.mpr ?_)) (Nat.zero_le 1)
      rintro (_ | _ | _ | ⟨⟨_, _, _ | _⟩, _⟩) - <;> simp [Occurrence.destruction?]
  | some reference =>
      apply Nat.le_trans _ (chronicled.length_destructions_le reference)
      rw [← List.countP_eq_length_filter]
      apply List.countP_mono_left
      rintro (_ | _ | _ | ⟨⟨_, _, _ | _⟩, _⟩) - <;> simp [Occurrence.destruction?]

end Store.Chronicled

end GuestBoundary
