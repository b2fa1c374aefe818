import GuestBoundary.Proofs.Resource.Moves

/-!
# What the log says about a resource

The log of a store tells the life of each resource: it is wrapped once, with the destructor that
is bound at that time; then references are given back while others remain; then the last one is
given back and the destructor is called at once; after that references are only refused. The
record of the resource never disagrees with its story.
-/

namespace GuestBoundary

variable {kinds : Nat}

namespace Occurrence

/-- The resource that an occurrence is about. -/
def subject? : Occurrence kinds → Option (Reference kinds)
  | .bound .. => none
  | .wrapped reference _ => some reference
  | .released reference _ => some reference
  | .called call _ => call.onBehalfOf

/-- The function that an occurrence binds as the destructor of a kind. -/
def binds? (kind : Fin kinds) : Occurrence kinds → Option FunctionId
  | .bound other function => if other = kind then some function else none
  | _ => none

/-- Whether the guest is called to destroy a resource. -/
def destroys (reference : Reference kinds) : Occurrence kinds → Bool
  | .called call _ => call.onBehalfOf = some reference
  | _ => false

@[simp]
theorem destroys_called (reference : Reference kinds) (call : Call kinds) (entered : Bool) :
    (called call entered).destroys reference = decide (call.onBehalfOf = some reference) := rfl

@[simp]
theorem destroys_wrapped (reference other : Reference kinds) (resource : Resource) :
    (wrapped other resource).destroys reference = false := rfl

@[simp]
theorem destroys_released (reference other : Reference kinds) (verdict : Verdict kinds) :
    (released other verdict).destroys reference = false := rfl

theorem subject?_of_destroys {reference : Reference kinds} {occurrence : Occurrence kinds}
    (destroys : occurrence.destroys reference = true) : occurrence.subject? = some reference := by
  cases occurrence with
  | called call entered => exact of_decide_eq_true destroys
  | _ => exact nomatch destroys

end Occurrence

/-- The part of a log that is about one resource. -/
def history (log : List (Occurrence kinds)) (reference : Reference kinds) :
    List (Occurrence kinds) :=
  log.filter fun occurrence => occurrence.subject? = some reference

/-- The destructor that a log has bound last. -/
def lastBound (log : List (Occurrence kinds)) (kind : Fin kinds) : Option FunctionId :=
  (log.filterMap (Occurrence.binds? kind)).getLast?

/-- The resource as it was when it was wrapped. -/
def Resource.original (resource : Resource) : Resource :=
  { resource with references := 1, destroyed := false }

/-- Every resource is wrapped with the destructor that is bound at that time. -/
def Captures (log : List (Occurrence kinds)) : Prop :=
  ∀ before reference resource after, log = before ++ .wrapped reference resource :: after →
    lastBound before reference.kind = some resource.destructor

/-- The release that takes a last reference calls the destructor before anything else happens. -/
def Prompt (log : List (Occurrence kinds)) : Prop :=
  ∀ before reference call after, log = before ++ .released reference (.last call) :: after →
    ∃ entered rest, after = .called call entered :: rest

/-- What the log can tell of a resource after it was wrapped: references were given back, and if
the resource is destroyed, then the last of them called its destructor. -/
def Resource.Told (resource : Resource) (reference : Reference kinds)
    (story : List (Occurrence kinds)) : Prop :=
  ∃ (shares refusals : Nat) (entered : Bool),
    story = List.replicate shares (.released reference .shared) ++
      if resource.destroyed then
        [.released reference (.last (resource.destructorCall reference)),
          .called (resource.destructorCall reference) entered] ++
          List.replicate refusals (.released reference .refused)
      else []

/-- What giving back one of the references adds to the log. -/
def Resource.aftermath (resource : Resource) (entered : Bool) (reference : Reference kinds) :
    List (Occurrence kinds) :=
  match resource.verdict reference with
  | .last call => [.released reference (.last call), .called call entered]
  | verdict => [.released reference verdict]

namespace Store

/-- The log and the records of a store agree. -/
structure Chronicled (store : Store kinds) : Prop where
  bound : ∀ kind, (store.registry kind).destructor = lastBound store.log.toList kind
  unwrapped : ∀ reference, ¬ store.Wraps reference → history store.log.toList reference = []
  wrapped : ∀ reference, store.Wraps reference → ∃ story,
    history store.log.toList reference =
        .wrapped reference (store.resource reference).original :: story ∧
      (store.resource reference).Told reference story
  captured : Captures store.log.toList
  prompt : Prompt store.log.toList

end Store

/-! ### Longer logs -/

theorem history_append (first second : List (Occurrence kinds)) (reference : Reference kinds) :
    history (first ++ second) reference = history first reference ++ history second reference :=
  List.filter_append ..

/-- Calls to destroy a resource are part of its history. -/
theorem filter_destroys_history (log : List (Occurrence kinds)) (reference : Reference kinds) :
    (history log reference).filter (·.destroys reference) =
      log.filter (·.destroys reference) := by
  rw [history, List.filter_filter]
  apply List.filter_congr
  intro occurrence _
  by_cases destroys : occurrence.destroys reference = true
  · rw [destroys, Occurrence.subject?_of_destroys destroys, decide_eq_true rfl, Bool.and_true]
  · rw [Bool.eq_false_iff.mpr destroys, Bool.false_and]

theorem lastBound_append (first second : List (Occurrence kinds)) (kind : Fin kinds) :
    lastBound (first ++ second) kind = (lastBound second kind).or (lastBound first kind) := by
  simp only [lastBound, List.filterMap_append, List.getLast?_append]

theorem Captures.concat {log : List (Occurrence kinds)} (captures : Captures log)
    {occurrence : Occurrence kinds}
    (fresh : ∀ reference resource, occurrence = .wrapped reference resource →
      lastBound log reference.kind = some resource.destructor) :
    Captures (log ++ [occurrence]) := by
  intro before reference resource after split
  rcases after.eq_nil_or_concat with rfl | ⟨earlier, last, rfl⟩
  · obtain ⟨rfl, wrapping⟩ := List.append_inj' split rfl
    exact fresh reference resource (List.singleton_inj.mp wrapping)
  · rw [List.concat_eq_append, ← List.cons_append, ← List.append_assoc] at split
    obtain ⟨rfl, -⟩ := List.append_inj' split rfl
    exact captures before reference resource earlier rfl

theorem Prompt.append {first second : List (Occurrence kinds)} (promptFirst : Prompt first)
    (promptSecond : Prompt second) : Prompt (first ++ second) := by
  intro before reference call after split
  rcases List.append_eq_append_iff.mp split with
    ⟨middle, -, later⟩ | ⟨middle, earlier, overlap⟩
  · exact promptSecond middle reference call after later
  · cases middle with
    | nil => exact promptSecond [] reference call after overlap.symm
    | cons occurrence middle =>
        obtain ⟨rfl, rfl⟩ := List.cons.inj overlap
        obtain ⟨entered, rest, rfl⟩ := promptFirst before reference call middle earlier
        exact ⟨entered, rest ++ second, rfl⟩

theorem prompt_singleton {occurrence : Occurrence kinds}
    (other : ∀ reference call, occurrence ≠ .released reference (.last call)) :
    Prompt [occurrence] := by
  intro before reference call after split
  rcases List.singleton_eq_append_iff.mp split with ⟨-, same⟩ | ⟨-, none⟩
  · exact absurd (List.cons.inj same).1.symm (other reference call)
  · exact nomatch none

/-! ### Giving a reference back -/

namespace Resource

theorem original_released (resource : Resource) :
    resource.released.original = resource.original := by
  unfold released
  split <;> rfl

theorem history_aftermath (resource : Resource) (entered : Bool)
    (reference other : Reference kinds) :
    history (resource.aftermath entered reference) other =
      if reference = other then resource.aftermath entered reference else [] := by
  unfold aftermath verdict
  by_cases destroyed : resource.destroyed = true
  · by_cases here : reference = other <;> simp [history, Occurrence.subject?, destroyed, here]
  · by_cases last : resource.references = 1 <;> by_cases here : reference = other <;>
      simp [history, Occurrence.subject?, destructorCall, destroyed, last, here]

theorem lastBound_aftermath (resource : Resource) (entered : Bool)
    (reference : Reference kinds) (kind : Fin kinds) :
    lastBound (resource.aftermath entered reference) kind = none := by
  unfold aftermath
  split <;> simp [lastBound, Occurrence.binds?]

theorem prompt_aftermath (resource : Resource) (entered : Bool) (reference : Reference kinds) :
    Prompt (resource.aftermath entered reference) := by
  unfold aftermath
  split
  next call _ =>
      intro before other called after split
      rcases before with - | ⟨occurrence, before⟩
      · obtain ⟨same, rfl⟩ := List.cons.inj split
        obtain ⟨-, same⟩ := Occurrence.released.inj same
        exact ⟨entered, [], by rw [Verdict.last.inj same]⟩
      · have single : Prompt [.called call entered] := prompt_singleton (by simp)
        exact single before other called after (List.cons.inj split).2
  next other =>
      exact prompt_singleton fun _ call same => other call (Occurrence.released.inj same).2

theorem Told.aftermath {resource : Resource} {reference : Reference kinds}
    {story : List (Occurrence kinds)} (told : resource.Told reference story) (entered : Bool) :
    resource.released.Told reference (story ++ resource.aftermath entered reference) := by
  obtain ⟨shares, refusals, before, rfl⟩ := told
  unfold Resource.aftermath Resource.verdict Resource.released
  by_cases destroyed : resource.destroyed = true
  · refine ⟨shares, refusals + 1, before, ?_⟩
    simp [destroyed, List.replicate_succ']
  · by_cases last : resource.references = 1
    · refine ⟨shares, 0, entered, ?_⟩
      simp [destroyed, last, Resource.destructorCall]
    · refine ⟨shares + 1, 0, false, ?_⟩
      simp [destroyed, last, List.replicate_succ']

end Resource

/-- A resource is wrapped only once. -/
theorem Resource.Told.not_wrapped {resource : Resource} {reference : Reference kinds}
    {story : List (Occurrence kinds)} (told : resource.Told reference story)
    (other : Reference kinds) (original : Resource) : .wrapped other original ∉ story := by
  obtain ⟨shares, refusals, entered, rfl⟩ := told
  cases resource.destroyed <;> simp

theorem Store.log_giveBack (store : Store kinds) (entered : Bool) (reference : Reference kinds) :
    (store.giveBack entered reference).log.toList =
      store.log.toList ++ (store.resource reference).aftermath entered reference := by
  unfold Store.giveBack Resource.aftermath
  rw [← Store.verdict]
  split <;> simp_all

namespace Store.Chronicled

variable {store : Store kinds}

/-- Counts of references are not part of the story. -/
theorem of_views {other : Store kinds} (chronicled : store.Chronicled)
    (log : other.log = store.log)
    (destructors : ∀ kind, (other.registry kind).destructor = (store.registry kind).destructor)
    (wraps : ∀ reference, other.Wraps reference ↔ store.Wraps reference)
    (records : ∀ reference, ∃ references,
      other.resource reference = { store.resource reference with references }) :
    other.Chronicled where
  bound kind := by rw [log, destructors, chronicled.bound]
  unwrapped reference unwrapped := by
    rw [log]
    exact chronicled.unwrapped reference fun wrapped => unwrapped ((wraps reference).mpr wrapped)
  wrapped reference wrapped := by
    obtain ⟨references, record⟩ := records reference
    rw [log, record]
    exact chronicled.wrapped reference ((wraps reference).mp wrapped)
  captured := by
    rw [log]
    exact chronicled.captured
  prompt := by
    rw [log]
    exact chronicled.prompt

theorem inside (chronicled : store.Chronicled) (memory : Bytes) (globals : Array Word) :
    { store with memory, globals }.Chronicled :=
  chronicled.of_views rfl (fun _ => rfl) (fun _ => Iff.rfl) fun _ => ⟨_, rfl⟩

theorem withTable (chronicled : store.Chronicled) (kind : Fin kinds) (table : Slab Nat) :
    (store.withTable kind table).Chronicled :=
  chronicled.of_views rfl (by simp) (by simp) fun reference =>
    ⟨(store.resource reference).references, by simp⟩

theorem place (chronicled : store.Chronicled) (reference : Reference kinds) :
    (store.place reference).Chronicled :=
  chronicled.withTable _ _

theorem count (chronicled : store.Chronicled) (reference : Reference kinds) :
    (store.count reference).Chronicled := by
  refine chronicled.of_views rfl (by simp [Store.count]) (by simp [Store.count]) fun other => ?_
  rw [Store.count, resource_onResource]
  split
  next same => exact ⟨_, by rw [same.1]⟩
  next => exact ⟨_, rfl⟩

theorem call (chronicled : store.Chronicled) {call : Call kinds} (entered : Bool)
    (plain : call.onBehalfOf = none) : (store.note (.called call entered)).Chronicled := by
  have same (reference : Reference kinds) :
      history (store.note (.called call entered)).log.toList reference =
        history store.log.toList reference := by
    simp [history, Occurrence.subject?, plain]
  constructor
  · intro kind
    rw [registry_note, chronicled.bound]
    simp [lastBound, Occurrence.binds?]
  · intro reference unwrapped
    rw [same]
    exact chronicled.unwrapped reference unwrapped
  · intro reference wrapped
    rw [same, resource_note]
    exact chronicled.wrapped reference wrapped
  · rw [log_note, Array.toList_push]
    exact chronicled.captured.concat (by simp)
  · rw [log_note, Array.toList_push]
    exact chronicled.prompt.append (prompt_singleton (by simp))

theorem rebind (chronicled : store.Chronicled) (kind : Fin kinds) (function : FunctionId) :
    (store.rebind kind function).Chronicled := by
  have same (reference : Reference kinds) :
      history (store.rebind kind function).log.toList reference =
        history store.log.toList reference := by
    simp [Store.rebind, Store.onRegistry, history, Occurrence.subject?]
  have wraps (reference : Reference kinds) :
      (store.rebind kind function).Wraps reference ↔ store.Wraps reference := by
    rw [Store.rebind, wraps_note]
    exact wraps_onRegistry _ _ _ fun _ => rfl
  constructor
  · intro other
    rw [Store.rebind, registry_note, registry_onRegistry, log_note, Array.toList_push,
      lastBound_append]
    by_cases here : kind = other
    · simp [here, lastBound, Occurrence.binds?]
    · simpa [here, lastBound, Occurrence.binds?] using chronicled.bound other
  · intro reference unwrapped
    rw [same]
    exact chronicled.unwrapped reference fun wrapped => unwrapped ((wraps reference).mpr wrapped)
  · intro reference wrapped
    rw [same, resource_rebind]
    exact chronicled.wrapped reference ((wraps reference).mp wrapped)
  · rw [Store.rebind, log_note, Array.toList_push]
    exact chronicled.captured.concat (by simp)
  · rw [Store.rebind, log_note, Array.toList_push]
    exact chronicled.prompt.append (prompt_singleton (by simp))

theorem enroll (chronicled : store.Chronicled) {kind : Fin kinds} (representation : Word)
    {function : FunctionId} (bound : (store.registry kind).destructor = some function) :
    (store.enroll kind representation function).Chronicled := by
  have log : (store.enroll kind representation function).log.toList =
      store.log.toList ++
        [.wrapped (store.nextReference kind) (freshResource representation function)] := by
    simp
  have wraps (reference : Reference kinds) :
      (store.enroll kind representation function).Wraps reference ↔
        store.nextReference kind = reference ∨ store.Wraps reference :=
    wraps_addResource _ _ _ _
  have stories (reference : Reference kinds) :
      history (store.enroll kind representation function).log.toList reference =
        history store.log.toList reference ++
          if store.nextReference kind = reference then
            [.wrapped (store.nextReference kind) (freshResource representation function)]
          else [] := by
    rw [log, history_append]
    by_cases here : store.nextReference kind = reference <;>
      simp [history, Occurrence.subject?, here]
  constructor
  · intro other
    rw [log, lastBound_append]
    simpa [Store.enroll, lastBound, Occurrence.binds?] using chronicled.bound other
  · intro reference unwrapped
    rw [wraps, not_or] at unwrapped
    rw [stories, if_neg unwrapped.1, List.append_nil]
    exact chronicled.unwrapped reference unwrapped.2
  · intro reference wrapped
    rw [stories, Store.enroll, resource_note, resource_addResource]
    by_cases here : store.nextReference kind = reference
    · have unwrapped : ¬ store.Wraps reference := here ▸ store.nextReference_not_wraps kind
      rw [if_pos here, if_pos here, chronicled.unwrapped reference unwrapped, here]
      exact ⟨[], rfl, 0, 0, false, rfl⟩
    · rw [if_neg here, if_neg here, List.append_nil]
      exact chronicled.wrapped reference (((wraps reference).mp wrapped).resolve_left here)
  · rw [log]
    apply chronicled.captured.concat
    intro reference resource wrapping
    obtain ⟨rfl, rfl⟩ := Occurrence.wrapped.inj wrapping
    rw [← chronicled.bound]
    exact bound
  · rw [log]
    exact chronicled.prompt.append (prompt_singleton (by simp))

theorem giveBack (chronicled : store.Chronicled) {reference : Reference kinds}
    (known : store.Wraps reference) (entered : Bool) :
    (store.giveBack entered reference).Chronicled := by
  constructor
  · intro kind
    rw [log_giveBack, lastBound_append, Resource.lastBound_aftermath, Option.none_or,
      destructor_giveBack]
    exact chronicled.bound kind
  · intro other unwrapped
    rw [wraps_giveBack] at unwrapped
    have different : reference ≠ other := fun same => unwrapped (same ▸ known)
    rw [log_giveBack, history_append, Resource.history_aftermath, if_neg different,
      List.append_nil]
    exact chronicled.unwrapped other unwrapped
  · intro other wrapped
    rw [wraps_giveBack] at wrapped
    obtain ⟨story, told, possible⟩ := chronicled.wrapped other wrapped
    rw [log_giveBack, history_append, Resource.history_aftermath, resource_giveBack, told]
    by_cases here : reference = other
    · subst here
      rw [if_pos rfl, if_pos rfl, Resource.original_released]
      exact ⟨_, rfl, possible.aftermath entered⟩
    · rw [if_neg here, if_neg here, List.append_nil]
      exact ⟨story, rfl, possible⟩
  · rw [log_giveBack]
    unfold Resource.aftermath
    split
    next =>
        rw [← List.singleton_append, ← List.append_assoc]
        refine (chronicled.captured.concat ?_).concat (by simp)
        simp
    next => exact chronicled.captured.concat (by simp)
  · rw [log_giveBack]
    exact chronicled.prompt.append (Resource.prompt_aftermath _ _ _)

/-- Where the log wraps a resource, its story begins. -/
theorem story_of_wrapped (chronicled : store.Chronicled)
    {before after : List (Occurrence kinds)} {reference : Reference kinds} {original : Resource}
    (split : store.log.toList = before ++ .wrapped reference original :: after) :
    history before reference = [] ∧ original = (store.resource reference).original ∧
      (store.resource reference).Told reference (history after reference) := by
  have whole : history store.log.toList reference =
      history before reference ++ .wrapped reference original :: history after reference := by
    rw [split, history_append]
    simp [history, Occurrence.subject?]
  have wrapped : store.Wraps reference := by
    apply Decidable.byContradiction
    intro unwrapped
    rw [chronicled.unwrapped reference unwrapped] at whole
    simp at whole
  obtain ⟨story, told, possible⟩ := chronicled.wrapped reference wrapped
  rw [told] at whole
  cases earlier : history before reference with
  | nil =>
      rw [earlier, List.nil_append] at whole
      obtain ⟨same, rfl⟩ := List.cons.inj whole
      exact ⟨rfl, (Occurrence.wrapped.inj same).2.symm, possible⟩
  | cons first others =>
      rw [earlier] at whole
      have again : .wrapped reference original ∈ story := by
        rw [(List.cons.inj whole).2]
        simp
      exact absurd again (possible.not_wrapped reference original)

theorem wraps_of_mem (chronicled : store.Chronicled) {reference : Reference kinds}
    {occurrence : Occurrence kinds} (among : occurrence ∈ store.log.toList)
    (about : occurrence.subject? = some reference) : store.Wraps reference := by
  apply Decidable.byContradiction
  intro unwrapped
  have none := chronicled.unwrapped reference unwrapped
  have told : occurrence ∈ history store.log.toList reference :=
    List.mem_filter.mpr ⟨among, decide_eq_true about⟩
  rw [none] at told
  exact nomatch told

/-- A resource is destroyed exactly if the log has a release of its last reference. -/
theorem destroyed_iff (chronicled : store.Chronicled) {reference : Reference kinds}
    (wrapped : store.Wraps reference) :
    (store.resource reference).destroyed = true ↔
      ∃ call, .released reference (.last call) ∈ store.log.toList := by
  obtain ⟨story, whole, shares, refusals, entered, rfl⟩ := chronicled.wrapped reference wrapped
  constructor
  · intro destroyed
    have told : .released reference
        (.last ((store.resource reference).destructorCall reference)) ∈
          history store.log.toList reference := by
      rw [whole, if_pos destroyed]
      simp
    exact ⟨_, (List.mem_filter.mp told).1⟩
  · rintro ⟨call, released⟩
    have told : .released reference (.last call) ∈ history store.log.toList reference :=
      List.mem_filter.mpr ⟨released, decide_eq_true rfl⟩
    rw [whole] at told
    by_cases destroyed : (store.resource reference).destroyed = true
    · exact destroyed
    · rw [if_neg destroyed] at told
      simp at told

/-- The guest is called once to destroy a resource if that is destroyed, and else never. -/
theorem length_destructions (chronicled : store.Chronicled) {reference : Reference kinds}
    (wrapped : store.Wraps reference) :
    (store.log.toList.filter (·.destroys reference)).length =
      if (store.resource reference).destroyed then 1 else 0 := by
  obtain ⟨story, whole, shares, refusals, entered, rfl⟩ := chronicled.wrapped reference wrapped
  rw [← filter_destroys_history, whole]
  by_cases destroyed : (store.resource reference).destroyed = true <;>
    simp [destroyed, Resource.destructorCall]

/-- However references were duplicated, the guest is called at most once to destroy a resource. -/
theorem length_destructions_le (chronicled : store.Chronicled) (reference : Reference kinds) :
    (store.log.toList.filter (·.destroys reference)).length ≤ 1 := by
  by_cases wrapped : store.Wraps reference
  · rw [chronicled.length_destructions wrapped]
    split
    next => exact Nat.le_refl 1
    next => exact Nat.zero_le 1
  · rw [← filter_destroys_history, chronicled.unwrapped reference wrapped]
    exact Nat.zero_le 1

/-- A longer log tells of the same resource, and of no return from its destruction. -/
theorem of_log_grows (chronicled : store.Chronicled) {later : Store kinds}
    (told : later.Chronicled) (grows : store.log.toList <+: later.log.toList)
    {reference : Reference kinds} (wrapped : store.Wraps reference) :
    later.Wraps reference ∧
      (later.resource reference).original = (store.resource reference).original ∧
        ((store.resource reference).destroyed = true →
          (later.resource reference).destroyed = true) := by
  obtain ⟨story, whole, -⟩ := chronicled.wrapped reference wrapped
  have first : .wrapped reference (store.resource reference).original ∈
      history store.log.toList reference := whole ▸ List.mem_cons_self
  have still : later.Wraps reference :=
    told.wraps_of_mem (grows.mem (List.mem_filter.mp first).1) rfl
  refine ⟨still, ?_, ?_⟩
  · obtain ⟨laterStory, laterWhole, -⟩ := told.wrapped reference still
    have longer : history store.log.toList reference <+: history later.log.toList reference :=
      grows.filter _
    rw [whole, laterWhole, List.cons_prefix_cons] at longer
    exact (Occurrence.wrapped.inj longer.1).2.symm
  · rw [chronicled.destroyed_iff wrapped, told.destroyed_iff still]
    exact fun ⟨call, released⟩ => ⟨call, grows.mem released⟩

end Store.Chronicled

end GuestBoundary
