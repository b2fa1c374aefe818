import GuestBoundary.Proofs.Confinement
import GuestBoundary.Proofs.Resource.Views

/-!
# What a host does with references and handles

One statement for each operation on records and tables: how it ends, and the store it leaves. All
but giving a reference back leave the guest alone, so they show no store on their way.
-/

namespace GuestBoundary

namespace Store

variable {kinds : Nat}

/-- The store with one more counted reference. -/
def count (reference : Reference kinds) : Store kinds → Store kinds :=
  onResource reference fun resource => { resource with references := resource.references + 1 }

def freshResource (representation : Word) (destructor : FunctionId) : Resource :=
  { representation, references := 1, destroyed := false, destructor }

/-- The store with one more resource, which has one reference. -/
def enroll (kind : Fin kinds) (representation : Word) (destructor : FunctionId)
    (store : Store kinds) : Store kinds :=
  (store.addResource kind (freshResource representation destructor)).note
    (.wrapped (store.nextReference kind) (freshResource representation destructor))

/-- The store with another function bound as the destructor of a kind. -/
def rebind (kind : Fin kinds) (function : FunctionId) (store : Store kinds) : Store kinds :=
  (store.onRegistry kind fun registry => { registry with destructor := some function }).note
    (.bound kind function)

theorem resource_rebind (store : Store kinds) (kind : Fin kinds) (function : FunctionId)
    (reference : Reference kinds) :
    (store.rebind kind function).resource reference = store.resource reference := by
  apply resource_congr
  rw [rebind, registry_note, registry_onRegistry]
  split
  next here => rw [here]
  next => rfl

theorem slots_rebind (store : Store kinds) (kind : Fin kinds) (function : FunctionId)
    (reference : Reference kinds) :
    (store.rebind kind function).slots reference = store.slots reference := by
  unfold slots
  rw [rebind, registry_note, registry_onRegistry]
  split
  next here => rw [here]
  next => rfl

variable {store : Store kinds} {shown : Store kinds → Prop} {failed : Fault → Store kinds → Prop}

@[simp]
theorem ensures_boundDestructor (kind : Fin kinds) {done : FunctionId → Store kinds → Prop} :
    (boundDestructor kind).Ensures store shown done failed ↔
      match (store.registry kind).destructor with
      | some function => done function store
      | none => failed
          (.missingExport ("drop entry point for `" ++ (store.registry kind).name ++ "`"))
          store := by
  simp only [boundDestructor, Attempt.ensures_examine]
  cases (store.registry kind).destructor <;> exact Iff.rfl

@[simp]
theorem ensures_wrapBound (kind : Fin kinds) (representation : Word)
    {done : Reference kinds → Store kinds → Prop} :
    (wrapBound kind representation).Ensures store shown done failed ↔
      match (store.registry kind).destructor with
      | some function =>
          done (store.nextReference kind) (store.enroll kind representation function)
      | none => failed
          (.missingExport ("drop entry point for `" ++ (store.registry kind).name ++ "`"))
          store := by
  simp only [wrapBound, Work.ensures_bind, ensures_boundDestructor]
  cases (store.registry kind).destructor <;> simp [wrap, enroll, nextReference, freshResource]

@[simp]
theorem ensures_duplicate (reference : Reference kinds)
    {done : Reference kinds → Store kinds → Prop} :
    (duplicate reference).Ensures store shown done failed ↔
      done reference (store.count reference) := by
  simp [duplicate, count]

@[simp]
theorem ensures_park (reference : Reference kinds) {done : Word → Store kinds → Prop} :
    (park reference).Ensures store shown done failed ↔
      done ((store.registry reference.kind).table.put reference.identity).1
        (store.place reference) := by
  simp [park, place]

@[simp]
theorem ensures_peek (kind : Fin kinds) (handle : Word)
    {done : Reference kinds → Store kinds → Prop} :
    (peek kind handle).Ensures store shown done failed ↔
      match (store.registry kind).table.fetch handle with
      | .ok identity => done { kind, identity } store
      | .error fault => failed fault store := by
  simp only [peek, Attempt.ensures_examine]
  cases (store.registry kind).table.fetch handle <;> exact Iff.rfl

@[simp]
theorem ensures_unpark (kind : Fin kinds) (handle : Word)
    {done : Reference kinds → Store kinds → Prop} :
    (unpark kind handle).Ensures store shown done failed ↔
      match (store.registry kind).table.take handle with
      | .ok (identity, table) => done { kind, identity } (store.withTable kind table)
      | .error fault => failed fault store := by
  simp only [unpark, Work.ensures_bind, Attempt.ensures_examine]
  cases (store.registry kind).table.take handle <;> simp

theorem on_unpark_of_take {kind : Fin kinds} {handle : Word} {identity : Nat} {table : Slab Nat}
    (taken : (store.registry kind).table.take handle = .ok (identity, table)) :
    (unpark kind handle).on store = (.ok { kind, identity }, store.withTable kind table) := by
  rw [unpark, Work.on_bind, Attempt.on_examine, taken]
  rfl

@[simp]
theorem ensures_unparkAll (kind : Fin kinds)
    {done : List (Reference kinds) → Store kinds → Prop} :
    (unparkAll kind).Ensures store shown done failed ↔
      done (store.parked kind) (store.withTable kind ∅) := by
  simp only [unparkAll, Work.ensures_bind, Work.ensures_get, Work.ensures_modify,
    Work.ensures_pure]
  exact Iff.rfl

@[simp]
theorem ensures_lower (reference : Reference kinds) {done : Word → Store kinds → Prop} :
    (lower reference).Ensures store shown done failed ↔
      done (((store.count reference).registry reference.kind).table.put reference.identity).1
        ((store.count reference).place reference) := by
  simp [lower]

@[simp]
theorem ensures_bindDestructor (kind : Fin kinds) (function : FunctionId)
    {done : Unit → Store kinds → Prop} :
    (bindDestructor kind function).Ensures store shown done failed ↔
      done () (store.rebind kind function) := by
  simp [bindDestructor, rebind]

end Store

/-!
## Giving a reference back

A release decides, books and only then calls: what it finds in the record settles its verdict, the
record is changed and the verdict noted, and the guest is entered at most once, after all of that.
The main statements give the outcome of a release and the states it reaches in terms of these
three steps.
-/

/-- The record after one of the references was given back. -/
def Resource.released (resource : Resource) : Resource :=
  if resource.destroyed then resource
  else
    { resource with
      references := resource.references - 1
      destroyed := resource.references = 1 }

/-- What giving one of the references back will come to. -/
def Resource.verdict {kinds : Nat} (resource : Resource) (reference : Reference kinds) :
    Verdict kinds :=
  if resource.destroyed then .refused
  else if resource.references = 1 then .last (resource.destructorCall reference)
  else .shared

namespace Store

variable {kinds : Nat}

def verdict (store : Store kinds) (reference : Reference kinds) : Verdict kinds :=
  (store.resource reference).verdict reference

/-- The store after a reference was given back and before the guest is entered. -/
def book (reference : Reference kinds) (store : Store kinds) : Store kinds :=
  (store.onResource reference Resource.released).note
    (.released reference (store.verdict reference))

@[simp]
theorem resource_book (store : Store kinds) (reference other : Reference kinds) :
    (store.book reference).resource other =
      if reference = other then (store.resource reference).released
      else store.resource other := by
  rw [book, resource_note, resource_onResource]
  by_cases wrapped : store.Wraps reference
  · simp [wrapped]
  · have absent := resource_of_not_wraps wrapped
    by_cases same : reference = other
    · subst same
      simp [wrapped, absent, Resource.released, Resource.absent]
    · simp [same]

@[simp]
theorem slots_book (store : Store kinds) (reference other : Reference kinds) :
    (store.book reference).slots other = store.slots other := by
  simp [book]

theorem onResource_onResource (store : Store kinds) (reference : Reference kinds)
    (first second : Resource → Resource) :
    (store.onResource reference first).onResource reference second =
      store.onResource reference (second ∘ first) := by
  have twice (resources : Array Resource) (identity : Nat) :
      (resources.modify identity first).modify identity second =
        resources.modify identity (second ∘ first) := by
    apply Array.ext_getElem?
    intro place
    simp only [Array.getElem?_modify]
    split <;> simp
  simp only [onResource, onRegistry, registry, Fin.getElem_fin, Vector.getElem_set_self,
    Vector.set_set, twice]

theorem onResource_congr {store : Store kinds} {reference : Reference kinds}
    {first second : Resource → Resource}
    (same : first (store.resource reference) = second (store.resource reference)) :
    store.onResource reference first = store.onResource reference second := by
  have equal : (store.registry reference.kind).resources.modify reference.identity first =
      (store.registry reference.kind).resources.modify reference.identity second := by
    apply Array.ext_getElem?
    intro place
    simp only [Array.getElem?_modify]
    split
    next here =>
      subst here
      by_cases wrapped : reference.identity < (store.registry reference.kind).resources.size
      · simpa [resource, wrapped] using same
      · simp [wrapped]
    next => rfl
  simp only [onResource, onRegistry, equal]

/-- What a release does once everything is booked. -/
def consequence (enter : Entry kinds) (store : Store kinds) (reference : Reference kinds) :
    Attempt (Store kinds) Unit :=
  match store.verdict reference with
  | .refused =>
      throw (.doubleDrop (store.registry reference.kind).name
        (store.resource reference).representation)
  | .shared => pure ()
  | .last call => discard (enter call).toHost

theorem onResource_eq_self {store : Store kinds} {reference : Reference kinds}
    {change : Resource → Resource}
    (same : change (store.resource reference) = store.resource reference) :
    store.onResource reference change = store := by
  have unchanged : (store.registry reference.kind).resources.modify reference.identity id =
      (store.registry reference.kind).resources := by
    apply Array.ext_getElem?
    intro place
    simp [Array.getElem?_modify]
  have registries : store.registries.set reference.kind (store.registry reference.kind) =
      store.registries := Vector.set_getElem_self _
  have congruent : store.onResource reference change = store.onResource reference id :=
    onResource_congr same
  rw [congruent, onResource, onRegistry, unchanged]
  exact congrArg (fun registries => { store with registries }) registries

/-- A release books first, whatever its verdict, and shows nothing until that is done. -/
theorem release_eq (enter : Entry kinds) (reference : Reference kinds) (store : Store kinds) :
    (release enter reference).on store =
        (store.consequence enter reference).on (store.book reference) ∧
      ∀ moment, (release enter reference).Shows store moment ↔
        (store.consequence enter reference).Shows (store.book reference) moment := by
  unfold release consequence book verdict Resource.verdict
  by_cases destroyed : (store.resource reference).destroyed = true
  · have unchanged : store.onResource reference Resource.released = store := by
      exact onResource_eq_self (by simp [Resource.released, destroyed])
    simp [Work.on_bind, destroyed, unchanged]
  · by_cases last : (store.resource reference).references = 1
    · have booked : (store.onResource reference fun resource =>
            { resource with references := resource.references - 1 }).onResource reference
              (fun resource => { resource with destroyed := true }) =
          store.onResource reference Resource.released := by
        rw [onResource_onResource]
        exact onResource_congr (by simp [Resource.released, destroyed, last])
      simp [destroyed, last, booked]
    · have booked : (store.onResource reference fun resource =>
            { resource with references := resource.references - 1 }) =
          store.onResource reference Resource.released :=
        onResource_congr (by simp [Resource.released, destroyed, last])
      simp [destroyed, last, booked]

theorem on_release (enter : Entry kinds) (reference : Reference kinds) (store : Store kinds) :
    (release enter reference).on store =
      (store.consequence enter reference).on (store.book reference) :=
  (release_eq enter reference store).1

/-- While other references remain, giving one back succeeds and the guest is not entered. -/
theorem on_release_of_shared (enter : Entry kinds) {reference : Reference kinds}
    {store : Store kinds} (shared : store.verdict reference = .shared) :
    (release enter reference).on store = (.ok (), store.book reference) := by
  rw [on_release, consequence, shared, Work.on_pure]

theorem table_book (store : Store kinds) (reference : Reference kinds) (kind : Fin kinds) :
    ((store.book reference).registry kind).table = (store.registry kind).table := by
  rw [book, registry_note, onResource, registry_onRegistry]
  split
  next same => rw [same]
  next => rfl

end Store

end GuestBoundary
