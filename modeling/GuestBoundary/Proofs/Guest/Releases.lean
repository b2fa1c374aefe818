import GuestBoundary.Proofs.Guest.Confinement
import GuestBoundary.Proofs.Resource.Balance
import GuestBoundary.Proofs.Resource.Chronicle

/-!
# Releases in a row

While references wait to be given back their handles are gone, and what has no handle a guest
cannot reach. So when references are given back one after the other, each resource loses just the
references among them, whatever the destructors do meanwhile, and only the release of its last
reference calls its destructor.
-/

namespace GuestBoundary

variable {kinds : Nat}

namespace Store

/-- Nothing was done to a resource that has no handle. -/
structure Untouched (reference : Reference kinds) (store later : Store kinds) : Prop where
  resource : later.resource reference = store.resource reference
  slots : later.slots reference = 0
  wraps : later.Wraps reference
  history : history later.log.toList reference = history store.log.toList reference

/-- A guest cannot reach a resource that has no handle. -/
theorem Move.untouched {store next : Store kinds} {reference : Reference kinds}
    (move : store.Move (fun _ => False) next) (hidden : store.slots reference = 0)
    (wrapped : store.Wraps reference) : store.Untouched reference next := by
  cases move with
  | inside memory globals => exact ⟨rfl, hidden, wrapped, rfl⟩
  | call call entered plain =>
      refine ⟨rfl, hidden, wrapped, ?_⟩
      simp [history, Occurrence.subject?, plain]
  | wrap kind representation function bound =>
      have different : store.nextReference kind ≠ reference := fun same =>
        store.nextReference_not_wraps kind (same ▸ wrapped)
      constructor
      · rw [resource_place, enroll, resource_note, resource_addResource, if_neg different]
      · rw [slots_place, if_neg different, enroll, slots_note, slots_addResource, hidden]
      · exact (wraps_withTable _ _ _ _).mpr ((wraps_addResource _ _ _ _).mpr (.inr wrapped))
      · simp [GuestBoundary.history, Occurrence.subject?, different]
  | lower lowered known =>
      have different : lowered ≠ reference := by
        rintro rfl
        rw [hidden] at known
        exact known.elim id (Nat.lt_irrefl 0)
      constructor
      · rw [resource_place, count, resource_onResource, if_neg fun both => different both.1]
      · rw [slots_place, if_neg different, count, slots_onResource, hidden]
      · exact (wraps_withTable _ _ _ _).mpr ((wraps_onResource _ _ _ _).mpr wrapped)
      · rfl
  | drop kind handle identity table taken entered =>
      have counted := slots_of_take taken reference
      have different : ({ kind, identity } : Reference kinds) ≠ reference := by
        intro same
        rw [if_pos same, hidden] at counted
        exact Nat.succ_ne_zero _ counted.symm
      rw [if_neg different, Nat.add_zero, hidden] at counted
      constructor
      · rw [resource_giveBack, if_neg different, resource_withTable]
      · rw [slots_giveBack, counted]
      · exact (wraps_giveBack _ _ _ _).mpr ((wraps_withTable _ _ _ _).mpr wrapped)
      · rw [log_giveBack, history_append, Resource.history_aftermath, if_neg different,
          List.append_nil, log_withTable]

theorem Evolves.untouched {store later : Store kinds} {reference : Reference kinds}
    (evolves : store.Evolves (fun _ => False) later) (hidden : store.slots reference = 0)
    (wrapped : store.Wraps reference) : store.Untouched reference later := by
  induction evolves with
  | refl => exact ⟨rfl, hidden, wrapped, rfl⟩
  | tail _ move inductionHypothesis =>
      have last := move.untouched inductionHypothesis.slots inductionHypothesis.wraps
      exact ⟨last.resource.trans inductionHypothesis.resource, last.slots, last.wraps,
        last.history.trans inductionHypothesis.history⟩

end Store

/-- One of several releases: the reference, the store that it was given back to, how that ended,
and the store that it left. -/
structure Release (kinds : Nat) where
  reference : Reference kinds
  before : Store kinds
  outcome : Except Fault Unit
  after : Store kinds

namespace Release

def fault? (release : Release kinds) : Option Fault :=
  match release.outcome with
  | .ok _ => none
  | .error fault => some fault

end Release

namespace Store

/-- The releases of references in flight, one after the other, each where the one before left the
store. -/
def releases (enter : Entry kinds) : List (Reference kinds) → Store kinds → List (Release kinds)
  | [], _ => []
  | reference :: rest, store =>
      let (outcome, after) := (release enter reference).on (store.land reference)
      { reference, before := store.land reference, outcome, after } :: releases enter rest after

def afterAll (store : Store kinds) (given : List (Release kinds)) : Store kinds :=
  given.foldl (fun _ release => release.after) store

theorem map_reference_releases (enter : Entry kinds) (references : List (Reference kinds))
    (store : Store kinds) :
    (releases enter references store).map Release.reference = references := by
  induction references generalizing store with
  | nil => rfl
  | cons reference references inductionHypothesis =>
      exact congrArg (reference :: ·) (inductionHypothesis _)

/-- Giving references back one after the other fails with the first fault, and only at the end. -/
theorem on_releaseAll (enter : Entry kinds) (references : List (Reference kinds))
    (store : Store kinds) :
    (releaseAll enter references).on store =
      (match (releases enter references store).findSome? Release.fault? with
        | some fault => .error fault
        | none => .ok (),
        store.afterAll (releases enter references store)) := by
  induction references generalizing store with
  | nil => rfl
  | cons reference references inductionHypothesis =>
      simp only [releaseAll, releases, Work.on_bind, Work.on_modify, Work.on_settle,
        Attempt.on_ofExcept, inductionHypothesis, List.findSome?_cons]
      rcases (release enter reference).on (store.land reference) with ⟨fault | _, after⟩ <;> rfl

theorem on_of_mem_releases {enter : Entry kinds} {references : List (Reference kinds)}
    {store : Store kinds} {release : Release kinds}
    (among : release ∈ releases enter references store) :
    (Store.release enter release.reference).on release.before =
      (release.outcome, release.after) := by
  induction references generalizing store with
  | nil => exact nomatch among
  | cons reference references inductionHypothesis =>
      rcases List.mem_cons.mp among with rfl | later
      · rfl
      · exact inductionHypothesis later

theorem exists_mem_releases {enter : Entry kinds} {references : List (Reference kinds)}
    {store : Store kinds} {kind : Fin kinds} {handle : Nat}
    (free : (store.registry kind).table.get? handle = none)
    (used : ((store.afterAll (releases enter references store)).registry kind).table.get? handle ≠
      none) :
    ∃ release ∈ releases enter references store,
      (release.before.registry kind).table.get? handle = none ∧
        (release.after.registry kind).table.get? handle ≠ none := by
  induction references generalizing store with
  | nil => exact absurd free used
  | cons reference references inductionHypothesis =>
      by_cases filled : (((Store.release enter reference).on
          (store.land reference)).2.registry kind).table.get? handle = none
      · obtain ⟨release, among, change⟩ := inductionHypothesis filled used
        exact ⟨release, List.mem_cons_of_mem _ among, change⟩
      · exact ⟨_, List.mem_cons_self, free, filled⟩

/-! ### One resource in a series of releases -/

/-- A resource without handles, with references that wait to be given back and others that are
kept. -/
structure Awaits (store : Store kinds) (reference : Reference kinds) (waiting kept : Nat) :
    Prop where
  hidden : store.slots reference = 0
  wrapped : store.Wraps reference
  counted : (store.resource reference).references = waiting + kept
  destroyed_iff : (store.resource reference).destroyed = true ↔ waiting + kept = 0

end Store

/-- What the log tells when waiting references are given back one after the other. -/
def Resource.farewell (resource : Resource) (reference : Reference kinds) (kept : Nat) :
    (waiting : Nat) → List (Occurrence kinds)
  | 0 => []
  | waiting + 1 =>
      if waiting + kept = 0 then
        [.released reference (.last (resource.destructorCall reference)),
          .called (resource.destructorCall reference) true]
      else .released reference .shared :: resource.farewell reference kept waiting

/-- References are given back silently, and only the last one of all ends in a call. -/
theorem Resource.farewell_succ (resource : Resource) (reference : Reference kinds)
    (kept waiting : Nat) :
    resource.farewell reference kept (waiting + 1) =
      if kept = 0 then
        List.replicate waiting (.released reference .shared) ++
          [.released reference (.last (resource.destructorCall reference)),
            .called (resource.destructorCall reference) true]
      else List.replicate (waiting + 1) (.released reference .shared) := by
  induction waiting with
  | zero =>
      rw [Resource.farewell, Nat.zero_add]
      rfl
  | succ waiting inductionHypothesis =>
      rw [Resource.farewell, if_neg (by omega), inductionHypothesis]
      split <;> rfl

theorem Resource.destructorCall_released (resource : Resource) (reference : Reference kinds) :
    resource.released.destructorCall reference = resource.destructorCall reference := by
  unfold Resource.released
  split <;> rfl

theorem Resource.farewell_released (resource : Resource) (reference : Reference kinds)
    (kept waiting : Nat) :
    resource.released.farewell reference kept waiting =
      resource.farewell reference kept waiting := by
  induction waiting with
  | zero => rfl
  | succ waiting inductionHypothesis =>
      simp only [Resource.farewell, inductionHypothesis, Resource.destructorCall_released]

namespace Store

namespace Awaits

variable {store : Store kinds} {reference : Reference kinds} {waiting kept : Nat}

theorem untouched {later : Store kinds} (awaits : store.Awaits reference waiting kept)
    (same : store.Untouched reference later) : later.Awaits reference waiting kept where
  hidden := same.slots
  wrapped := same.wraps
  counted := by rw [same.resource, awaits.counted]
  destroyed_iff := by rw [same.resource, awaits.destroyed_iff]

theorem not_destroyed (awaits : store.Awaits reference (waiting + 1) kept) :
    (store.resource reference).destroyed = false := by
  rw [← Bool.not_eq_true, awaits.destroyed_iff]
  omega

/-- Only the last of all references is given back with a call. -/
theorem verdict_eq (awaits : store.Awaits reference (waiting + 1) kept) :
    store.verdict reference =
      if waiting + kept = 0 then .last ((store.resource reference).destructorCall reference)
      else .shared := by
  have counted := awaits.counted
  have last_iff : (store.resource reference).references = 1 ↔ waiting + kept = 0 := by omega
  simp [verdict, Resource.verdict, awaits.not_destroyed, last_iff]

theorem aftermath_append (awaits : store.Awaits reference (waiting + 1) kept) :
    (store.resource reference).aftermath true reference ++
        (store.resource reference).farewell reference kept waiting =
      (store.resource reference).farewell reference kept (waiting + 1) := by
  have verdict : (store.resource reference).verdict reference = _ := awaits.verdict_eq
  rw [Resource.farewell, Resource.aftermath, verdict]
  by_cases none : waiting + kept = 0
  · have zero : waiting = 0 := by omega
    rw [if_pos none, if_pos none, zero]
    rfl
  · rw [if_neg none, if_neg none]
    rfl

theorem giveBack (awaits : store.Awaits reference (waiting + 1) kept) (entered : Bool) :
    (store.giveBack entered reference).Awaits reference waiting kept := by
  have counted := awaits.counted
  constructor
  · rw [slots_giveBack, awaits.hidden]
  · exact (wraps_giveBack _ _ _ _).mpr awaits.wrapped
  · rw [resource_giveBack, if_pos rfl, Resource.released, if_neg (by simp [awaits.not_destroyed])]
    simp only [counted]
    omega
  · rw [resource_giveBack, if_pos rfl, Resource.released, if_neg (by simp [awaits.not_destroyed])]
    simp only [counted, decide_eq_true_eq]
    omega

end Awaits

variable (running : Instance kinds) {reference : Reference kinds} {kept : Nat}

theorem Awaits.release {store : Store kinds} {waiting : Nat}
    (awaits : store.Awaits reference (waiting + 1) kept) :
    ((Store.release running.enter reference).on (store.land reference)).2.Awaits reference
        waiting kept ∧
      history ((Store.release running.enter reference).on
          (store.land reference)).2.log.toList reference =
        history store.log.toList reference ++
          (store.resource reference).aftermath true reference ∧
      ((Store.release running.enter reference).on
          (store.land reference)).2.resource reference =
        (store.resource reference).released := by
  have landed : (store.land reference).Awaits reference (waiting + 1) kept :=
    ⟨awaits.hidden, awaits.wrapped, awaits.counted, awaits.destroyed_iff⟩
  have given := landed.giveBack true
  have same := (running.release_evolves reference (store.land reference)).untouched given.hidden
    given.wrapped
  refine ⟨given.untouched same, ?_, ?_⟩
  · rw [same.history, log_giveBack, history_append, Resource.history_aftermath, if_pos rfl]
    rfl
  · rw [same.resource, resource_giveBack, if_pos rfl]
    rfl

theorem Awaits.untouched_release {store : Store kinds} {waiting : Nat}
    (awaits : store.Awaits reference waiting kept) {other : Reference kinds}
    (different : other ≠ reference) :
    store.Untouched reference ((Store.release running.enter other).on (store.land other)).2 := by
  have given : store.Untouched reference ((store.land other).giveBack true other) := by
    constructor
    · rw [resource_giveBack, if_neg different]
      rfl
    · rw [slots_giveBack]
      exact awaits.hidden
    · exact (wraps_giveBack _ _ _ _).mpr awaits.wrapped
    · rw [log_giveBack, history_append, Resource.history_aftermath, if_neg different,
        List.append_nil]
      rfl
  have same := (running.release_evolves other (store.land other)).untouched given.slots given.wraps
  exact ⟨same.resource.trans given.resource, same.slots, same.wraps,
    same.history.trans given.history⟩

/-- A series of releases takes the waiting references from a resource, and none of the others. -/
theorem Awaits.releases {references : List (Reference kinds)} {store : Store kinds}
    (awaits : store.Awaits reference (references.count reference) kept) :
    (store.afterAll (releases running.enter references store)).Awaits reference 0 kept ∧
      history (store.afterAll (releases running.enter references store)).log.toList reference =
        history store.log.toList reference ++
          (store.resource reference).farewell reference kept (references.count reference) := by
  induction references generalizing store with
  | nil => exact ⟨awaits, (List.append_nil _).symm⟩
  | cons head references inductionHypothesis =>
      by_cases same : head = reference
      · subst same
        rw [List.count_cons_self] at awaits ⊢
        obtain ⟨later, told, record⟩ := awaits.release running
        obtain ⟨ending, story⟩ := inductionHypothesis later
        refine ⟨ending, story.trans ?_⟩
        rw [told, record, List.append_assoc, Resource.farewell_released,
          awaits.aftermath_append]
      · rw [List.count_cons_of_ne same] at awaits ⊢
        have untouched := awaits.untouched_release running same
        obtain ⟨ending, story⟩ := inductionHypothesis (awaits.untouched untouched)
        refine ⟨ending, story.trans ?_⟩
        rw [untouched.history, untouched.resource]

/-- In a series of releases only the last one of a resource calls its destructor, and only if no
other reference is kept. -/
theorem Awaits.verdict_of_releases {references : List (Reference kinds)} {store : Store kinds}
    (awaits : store.Awaits reference (references.count reference) kept)
    {earlier later : List (Release kinds)} {release : Release kinds}
    (split : Store.releases running.enter references store = earlier ++ release :: later)
    (about : release.reference = reference) :
    release.before.verdict reference =
      if kept = 0 ∧ ∀ other ∈ later, other.reference ≠ reference then
        .last ((store.resource reference).destructorCall reference)
      else .shared := by
  induction references generalizing store earlier with
  | nil => simp [Store.releases] at split
  | cons head references inductionHypothesis =>
      rw [Store.releases] at split
      rcases earlier with - | ⟨first, earlier⟩
      · obtain ⟨rfl, rest⟩ := List.cons.inj split
        change head = reference at about
        subst about
        rw [List.count_cons_self] at awaits
        have landed : (store.land head).verdict head = _ := awaits.verdict_eq
        have none_iff : references.count head + kept = 0 ↔
            kept = 0 ∧ ∀ other ∈ later, other.reference ≠ head := by
          have waiting : later.map Release.reference = references := by
            rw [← rest]
            exact map_reference_releases _ _ _
          rw [← waiting, Nat.add_eq_zero_iff, List.count_eq_zero, and_comm]
          simp [eq_comm]
        rw [landed]
        simp only [none_iff]
      · obtain ⟨-, rest⟩ := List.cons.inj split
        by_cases same : head = reference
        · subst same
          rw [List.count_cons_self] at awaits
          obtain ⟨remaining, -, record⟩ := awaits.release running
          rw [inductionHypothesis remaining rest, record, Resource.destructorCall_released]
        · rw [List.count_cons_of_ne same] at awaits
          have untouched := awaits.untouched_release running same
          rw [inductionHypothesis (awaits.untouched untouched) rest, untouched.resource]

/-- An invariant holds before each of several releases, with the reference at hand outside the
tables. -/
theorem Invariant.releases {aliasing : Prop} {holds : Account kinds → Store kinds → Prop}
    (invariant : Invariant aliasing holds) {outside : Account kinds}
    {references : List (Reference kinds)} {store : Store kinds}
    (held : holds (outside.addAll references) store) :
    ∀ release ∈ Store.releases running.enter references store,
      ∃ others : Account kinds, holds (others.add release.reference) release.before := by
  induction references generalizing store with
  | nil => exact nofun
  | cons head references inductionHypothesis =>
      have landed : holds ((outside.addAll references).add head) (store.land head) := by
        rw [← Account.addAll_cons]
        exact invariant.withInFlight _ held
      have later : holds (outside.addAll references)
          ((Store.release running.enter head).on (store.land head)).2 :=
        invariant.evolves (invariant.giveBack true landed) (fun _ => False.elim)
          (running.release_evolves head (store.land head))
      intro release among
      rcases List.mem_cons.mp among with rfl | rest
      · exact ⟨_, landed⟩
      · exact inductionHypothesis later release rest

end Store

end GuestBoundary
