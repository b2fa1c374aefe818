import Mathlib.Data.List.Forall2
import GuestBoundary.Proofs.Event.Lifetime
import GuestBoundary.Proofs.Guest.Releases

/-!
# Closing a session

Closing first empties the table and then gives back, one after the other, the references that were
in it. Meanwhile destructors may fill the table again, but none of them can reach a reference that
still waits. So every slot is vacated just as the count of its resource says, and what dropping the
store reports was put there by a destructor.
-/

namespace GuestBoundary.Event

theorem on_dispose (store : EventStore) :
    dispose.on store =
      (match store.leak? eventKind with
        | some leak => .error leak
        | none => .ok (),
        store) := by
  rw [dispose, Work.on_get_bind]
  cases store.leak? eventKind <;> rfl

namespace Session

variable (session : Session) (store : EventStore)

/-- The store with nothing in the table; the references from there wait to be given back. -/
def emptied : EventStore := (store.withTable eventKind ∅).launch (store.parked eventKind)

/-- The releases that closing comes to. -/
def releases : List (Release 1) :=
  Store.releases session.running.enter (store.parked eventKind) (emptied store)

/-- The store that closing leaves. -/
def closed : EventStore := (emptied store).afterAll (session.releases store)

/-- Whatever fails, everything is given back, and the first fault is the answer. -/
theorem on_close :
    session.close.on store =
      (match (session.releases store).findSome? Release.fault? with
        | some fault => .error fault
        | none => .ok (),
        session.closed store) := by
  have taken : (Store.unparkAll eventKind).on store =
      (.ok (store.parked eventKind), store.withTable eventKind ∅) := rfl
  rw [close, Work.on_bind, taken]
  exact Store.on_releaseAll _ _ _

/-- Dropping the store changes nothing; what it reports hides the outcome of closing. -/
theorem on_closeAndDispose :
    session.closeAndDispose.on store =
      match (session.closed store).leak? eventKind with
      | some leak => (.error leak, session.closed store)
      | none => session.close.on store := by
  have final : (session.close.on store).2 = session.closed store := by rw [on_close]
  rw [closeAndDispose, Work.on_bind, Work.on_settle, final]
  dsimp only
  rw [Work.on_bind, on_dispose]
  cases (session.closed store).leak? eventKind with
  | some leak => rfl
  | none =>
      dsimp only
      rw [Attempt.on_ofExcept, ← final]

/-- Whether the reference in a slot is the last one to be given back: no reference to its resource
lies outside the table, and no higher slot holds another. -/
def Completes (slot : Nat × EventReference) : Prop :=
  (store.resource slot.2).references = store.slots slot.2 ∧
    ∀ higher, slot.1 < higher →
      (store.registry eventKind).table.get? higher ≠ some slot.2.identity

/-- How the reference in a slot is given back when a session is closed. -/
structure Vacates (slot : Nat × EventReference) (release : Release 1) : Prop where
  reference : release.reference = slot.2
  /-- The highest slot of a resource that nobody else holds calls its destructor. -/
  last : Completes store slot →
    release.before.verdict slot.2 = .last ((store.resource slot.2).destructorCall slot.2)
  shared : ¬ Completes store slot → release.before.verdict slot.2 = .shared
  /-- The log goes on with the release and, if that is the last one, with the destructor. -/
  told :
    release.before.log.toList ++ (release.before.resource slot.2).aftermath true slot.2 <+:
      release.after.log.toList
  /-- As long as other references remain, giving one back succeeds and fills no slot. -/
  quiet : release.before.verdict slot.2 = .shared →
    release.outcome = .ok () ∧
      (release.after.registry eventKind).table = (release.before.registry eventKind).table

/-- What closing a session and dropping its store do, slot by slot and resource by resource. -/
structure Closing (slots : List (Nat × EventReference)) : Prop where
  ascending : slots.Pairwise fun lower higher => lower.1 < higher.1
  occupied : ∀ slot, slot ∈ slots ↔
    (store.registry eventKind).table.get? slot.1 = some slot.2.identity
  /-- There is one release for each slot, in the same order. -/
  vacated : List.Forall₂ (Vacates store) slots (session.releases store)
  /-- Closing succeeds if all releases do; otherwise it fails like the first that failed. -/
  ending :
    session.close.on store =
      (match (session.releases store).findSome? Release.fault? with
        | some fault => .error fault
        | none => .ok (),
        session.closed store)
  /-- A resource in the table keeps the references that lie elsewhere. -/
  kept : ∀ reference, 0 < store.slots reference →
    ((session.closed store).resource reference).references + store.slots reference =
      (store.resource reference).references
  destroyed_iff : ∀ reference, 0 < store.slots reference →
    (((session.closed store).resource reference).destroyed = true ↔
      (store.resource reference).references = store.slots reference)
  /-- All that happens to a resource in the table is that its slots are vacated. -/
  told : ∀ reference, 0 < store.slots reference →
    history (session.closed store).log.toList reference =
      history store.log.toList reference ++
        if (store.resource reference).references = store.slots reference then
          List.replicate (store.slots reference - 1) (.released reference .shared) ++
            [.released reference (.last ((store.resource reference).destructorCall reference)),
              .called ((store.resource reference).destructorCall reference) true]
        else List.replicate (store.slots reference) (.released reference .shared)
  /-- What is in the table afterwards was left there by a destructor. -/
  refilled : ∀ handle, ((session.closed store).registry eventKind).table.get? handle ≠ none →
    ∃ release ∈ session.releases store,
      (∃ call, release.before.verdict release.reference = .last call) ∧
        (release.before.registry eventKind).table.get? handle = none ∧
          (release.after.registry eventKind).table.get? handle ≠ none
  /-- Dropping the store reports the lowest occupied slot. -/
  leaked : ∀ handle reference,
    ((session.closed store).registry eventKind).table.get? handle = some reference.identity →
      (∀ lower, lower < handle →
        ((session.closed store).registry eventKind).table.get? lower = none) →
        session.closeAndDispose.on store =
          (.error (.leaked ((session.closed store).registry eventKind).name
            ((session.closed store).resource reference).representation),
            session.closed store)
  /-- With no slot occupied, the outcome of closing stays. -/
  unleaked : (∀ handle, ((session.closed store).registry eventKind).table.get? handle = none) →
    session.closeAndDispose.on store = session.close.on store

variable {store} {outside : Account 1}

@[simp]
theorem resource_emptied (store : EventStore) (reference : EventReference) :
    (emptied store).resource reference = store.resource reference :=
  Store.resource_withTable _ _ _ _

theorem table_emptied (store : EventStore) : ((emptied store).registry eventKind).table = ∅ :=
  store.table_withTable eventKind ∅

theorem slots_emptied (store : EventStore) (reference : EventReference) :
    (emptied store).slots reference = 0 := by
  have none := store.slots_withTable eventKind ∅ reference
  rw [if_pos (Subsingleton.elim _ _)] at none
  exact none

/-- Once the table is emptied, the references that were in it wait, and all others are kept. -/
theorem awaits_of_balanced (balanced : store.Balanced outside) {reference : EventReference}
    (held : 0 < store.slots reference) :
    (emptied store).Awaits reference ((store.parked eventKind).count reference)
      (outside reference) := by
  have here : eventKind = reference.kind := Subsingleton.elim _ _
  have counted : (store.resource reference).references =
      (store.parked eventKind).count reference + outside reference := by
    rw [Store.count_parked, if_pos here, balanced.counted, Nat.add_comm]
  constructor
  · exact slots_emptied store reference
  · exact (Store.wraps_withTable _ _ _ _).mpr
      (Store.wraps_of_references_pos (balanced.references_pos_of_slots held))
  · rw [resource_emptied, counted]
  · rw [resource_emptied, balanced.destroyed_iff, counted]

theorem outside_eq_zero_iff (balanced : store.Balanced outside) (reference : EventReference) :
    outside reference = 0 ↔ (store.resource reference).references = store.slots reference := by
  have counted := balanced.counted reference
  omega

section

variable {slot : Nat × EventReference} {release : Release 1}
  {earlier later : List ((Nat × EventReference) × Release 1)}

theorem forall₂_releases (store : EventStore) :
    List.Forall₂ (fun slot release => slot.2 = release.reference) (store.entries eventKind)
      (session.releases store) := by
  have same : (store.entries eventKind).map Prod.snd =
      (session.releases store).map Release.reference := by
    rw [Store.map_snd_entries, releases, Store.map_reference_releases]
  rw [← List.forall₂_eq_eq_eq, List.forall₂_map_left_iff, List.forall₂_map_right_iff] at same
  exact same

theorem entries_of_split
    (split : (store.entries eventKind).zip (session.releases store) =
      earlier ++ (slot, release) :: later) :
    store.entries eventKind = earlier.map Prod.fst ++ slot :: later.map Prod.fst := by
  have lengths := (session.forall₂_releases store).length_eq
  rw [← List.map_fst_zip (Nat.le_of_eq lengths), split, List.map_append, List.map_cons]

theorem releases_of_split
    (split : (store.entries eventKind).zip (session.releases store) =
      earlier ++ (slot, release) :: later) :
    session.releases store = earlier.map Prod.snd ++ release :: later.map Prod.snd := by
  have lengths := (session.forall₂_releases store).length_eq
  rw [← List.map_snd_zip (Nat.le_of_eq lengths.symm), split, List.map_append, List.map_cons]

/-- The highest slot of a resource is the one with no later release of the same resource. -/
theorem completes_iff (balanced : store.Balanced outside)
    (split : (store.entries eventKind).zip (session.releases store) =
      earlier ++ (slot, release) :: later) :
    Completes store slot ↔
      outside slot.2 = 0 ∧ ∀ other ∈ later.map Prod.snd, other.reference ≠ slot.2 := by
  have after_iff := Store.mem_later_entries (session.entries_of_split split)
  have matched {entry : Nat × EventReference} {other : Release 1}
      (pair : (entry, other) ∈ later) : entry.2 = other.reference := by
    apply List.forall₂_zip (session.forall₂_releases store)
    rw [split]
    exact List.mem_append_right _ (List.mem_cons_of_mem _ pair)
  rw [Completes, outside_eq_zero_iff balanced]
  refine and_congr_right fun _ => ⟨fun highest other among same => ?_,
    fun none higher above held => ?_⟩
  · obtain ⟨⟨entry, other⟩, pair, rfl⟩ := List.mem_map.mp among
    obtain ⟨above, present⟩ := (after_iff entry).mp (List.mem_map_of_mem pair)
    obtain ⟨-, held⟩ := (store.mem_entries_iff eventKind entry).mp present
    rw [matched pair, same] at held
    exact highest entry.1 above held
  · have present : (higher, slot.2) ∈ store.entries eventKind :=
      (store.mem_entries_iff eventKind _).mpr ⟨Subsingleton.elim _ _, held⟩
    obtain ⟨⟨_, other⟩, pair, rfl⟩ := List.mem_map.mp ((after_iff _).mpr ⟨above, present⟩)
    exact none other (List.mem_map_of_mem pair) (matched pair).symm

/-- Each release gives back the reference in its slot, and is the last one of its resource exactly
if the slot is the highest. -/
theorem vacates_of_balanced (balanced : store.Balanced outside)
    (paired : (slot, release) ∈ (store.entries eventKind).zip (session.releases store)) :
    Vacates store slot release := by
  obtain ⟨earlier, later, split⟩ := List.append_of_mem paired
  have same : slot.2 = release.reference := List.forall₂_zip (session.forall₂_releases store) paired
  obtain ⟨occupied, among⟩ := List.of_mem_zip paired
  have held : 0 < store.slots slot.2 := store.slots_pos_of_mem_entries occupied
  have carried := Store.on_of_mem_releases among
  have decided := (awaits_of_balanced balanced held).verdict_of_releases session.running
    (session.releases_of_split split) same.symm
  have completes := session.completes_iff balanced split
  have evolves : (release.before.giveBack true release.reference).Evolves (fun _ => False)
      ((Store.release session.running.enter release.reference).on release.before).2 :=
    session.running.release_evolves release.reference release.before
  rw [carried] at evolves
  constructor
  · exact same.symm
  · intro last
    rw [decided, if_pos (completes.mp last), resource_emptied]
  · intro more
    rw [decided, if_neg fun last => more (completes.mpr last)]
  · rw [same, ← Store.log_giveBack]
    exact evolves.log_grows
  · intro shared
    rw [same] at shared
    rw [Store.on_release_of_shared _ shared] at carried
    obtain ⟨outcome, after⟩ := Prod.mk.inj carried
    exact ⟨outcome.symm, after ▸ Store.table_book _ _ _⟩

theorem exists_vacates (balanced : store.Balanced outside)
    (among : release ∈ session.releases store) : ∃ slot, Vacates store slot release := by
  have lengths := (session.forall₂_releases store).length_eq
  rw [← List.map_snd_zip (Nat.le_of_eq lengths.symm)] at among
  obtain ⟨⟨slot, release⟩, paired, rfl⟩ := List.mem_map.mp among
  exact ⟨slot, session.vacates_of_balanced balanced paired⟩

end

theorem closing_of_balanced (balanced : store.Balanced outside) :
    Closing session store (store.entries eventKind) := by
  have series {reference : EventReference} (held : 0 < store.slots reference) :=
    (awaits_of_balanced balanced held).releases session.running
  have waiting (reference : EventReference) :
      (store.parked eventKind).count reference = store.slots reference := by
    rw [Store.count_parked, if_pos (Subsingleton.elim _ _)]
  constructor
  · exact store.pairwise_entries eventKind
  · intro slot
    rw [Store.mem_entries_iff, and_iff_right (Subsingleton.elim _ _)]
  · exact List.forall₂_iff_zip.mpr
      ⟨(session.forall₂_releases store).length_eq, session.vacates_of_balanced balanced⟩
  · exact session.on_close store
  · intro reference held
    have ending := (series held).1.counted
    have counted := balanced.counted reference
    change ((session.closed store).resource reference).references = _ at ending
    omega
  · intro reference held
    rw [← outside_eq_zero_iff balanced]
    have ending := (series held).1.destroyed_iff
    rw [Nat.zero_add] at ending
    exact ending
  · intro reference held
    have story := (series held).2
    obtain ⟨others, slots⟩ := Nat.exists_eq_succ_of_ne_zero (Nat.ne_of_gt held)
    rw [waiting, resource_emptied, slots, Resource.farewell_succ] at story
    simp only [← outside_eq_zero_iff balanced]
    rw [slots]
    exact story
  · intro handle used
    have free : ((emptied store).registry eventKind).table.get? handle = none := by
      rw [table_emptied]
      rfl
    obtain ⟨release, among, empty, filled⟩ := Store.exists_mem_releases free used
    obtain ⟨slot, vacates⟩ := session.exists_vacates balanced among
    refine ⟨release, among, ?_, empty, filled⟩
    by_cases last : Completes store slot
    · exact ⟨_, vacates.reference ▸ vacates.last last⟩
    · obtain ⟨-, same⟩ := vacates.quiet (vacates.shared last)
      exact absurd (same ▸ empty) filled
  · rintro handle ⟨kind, identity⟩ held lowest
    obtain rfl : kind = eventKind := Subsingleton.elim _ _
    have leaking : (session.closed store).leak? eventKind = some
        (.leaked ((session.closed store).registry eventKind).name
          ((session.closed store).resource { kind := eventKind, identity }).representation) := by
      rw [Store.leak?, Store.parked, List.head?_map, Slab.head?_values_of_lowest held lowest]
      rfl
    rw [on_closeAndDispose, leaking]
  · intro free
    have leakless : (session.closed store).leak? eventKind = none := by
      rw [Store.leak?, Store.parked, (Slab.values_eq_nil_iff _).mpr free]
      rfl
    rw [on_closeAndDispose, leakless]

end Session

namespace SessionHost

theorem value_withSession {α : Type} {state : SessionHost} {session : Session}
    (opened : state.session = some session) (work : Session → HostRun 1 α) :
    (state.withSession work).value =
      (((work session).on state.host).1,
        { state with host := ((work session).on state.host).2 }) := by
  rw [withSession, opened]
  rfl

/-- A request to close an open session closes it, drops it, and leaves the host what it holds. -/
theorem value_serve_close {state : SessionHost} {session : Session}
    (opened : state.session = some session) :
    (state.serve .close).value =
      (((session.closeAndDispose.on state.host.store).1.mapError Refusal.fault).map
          fun _ => .common .done,
        { host := state.host.withStore (session.closed state.host.store), session := none }) := by
  have final : (session.closeAndDispose.on state.host.store).2 =
      session.closed state.host.store := by
    rw [Session.on_closeAndDispose]
    split
    next => rfl
    next => rw [Session.on_close]
  rw [serve, Watched.value_bind, value_withSession opened, Host.on_attempt, final]
  rfl

/-- What closing does in every run of a host that counts its references, at whatever time it closes
the session and whatever the guest does then. -/
theorem closing_of_run {engine : Engine 1} {configuration : Configuration}
    {program : Program 1} {requests : List Request}
    (counted : ∀ number, .holding (.alias number) ∉ requests)
    {outcomes : List (Except Refusal SessionReply)} {state : SessionHost}
    (ran : (run engine configuration program requests).value = .ok (outcomes, state))
    {session : Session} (opened : state.session = some session) :
    (state.serve .close).value =
        (((session.closeAndDispose.on state.host.store).1.mapError Refusal.fault).map
            fun _ => .common .done,
          { host := state.host.withStore (session.closed state.host.store), session := none }) ∧
      ∃ slots, session.Closing state.host.store slots :=
  ⟨value_serve_close opened,
    _, session.closing_of_balanced (sound_of_seen_run counted (seen_of_run ran)).balanced⟩

/-- The last handle of an event is closed, and its destructor leaves another event behind. -/
theorem closing_of_countdown :
    ∃ (state : SessionHost) (session : Session),
      state.session = some session ∧
      (state.serve .close).value.1 = .error (.fault (.leaked resourceName 0)) ∧
      ∃ slots, session.Closing state.host.store slots := by
  obtain ⟨outcomes, state, ran, ending⟩ := exists_ending tightEngine {} countdown
    [.session .create, .session (.table (.lower 0)), .session (.table (.release 0))]
    (fun state => state.session.isSome ∧
      (state.serve .close).value.1 = .error (.fault (.leaked resourceName 0)))
    (by decide +kernel)
  obtain ⟨some, leak⟩ := of_decide_eq_true ending
  obtain ⟨session, opened⟩ := Option.isSome_iff_exists.mp some
  exact ⟨state, session, opened, leak, (closing_of_run (by simp) ran opened).2⟩

end SessionHost

end GuestBoundary.Event
