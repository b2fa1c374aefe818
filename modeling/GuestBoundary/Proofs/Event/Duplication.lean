import GuestBoundary.Proofs.Event.Closing
import GuestBoundary.Proofs.Resource.Guarding

/-!
# Hosts that duplicate references

A host may hold one reference twice without counting it, and so give it back too often. Counts then
say nothing about how many references there are, but every way of giving a reference back still
looks at the flag first. A resource is destroyed at most once and stays destroyed; from then on
whatever is given back is refused and changes nothing.
-/

namespace GuestBoundary

namespace Store

variable {kinds : Nat} {store : Store kinds} {reference : Reference kinds}

theorem verdict_of_destroyed (destroyed : (store.resource reference).destroyed = true) :
    store.verdict reference = .refused := by
  rw [verdict, Resource.verdict, if_pos destroyed]

theorem on_release_of_destroyed (enter : Entry kinds)
    (destroyed : (store.resource reference).destroyed = true) :
    (release enter reference).on store =
      (.error (.doubleDrop (store.registry reference.kind).name
        (store.resource reference).representation), store.book reference) := by
  rw [on_release, consequence, verdict_of_destroyed destroyed, Work.on_throw]

theorem resource_book_of_destroyed (destroyed : (store.resource reference).destroyed = true)
    (other : Reference kinds) : (store.book reference).resource other = store.resource other := by
  rw [resource_book]
  split
  next same => rw [Resource.released_of_destroyed destroyed, same]
  next => rfl

end Store

namespace Host

variable {kinds : Nat}

theorem on_surrender {host : Host kinds} {kind : Fin kinds} {number identity : Nat}
    (found : (host.numbers kind)[number]? = some (some identity)) :
    (surrender kind number).on host = (.ok { kind, identity }, host.withdraw kind number) := by
  have there : (reference kind number).on host = (.ok { kind, identity }, host) := by
    rw [reference, Work.on_get_bind, found]
    rfl
  rw [surrender, Work.on_bind, there]
  rfl

theorem on_serveTable_release (running : Instance kinds) {host : Host kinds} {kind : Fin kinds}
    {number identity : Nat} (found : (host.numbers kind)[number]? = some (some identity)) :
    (serveTable running kind (.release number)).on host =
      ((((Store.release running.enter { kind, identity }).on host.store).1.mapError
          Refusal.fault).map fun _ => .done,
        (host.withdraw kind number).withStore
          ((Store.release running.enter { kind, identity }).on host.store).2) := by
  rw [serveTable, Work.on_bind, on_surrender found]
  dsimp only
  rw [Work.on_bind, on_attempt, store_withdraw]
  rcases (Store.release running.enter { kind, identity }).on host.store with
    ⟨fault | _, after⟩ <;> rfl

end Host

namespace Event

/-- Whether giving a reference back to a store is decided by the flag: of a destroyed resource it is
refused, by name and representation and with no change to any record, and otherwise there is a
count that it can be taken from. -/
structure Decided (store : EventStore) (reference : EventReference) (fails : Fault → Prop)
    (after : EventStore) : Prop where
  refused : (store.resource reference).destroyed = true →
    fails (.doubleDrop resourceName (store.resource reference).representation) ∧
      ∀ other, after.resource other = store.resource other
  counted : (store.resource reference).destroyed = false →
    1 ≤ (store.resource reference).references

/-- What a host can rely on even if it has duplicated references without counting them. -/
structure Guarded (host : Host 1) : Prop where
  alive : ∀ reference, (host.store.resource reference).destroyed = false →
    1 ≤ (host.store.resource reference).references
  /-- After its destructor was called, references to a resource are only refused. -/
  told : ∀ reference, host.store.Wraps reference → ∃ story,
    history host.store.log.toList reference =
        .wrapped reference (host.store.resource reference).original :: story ∧
      (host.store.resource reference).Told reference story
  once : ∀ reference, (host.store.log.toList.filter (·.destroys reference)).length ≤ 1
  /-- A reference that the host gives back. -/
  released : ∀ (running : Instance 1) (number identity : Nat),
    (host.numbers eventKind)[number]? = some (some identity) →
      Decided host.store { kind := eventKind, identity }
        (fun fault => ((Host.serveTable running eventKind (.release number)).on host).1 =
          .error (.fault fault))
        ((Host.serveTable running eventKind (.release number)).on host).2.store
  /-- A handle that the guest gives back. -/
  dropped : ∀ (enter : Entry 1) (handle : Word) (identity : Nat),
    (host.store.registry eventKind).table.get? handle.toNat = some identity →
      Decided host.store { kind := eventKind, identity }
        (fun fault => ((Store.lifecycle enter eventKind .drop handle).on host.store).1 =
          .error fault)
        ((Store.lifecycle enter eventKind .drop handle).on host.store).2
  /-- Each of the references that closing gives back, one after the other. -/
  closed : ∀ session : Session,
    session.close.on host.store =
        (match (session.releases host.store).findSome? Release.fault? with
          | some fault => .error fault
          | none => .ok (),
          session.closed host.store) ∧
      ∀ release ∈ session.releases host.store,
        Decided release.before release.reference (fun fault => release.outcome = .error fault)
          release.after

/-- Giving back is decided by the flag in every store whose counts and names are right. -/
theorem decided_release {store : EventStore} (named : store.Named fun _ => resourceName)
    (alive : store.Alive) (enter : Entry 1) (reference : EventReference) :
    Decided store reference
      (fun fault => ((Store.release enter reference).on store).1 = .error fault)
      ((Store.release enter reference).on store).2 where
  refused destroyed := by
    rw [Store.on_release_of_destroyed enter destroyed, named]
    exact ⟨rfl, Store.resource_book_of_destroyed destroyed⟩
  counted := alive reference

/-- What a store keeps however its host duplicates references. -/
def Kept (outside : Account 1) (store : EventStore) : Prop :=
  store.Named (fun _ => resourceName) ∧ store.Alive ∧ store.Tracked outside

theorem kept_invariant (aliasing : Prop) : Store.Invariant aliasing Kept :=
  (Store.Named.invariant aliasing).and
    ((Store.Alive.invariant aliasing).and (Store.Tracked.invariant aliasing))

theorem Guarded.of_kept {host : Host 1} (kept : Kept host.outside host.store) : Guarded host := by
  obtain ⟨named, alive, tracked⟩ := kept
  constructor
  · exact alive
  · exact tracked.chronicled.wrapped
  · exact tracked.chronicled.length_destructions_le
  · intro running number identity found
    have decided := decided_release named alive running.enter { kind := eventKind, identity }
    rw [Host.on_serveTable_release running found]
    refine ⟨fun destroyed => ?_, decided.counted⟩
    obtain ⟨failed, same⟩ := decided.refused destroyed
    exact ⟨by rw [failed]; rfl, same⟩
  · intro enter handle identity held
    obtain ⟨table, taken⟩ := Slab.exists_take_of_get? held
    have same (reference : EventReference) :
        (host.store.withTable eventKind table).resource reference =
          host.store.resource reference := Store.resource_withTable _ _ _ _
    have decided := decided_release (named.withTable eventKind table)
      (alive.of_resources same) enter { kind := eventKind, identity }
    rw [Store.on_drop enter eventKind taken]
    refine ⟨fun destroyed => ?_, fun present => ?_⟩
    · obtain ⟨failed, unchanged⟩ := decided.refused ((same _).symm ▸ destroyed)
      rw [same] at failed
      exact ⟨by rw [failed]; rfl, fun other => (unchanged other).trans (same other)⟩
    · exact same _ ▸ decided.counted ((same _).symm ▸ present)
  · intro session
    refine ⟨session.on_close host.store, fun release among => ?_⟩
    have emptied : Kept (host.outside.addAll (host.store.parked eventKind))
        (Session.emptied host.store) :=
      (kept_invariant False).withInFlight _
        ((kept_invariant False).empty eventKind ⟨named, alive, tracked⟩)
    obtain ⟨others, named, alive, -⟩ :=
      (kept_invariant False).releases session.running emptied release among
    have decided := decided_release named alive session.running.enter release.reference
    rw [Store.on_of_mem_releases among] at decided
    exact decided

theorem kept_freshHost (configuration : Configuration) :
    Kept (freshHost configuration).outside (freshHost configuration).store := by
  have sound : (freshHost configuration).Sound := Host.sound_ofStore_ofNames _ _
  refine ⟨fun kind => ?_, fun reference present => ?_, fun reference somewhere => ?_,
    sound.chronicled⟩
  · have registry : (freshHost configuration).store.registry kind = _ :=
      Store.registry_ofNames _ _ kind
    rw [registry, Subsingleton.elim kind 0]
    rfl
  · apply Nat.pos_of_ne_zero
    intro none
    rw [(sound.balanced.destroyed_iff reference).mpr none] at present
    cases present
  · apply Store.wraps_of_references_pos
    rw [sound.balanced.counted]
    exact somewhere

namespace SessionHost

variable (engine : Engine 1) (configuration : Configuration) (program : Program 1)

theorem kept_of_seen_run {requests : List Request} {host : Host 1}
    (seen : (run engine configuration program requests).seen host) :
    Kept host.outside host.store :=
  (evolves_of_seen_run (fun _ _ => trivial) seen).preserves (kept_invariant True)
    (kept_freshHost configuration)

/-- However a host duplicates references, with any guest and whatever its destructors do: all that
is given back is decided by the flag of the resource, and destroying happens at most once. Of two
hosts that can be seen in a run one came first, the one whose log the other's goes on from, and what
is destroyed in it stays destroyed and keeps its representation. -/
theorem run_guarded (requests : List Request) :
    (∀ host, (run engine configuration program requests).seen host → Guarded host) ∧
      ∀ host later, (run engine configuration program requests).seen host →
        (run engine configuration program requests).seen later →
          (host.record <+: later.record ∨ later.record <+: host.record) ∧
            (host.record <+: later.record → ∀ reference, host.store.Wraps reference →
              (host.store.resource reference).destroyed = true →
                (later.store.resource reference).destroyed = true ∧
                  (later.store.resource reference).representation =
                    (host.store.resource reference).representation) := by
  constructor
  · intro host seen
    exact Guarded.of_kept (kept_of_seen_run engine configuration program seen)
  · intro host later seen seenLater
    refine ⟨records_ordered seen seenLater, ?_⟩
    intro grows reference wrapped destroyed
    obtain ⟨-, -, earlier⟩ := kept_of_seen_run engine configuration program seen
    obtain ⟨-, -, after⟩ := kept_of_seen_run engine configuration program seenLater
    obtain ⟨-, same, stays⟩ := earlier.chronicled.of_log_grows after.chronicled grows wrapped
    have representation := congrArg Resource.representation same
    exact ⟨stays destroyed, representation⟩

/-- An event is held twice and counted once; its destructor wraps another event. -/
theorem run_guarded_of_alias :
    let event : EventReference := { kind := eventKind, identity := 0 }
    ∃ (host : Host 1) (running : Instance 1),
      (run tightEngine {} countdown
        [.session .create, .holding (.alias 0), .session (.table (.release 0))]).seen host ∧
      (host.store.resource event).destroyed = true ∧
      ((Host.serveTable running eventKind (.release 1)).on host).1 =
        .error (.fault (.doubleDrop resourceName 1)) := by
  intro event
  obtain ⟨outcomes, state, ran, ending⟩ := exists_ending tightEngine {} countdown
    [.session .create, .holding (.alias 0), .session (.table (.release 0))]
    (fun state => state.session.isSome ∧ (state.host.numbers eventKind)[1]? = some (some 0) ∧
      (state.host.store.resource event).destroyed ∧
        (state.host.store.resource event).representation = 1)
    (by decide +kernel)
  obtain ⟨some, found, destroyed, representation⟩ := of_decide_eq_true ending
  obtain ⟨session, -⟩ := Option.isSome_iff_exists.mp some
  have guarded := (run_guarded tightEngine {} countdown _).1 state.host (seen_of_run ran)
  obtain ⟨refused, -⟩ := (guarded.released session.running 1 0 found).refused destroyed
  rw [representation] at refused
  exact ⟨state.host, session.running, seen_of_run ran, destroyed, refused⟩

end SessionHost

end Event

end GuestBoundary
