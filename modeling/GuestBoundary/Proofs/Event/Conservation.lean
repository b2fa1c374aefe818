import GuestBoundary.Proofs.Event.Dismantling
import GuestBoundary.Proofs.Event.Unopened
import GuestBoundary.Proofs.Guest.Reaching
import GuestBoundary.Proofs.Resource.Destructions

/-!
# Every resource is destroyed by the end

While a session is open, a reference is in a table or in the host's hands, unless the host has
dropped it. So a host that drops none and gives back all that it has leaves closing to give back
the rest, wherever a call that failed has left it. With an empty table a destructor can do nothing
but wrap; if none does, the table stays empty, and every resource that was ever wrapped has been
destroyed by one call.
-/

namespace GuestBoundary

open Relation

variable {kinds : Nat} {α : Type}

/-! ### Releases with an empty table -/

namespace Store.Vacant

variable {running : Instance kinds} {store : Store kinds}

theorem of_tables {other : Store kinds} (vacant : store.Vacant)
    (tables : ∀ kind, (other.registry kind).table = (store.registry kind).table) :
    other.Vacant := fun kind handle => by rw [tables, vacant]

theorem leak?_eq_none (vacant : store.Vacant) (kind : Fin kinds) : store.leak? kind = none := by
  rw [leak?, parked, (Slab.values_eq_nil_iff _).mpr (vacant kind)]
  rfl

/-- In a vacant store a destructor does nothing to tables and makes no records, unless it wraps. -/
theorem release {depth room : Nat} {reference : Reference kinds} (vacant : store.Vacant)
    (unwrapping : ¬ store.ReleaseAsks running depth room reference .new) :
    let left := ((Store.release (running.within depth room) reference).on store).2
    left.Vacant ∧ ∀ other, left.Wraps other ↔ store.Wraps other := by
  obtain ⟨entered, memory, globals, final⟩ := release_inside
    fun call last => Instance.idle_of_vacant (vacant.of_tables (store.table_book reference))
      fun asks => unwrapping ⟨call, last, asks⟩
  rw [final]
  exact ⟨vacant.of_tables (store.table_giveBack entered reference),
    store.wraps_giveBack entered reference⟩

theorem afterAll {references : List (Reference kinds)} (vacant : store.Vacant)
    (unwrapping : ∀ release ∈ releases running.enter references store,
      ¬ release.before.ReleaseAsks running (running.engine.stack + 1)
        (running.engine.stack + running.engine.callSize) release.reference .new) :
    let left := store.afterAll (releases running.enter references store)
    left.Vacant ∧ ∀ other, left.Wraps other ↔ store.Wraps other := by
  induction references generalizing store with
  | nil => exact ⟨vacant, fun _ => Iff.rfl⟩
  | cons reference references inductionHypothesis =>
      obtain ⟨first, later⟩ := List.forall_mem_cons.mp unwrapping
      have landed : (store.land reference).Vacant := vacant
      have released := landed.release first
      rw [← running.enter_eq_within] at released
      have ending := inductionHypothesis released.1 later
      exact ⟨ending.1, fun other => (ending.2 other).trans (released.2 other)⟩

end Store.Vacant

namespace Event

namespace Session

variable (session : Session)

/-- Closing destroys what the host has no reference to. -/
theorem destroyed_of_closed {host : Host 1} (sound : host.Sound)
    (nowhere : ∀ reference, host.outside reference = 0) {reference : EventReference}
    (wrapped : host.store.Wraps reference) :
    ((session.closed host.store).resource reference).destroyed = true := by
  have evolves : host.Evolves False (host.withStore (session.closed host.store)) :=
    session.closed_evolves host
  have later : (session.closed host.store).Chronicled := (evolves.sound sound).chronicled
  obtain ⟨still, -⟩ := sound.chronicled.of_log_grows later evolves.log_grows wrapped
  have once := session.destructions_of_closed sound nowhere wrapped
  rw [later.length_destructions still] at once
  by_contra alive
  rw [if_neg alive] at once
  exact absurd once Nat.zero_ne_one

end Session

namespace SessionHost

/-- Of a host that never drops a reference without giving it back. -/
def careful : Licence := { aliasing := True, leaking := False, looking := True }

/-- A request that leaves a session open found it open. It makes a reference stray only if the host
drops it. -/
theorem astray_of_serve {state : SessionHost} {request : Request}
    (unleaked : ∀ number, request ≠ .holding (.leak number))
    (still : (state.serve request).value.2.session ≠ none) :
    state.session ≠ none ∧ (state.serve request).value.2.host.astray = state.host.astray := by
  cases request with
  | holding request =>
      refine ⟨still, ?_⟩
      have quiet : (Host.serveHolding eventKind request).Quiet careful state.host :=
        Host.serveHolding_quiet eventKind request (fun _ _ => trivial) fun number same =>
          unleaked number (congrArg Request.holding same)
      exact Host.astray_eq_of_steps id (Work.Confined.of_quiet quiet).final
  | session request =>
      cases opened : state.session with
      | none =>
          rw [serve, withSession, opened] at still
          exact absurd opened still
      | some session =>
          refine ⟨Option.some_ne_none session, ?_⟩
          rw [serve, value_withSession opened]
          have made : (session.serve request).Made session.running careful state.host :=
            session.serve_made request fun _ => trivial
          exact Host.astray_eq_of_steps id made.confined.final
  | close => exact absurd rfl still
  | abandon =>
      cases opened : state.session with
      | none =>
          rw [serve, opened] at still
          exact absurd opened still
      | some session =>
          rw [serve, opened] at still
          exact absurd rfl still

theorem astray_of_serveAll {requests : List Request} {state : SessionHost}
    (unleaked : ∀ number, .holding (.leak number) ∉ requests)
    (still : (state.serveAll requests).value.2.session ≠ none) :
    state.session ≠ none ∧ (state.serveAll requests).value.2.host.astray = state.host.astray := by
  induction requests generalizing state with
  | nil => exact ⟨still, rfl⟩
  | cons request requests inductionHypothesis =>
      obtain ⟨middle, later⟩ := inductionHypothesis
        (fun number among => unleaked number (List.mem_cons_of_mem request among)) still
      obtain ⟨before, first⟩ := astray_of_serve
        (fun number same => unleaked number (same ▸ List.mem_cons_self)) middle
      exact ⟨before, later.trans first⟩

variable {engine : Engine 1} {configuration : Configuration} {program : Program 1}
  {requests : List Request} {outcomes : List (Except Refusal SessionReply)} {state : SessionHost}

theorem astray_of_start {opened : SessionHost}
    (started : (start engine configuration program).value = .ok opened) :
    opened.host.astray = ([], []) := by
  obtain ⟨session, store, opened, rfl⟩ := value_start_eq_ok_iff.mp started
  have ending := (Session.start_unopened engine configuration program).2
  rw [opened] at ending
  obtain ⟨middle, function, unopened, -, rfl⟩ := ending
  exact congrArg (([], ·)) unopened.inFlight

/-- As long as the session is open no reference is astray, if the host drops none. -/
theorem astray_of_run (unleaked : ∀ number, .holding (.leak number) ∉ requests)
    (ran : (run engine configuration program requests).value = .ok (outcomes, state))
    (still : state.session ≠ none) : state.host.astray = ([], []) := by
  obtain ⟨opened, started, final⟩ := value_run_eq_ok_iff.mp ran
  have ending : state.host.astray = opened.host.astray := by
    have kept := @astray_of_serveAll requests opened unleaked
    rw [final] at kept
    exact (kept still).2
  rw [ending, astray_of_start started]

/-- If a host duplicates no reference without counting it, drops none, and holds none any more, then
closing the session leaves nothing behind, provided no destructor that it calls gets to wrapping.
The answer is that of closing alone, no handle is left, and every resource that was ever wrapped is
destroyed. In the whole run there was one destructor call for each of them, with the representation
and the destructor that it was wrapped with. -/
theorem closing_destroys_all
    (counted : ∀ number, .holding (.alias number) ∉ requests)
    (unleaked : ∀ number, .holding (.leak number) ∉ requests)
    (ran : (run engine configuration program requests).value = .ok (outcomes, state))
    {session : Session} (opened : state.session = some session)
    (returned : ∀ reference, state.host.holdings reference = 0)
    (unwrapping : ∀ release ∈ session.releases state.host.store,
      ¬ release.before.ReleaseAsks session.running (session.running.engine.stack + 1)
        (session.running.engine.stack + session.running.engine.callSize) release.reference .new) :
    let closed := (state.serve .close).value
    let final := closed.2.host.store
    closed.1 = ((session.close.on state.host.store).1.mapError Refusal.fault).map
        (fun _ => .common .done) ∧
      final.leak? eventKind = none ∧ final.Vacant ∧
        (∀ reference, final.Wraps reference → (final.resource reference).destroyed = true) ∧
          (destructions final.log.toList).Perm (dues final.log.toList) := by
  have sound : state.host.Sound := sound_of_seen_run counted (seen_of_run ran)
  have nowhere : ∀ reference, state.host.outside reference = 0 := by
    obtain ⟨leaked, inFlight⟩ := Prod.mk.inj
      (astray_of_run unleaked ran (opened ▸ Option.some_ne_none session))
    intro reference
    rw [Host.outside, returned, leaked, inFlight]
    rfl
  have emptied : (Session.emptied state.host.store).Vacant := by
    intro kind handle
    rw [Subsingleton.elim kind eventKind, Session.table_emptied]
    rfl
  obtain ⟨vacant, wraps⟩ := emptied.afterAll unwrapping
  change (session.closed state.host.store).Vacant at vacant
  have later : (state.host.withStore (session.closed state.host.store)).Sound :=
    (session.closed_evolves state.host).sound sound
  have gone : ∀ reference, (session.closed state.host.store).Wraps reference →
      ((session.closed state.host.store).resource reference).destroyed = true := by
    intro reference wrapped
    apply session.destroyed_of_closed sound nowhere
    exact (Store.wraps_withTable _ _ _ _).mp ((wraps reference).mp wrapped)
  intro closed final
  have ended : closed = _ := value_serve_close opened
  have left : final = session.closed state.host.store := congrArg (·.2.host.store) ended
  have answer : session.closeAndDispose.on state.host.store =
      session.close.on state.host.store :=
    (session.closing_of_balanced sound.balanced).unleaked (vacant eventKind)
  rw [left, ended, answer]
  exact ⟨rfl, vacant.leak?_eq_none eventKind, vacant, gone,
    later.chronicled.destructions_perm_dues gone⟩

/-- A guest that makes the word 1 and cannot destroy anything. -/
def stubborn : Program 1 :=
  { countdown with
    functions := countdown.functions.setIfInBounds 4
      { signature := .wordsToUnit 1, body := fun _ => .trap "stuck" } }

/-- Whether the releases that closing comes to call only destructors that trap at once, while the
host holds nothing. -/
def closesStubbornly (state : SessionHost) : Bool :=
  match state.session with
  | none => false
  | some session =>
      (state.host.numbers eventKind).all (· = none) ∧
        (session.releases state.host.store).all (fun release =>
          match release.before.verdict release.reference with
          | .last call =>
              match session.running.program.body call.function call.arguments with
              | .trap _ => true
              | _ => false
          | _ => true) ∧
          (session.close.on state.host.store).1 = .error (.failure "stuck") ∧
            (destructions (session.closed state.host.store).log.toList).length = 2

/-- A setter leaves a handle behind, the host lowers another event, and both destructors trap when
the session is closed. -/
theorem closing_destroys_all_of_stubborn :
    ∃ outcomes state session,
      (run tightEngine {} stubborn [.session .create, .session (.set 0 .id "text"),
          .session (.table (.wrap 5)), .session (.table (.lower 1)),
          .session (.table (.release 0)), .session (.table (.release 1))]).value =
        .ok (outcomes, state) ∧
      state.session = some session ∧
      (state.serve .close).value.1 = .error (.fault (.failure "stuck")) ∧
      let final := (state.serve .close).value.2.host.store
      final.leak? eventKind = none ∧ (destructions final.log.toList).length = 2 ∧
        (destructions final.log.toList).Perm (dues final.log.toList) := by
  obtain ⟨outcomes, state, ran, checked⟩ := exists_ending tightEngine {} stubborn
    [.session .create, .session (.set 0 .id "text"), .session (.table (.wrap 5)),
      .session (.table (.lower 1)), .session (.table (.release 0)), .session (.table (.release 1))]
    closesStubbornly (by decide +kernel)
  unfold closesStubbornly at checked
  cases opened : state.session with
  | none =>
      rw [opened] at checked
      cases checked
  | some session =>
      rw [opened] at checked
      obtain ⟨empty, trapping, failed, length⟩ := of_decide_eq_true checked
      have returned (reference : EventReference) : state.host.holdings reference = 0 := by
        rw [Host.holdings, Subsingleton.elim reference.kind eventKind, Array.count_eq_zero]
        intro held
        cases of_decide_eq_true (Array.all_eq_true_iff_forall_mem.mp empty _ held)
      have unwrapping : ∀ release ∈ session.releases state.host.store,
          ¬ release.before.ReleaseAsks session.running (session.running.engine.stack + 1)
            (session.running.engine.stack + session.running.engine.callSize) release.reference
              .new := by
        rintro release among ⟨call, last, asks⟩
        have trapped := List.all_eq_true.mp trapping release among
        rw [last] at trapped
        dsimp only at trapped
        refine Instance.not_asks_of_plain ?_ .new asks
        split at trapped
        next reason body =>
            rw [body]
            exact .trap reason
        next => cases trapped
      obtain ⟨answer, unleaked, -, -, perm⟩ := closing_destroys_all (by simp) (by simp) ran opened
        returned unwrapping
      have left := congrArg (·.2.host.store) (value_serve_close opened)
      refine ⟨outcomes, state, session, ran, opened, ?_, unleaked, ?_, perm⟩
      · rw [answer, failed]
        rfl
      · rw [left]
        exact length

end SessionHost

end Event

end GuestBoundary
