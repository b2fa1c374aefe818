import Mathlib.Data.List.Forall2
import GuestBoundary.Guest.Program
import GuestBoundary.Proofs.Event.Opening
import GuestBoundary.Proofs.Event.Requests
import GuestBoundary.Proofs.Host.Soundness

/-!
# Runs of a host with a session

A run is a program that is started and a list of requests. Every host that somebody can look at in
a run comes about by moves from the host before the start. So does the host after each request,
and a refusal that goes back to a refused reference would be in its log.
-/

namespace GuestBoundary.Event

open Relation

variable {α β : Type} {aliasing : Prop}

/-- The host before a program is started. -/
def freshHost (configuration : Configuration) : Host 1 := .ofStore (freshStore configuration)

namespace SessionHost

/-- In the course of a request a host makes only moves, from the host before it to each host that is
seen, and from there to the host after it. A refusal comes from a host on this way. -/
structure Served (aliasing looking : Prop) (origin : Host 1)
    (served : Watched (Host 1) (Except Refusal α × SessionHost)) : Prop where
  final : origin.Evolves aliasing served.value.2.host
  shown {moment : Host 1} : served.seen moment →
    origin.Evolves aliasing moment ∧ moment.Evolves aliasing served.value.2.host
  refused {refusal : Refusal} : served.value.1 = .error refusal →
    ∃ cause, origin.Evolves aliasing cause ∧ cause.Evolves aliasing served.value.2.host ∧
      refusal.Traced looking cause

variable {looking : Prop}

theorem served_pure {outcome : Except Refusal α} {state : SessionHost}
    (traced : ∀ refusal, outcome = .error refusal → refusal.Traced looking state.host) :
    Served aliasing looking state.host (pure (outcome, state)) where
  final := .refl
  shown := False.elim
  refused failed := ⟨state.host, .refl, .refl, traced _ failed⟩

theorem served_of_confined {work : HostRun 1 α} {host : Host 1}
    (confined : work.Confined (Host.Move aliasing) (Refusal.Traced looking) host host)
    (session : Option Session) :
    Served aliasing looking host (do
      let (outcome, host) ← work.watched host
      return (outcome, { host, session })) where
  final := confined.final
  shown seen := confined.shown (seen.resolve_right id)
  refused := confined.failing

theorem Served.map {origin : Host 1} {served : Watched (Host 1) (Except Refusal α × SessionHost)}
    (kept : Served aliasing looking origin served) (reply : α → β)
    (session : SessionHost → Option Session) :
    Served aliasing looking origin (do
      let (outcome, state) ← served
      return (outcome.map reply, { state with session := session state })) where
  final := kept.final
  shown seen := kept.shown (seen.resolve_right id)
  refused failed := kept.refused (Except.of_map_eq_error failed)

theorem withSession_served (state : SessionHost) {work : Session → HostRun 1 α}
    (confined : ∀ session, (work session).Confined (Host.Move aliasing) (Refusal.Traced looking)
      state.host state.host) :
    Served aliasing looking state.host (state.withSession work) := by
  unfold withSession
  split
  next => exact served_pure fun _ closed => Except.error.inj closed ▸ trivial
  next session _ => exact served_of_confined (confined session) state.session

/-- A request makes moves, and whatever it answers is traced. -/
theorem serve_served (state : SessionHost) (request : Request)
    (permitted : ∀ number, request = .holding (.alias number) → aliasing) :
    Served aliasing (request.looksUp = true) state.host (state.serve request) := by
  cases request with
  | holding request =>
      have quiet : (Host.serveHolding eventKind request).Quiet
          { aliasing, leaking := True, looking := (Request.holding request).looksUp }
          state.host :=
        Host.serveHolding_quiet eventKind request
          (fun number same => permitted number (congrArg Request.holding same))
          fun _ _ => trivial
      have confined := (Work.Confined.of_quiet quiet).imp (fun _ _ step => step.move)
        Refusal.Ordinary.traced
      have served := (served_of_confined confined state.session).map SessionReply.common (·.session)
      simpa only [serve, bind_assoc, pure_bind] using served
  | session request =>
      exact state.withSession_served fun session =>
        session.serve_confined request aliasing state.host
  | close =>
      exact (state.withSession_served fun session =>
        Host.attempt_confined state.host (session.closeAndDispose_confined state.host _)).map
          (fun _ => SessionReply.common .done) fun _ => none
  | abandon =>
      unfold serve
      dsimp only
      split
      next => exact served_pure nofun
      next =>
          exact (state.withSession_served fun _ =>
            Host.attempt_confined state.host (Session.dispose_confined state.host _)).map
              (fun _ => SessionReply.common .done) fun _ => none

/-- What a refusal goes back to is in the log of some host that came about by moves. -/
def Answered (aliasing looking : Prop) (origin : Host 1) (outcome : Except Refusal α) : Prop :=
  ∀ refusal, outcome = .error refusal →
    ∃ cause, origin.Evolves aliasing cause ∧ refusal.Traced looking cause

theorem Answered.of_evolves {earlier origin : Host 1} {outcome : Except Refusal α}
    (evolves : earlier.Evolves aliasing origin)
    (answered : Answered aliasing looking origin outcome) :
    Answered aliasing looking earlier outcome := fun refusal refused =>
  (answered refusal refused).imp fun _ => And.imp_left evolves.trans

/-- Requests carried out one after the other make moves, and all of their answers are traced. -/
theorem serveAll_evolves (state : SessionHost) (requests : List Request)
    (permitted : ∀ number, .holding (.alias number) ∈ requests → aliasing) :
    let served := state.serveAll requests
    (∀ moment, served.seen moment → state.host.Evolves aliasing moment ∧
        moment.Evolves aliasing served.value.2.host) ∧
      state.host.Evolves aliasing served.value.2.host ∧
      List.Forall₂ (fun request outcome =>
        Answered aliasing (request.looksUp = true) state.host outcome) requests served.value.1 := by
  induction requests generalizing state with
  | nil => exact ⟨fun _ => False.elim, .refl, .nil⟩
  | cons request requests inductionHypothesis =>
      have served := state.serve_served request fun number same =>
        permitted number (same ▸ List.mem_cons_self)
      obtain ⟨shown, ending, answers⟩ := inductionHypothesis (state.serve request).value.2
        fun number among => permitted number (List.mem_cons_of_mem request among)
      refine ⟨?_, served.final.trans ending, .cons ?_ ?_⟩
      · rintro moment (first | between | later | none)
        · exact (served.shown first).imp_right (·.trans ending)
        · rw [(between : moment = _)]
          exact ⟨served.final, ending⟩
        · exact (shown moment later).imp_left served.final.trans
        · exact none.elim
      · intro refusal refused
        obtain ⟨cause, before, -, traced⟩ := served.refused refused
        exact ⟨cause, before, traced⟩
      · exact answers.imp fun _ _ answered => answered.of_evolves served.final

/-- Starting a program makes moves from a fresh host, and binds a destructor. -/
theorem start_confined (engine : Engine 1) (configuration : Configuration) (program : Program 1) :
    (Host.attempt (Session.start engine configuration program)).Confined (Host.Move aliasing)
      (Refusal.Traced True) (freshHost configuration) (freshHost configuration) := by
  let host := freshHost configuration
  have moves : ∀ store next, Opening (0 < host.holdings ·) store next →
      host.StoreMove aliasing store next := by
    intro store next opening
    cases opening with
    | move move => exact .store next move
    | bind function => exact .bind eventKind function
  have calls {α : Type} {work : Attempt EventStore α}
      (visits : Instance.Visits { program, engine } α work) (store : EventStore) :
      work.Confined (Opening (0 < host.holdings ·)) (Fault.Traced True) store store := by
    cases visits with
    | call function arguments =>
        exact (Instance.call_confined _ function arguments store).imp (fun _ _ => .move)
          fun _ _ => id
  have made := Session.start_made engine configuration program (0 < host.holdings ·) host.store
  exact Host.attempt_confined host
    ((made.confined (fun _ _ => Fault.Ordinary.traced) calls).imp moves fun _ _ => id)

section

variable {engine : Engine 1} {configuration : Configuration} {program : Program 1}
  {requests : List Request}

theorem on_attempt_start :
    (Host.attempt (Session.start engine configuration program)).on (freshHost configuration) =
      let ending := (Session.start engine configuration program).on (freshStore configuration)
      (ending.1.mapError Refusal.fault, .ofStore ending.2) := rfl

/-- A session is opened on a host that comes about by moves, by way of all that is seen before. -/
theorem evolves_of_start {state : SessionHost}
    (started : (start engine configuration program).value = .ok state) :
    (freshHost configuration).Evolves aliasing state.host ∧
      ∀ moment, (start engine configuration program).seen moment →
        (freshHost configuration).Evolves aliasing moment ∧
          moment.Evolves aliasing state.host := by
  obtain ⟨session, store, opened, rfl⟩ := value_start_eq_ok_iff.mp started
  have ⟨final, shown, _⟩ := @start_confined aliasing engine configuration program
  rw [on_attempt_start, opened] at final shown
  exact ⟨final, fun _ => shown⟩

/-- Everything that can be seen in a run comes about by moves from a fresh host, and lies on the way
to one last host. -/
theorem exists_last (aliasing : Prop)
    (permitted : ∀ number, .holding (.alias number) ∈ requests → aliasing) :
    ∃ last, ∀ moment, (run engine configuration program requests).seen moment →
      (freshHost configuration).Evolves aliasing moment ∧ moment.Evolves aliasing last := by
  unfold run
  cases started : (start engine configuration program).value with
  | error fault =>
      refine ⟨((Host.attempt (Session.start engine configuration program)).on
        (freshHost configuration)).2, fun moment seen => ?_⟩
      rw [Watched.seen_bind, started] at seen
      exact (start_confined engine configuration program).shown (seen.resolve_right id)
  | ok state =>
      obtain ⟨beginning, opening⟩ := @evolves_of_start aliasing engine configuration program _ started
      obtain ⟨shown, serving, -⟩ := state.serveAll_evolves requests permitted
      refine ⟨(state.serveAll requests).value.2.host, fun moment seen => ?_⟩
      rw [Watched.seen_bind, started] at seen
      rcases seen with early | between | late | none
      · exact (opening moment early).imp_right (·.trans serving)
      · rw [(between : moment = _)]
        exact ⟨beginning, serving⟩
      · exact (shown moment late).imp_left beginning.trans
      · exact none.elim

theorem evolves_of_seen_run
    (permitted : ∀ number, .holding (.alias number) ∈ requests → aliasing) {moment : Host 1}
    (seen : (run engine configuration program requests).seen moment) :
    (freshHost configuration).Evolves aliasing moment :=
  have ⟨_, onTheWay⟩ := exists_last aliasing permitted
  (onTheWay moment seen).1

/-- Of two hosts that are seen in a run, one came first. -/
theorem records_ordered {host other : Host 1}
    (seen : (run engine configuration program requests).seen host)
    (seenOther : (run engine configuration program requests).seen other) :
    host.record <+: other.record ∨ other.record <+: host.record := by
  obtain ⟨last, onTheWay⟩ := exists_last True fun _ _ => trivial
  exact List.prefix_or_prefix_of_prefix (onTheWay host seen).2.log_grows
    (onTheWay other seenOther).2.log_grows

end

theorem seen_of_serveAll {requests : List Request} (some : requests ≠ []) (state : SessionHost) :
    (state.serveAll requests).seen (state.serveAll requests).value.2.host := by
  induction requests generalizing state with
  | nil => exact absurd rfl some
  | cons request requests inductionHypothesis =>
      cases requests with
      | nil => exact .inr (.inl rfl)
      | cons next others => exact .inr (.inr (.inl (inductionHypothesis nofun _)))

theorem seen_of_run {engine : Engine 1} {configuration : Configuration} {program : Program 1}
    {requests : List Request} {outcomes : List (Except Refusal SessionReply)}
    {state : SessionHost}
    (ran : (run engine configuration program requests).value = .ok (outcomes, state)) :
    (run engine configuration program requests).seen state.host := by
  obtain ⟨opened, started, final⟩ := value_run_eq_ok_iff.mp ran
  unfold run
  rw [Watched.seen_bind, started]
  apply Or.inr
  cases requests with
  | nil =>
      obtain ⟨-, rfl⟩ := Prod.mk.inj final
      exact .inl rfl
  | cons request others =>
      have seen := seen_of_serveAll (List.cons_ne_nil request others) opened
      rw [final] at seen
      exact .inr (.inl seen)

/-- Every answer in a run is traced, and so is the failure to start. -/
theorem answered_of_run (engine : Engine 1) (configuration : Configuration)
    (program : Program 1) {requests : List Request}
    (permitted : ∀ number, .holding (.alias number) ∈ requests → aliasing) :
    match (run engine configuration program requests).value with
    | .ok (outcomes, _) => List.Forall₂ (fun request outcome =>
        Answered aliasing (request.looksUp = true) (freshHost configuration) outcome)
          requests outcomes
    | .error fault => ∃ cause,
        (freshHost configuration).Evolves aliasing cause ∧ fault.Traced True cause.store := by
  unfold run
  rw [Watched.value_bind]
  cases started : (start engine configuration program).value with
  | error fault =>
      have ended : ((Session.start engine configuration program).on
          (freshStore configuration)).1 = .error fault := Except.of_map_eq_error started
      have failed : ((Host.attempt (Session.start engine configuration program)).on
          (freshHost configuration)).1 = .error (.fault fault) := by
        rw [on_attempt_start]
        dsimp only
        rw [ended]
        rfl
      obtain ⟨cause, before, -, traced⟩ :=
        (start_confined engine configuration program).failing failed
      exact ⟨cause, before, traced⟩
  | ok state =>
      obtain ⟨-, -, answers⟩ := state.serveAll_evolves requests permitted
      exact answers.imp fun _ _ answered => answered.of_evolves (evolves_of_start started).1

/-! ### A small guest -/

/-- A guest whose events are words. It makes the word 1, and the destructor of a word above 0 wraps
the word before it. -/
def countdown : Program 1 :=
  let fields := Attribute.all.map (·.name) ++ ["data"]
  { functions := #[
      { signature := .words 4, body := fun _ => .done 0 },
      { signature := .wordsToUnit 3, body := fun _ => .done 0 },
      { signature := .words 0, body := fun _ => .ask .new eventKind 1 },
      { signature := .words 1, body := fun _ => .done 0 },
      { signature := .wordsToUnit 1
        body := fun
          | [0] => .done 0
          | arguments => .ask .new eventKind (arguments.getD 0 0 - 1) }]
    imports := Lifecycle.all.map fun action => action.hostFunction "canonical_abi" resourceName
    exports :=
      [("memory", .memory), ("canonical_abi_realloc", .function 0),
        ("canonical_abi_free", .function 1), ("cloudevent::create", .function 2),
        ("ce-handler", .function 3), ("canonical_abi_drop_cloudevent", .function 4)] ++
      fields.flatMap fun name =>
        [("cloudevent::get-" ++ name, .function 3), ("cloudevent::set-" ++ name, .function 1)] }

def tightEngine : Engine 1 := { stack := 2, callSize := 1 }

theorem exists_ending (engine : Engine 1) (configuration : Configuration) (program : Program 1)
    (requests : List Request) (check : SessionHost → Bool)
    (checked : (match (run engine configuration program requests).value with
      | .ok (_, state) => check state
      | .error _ => false) = true) :
    ∃ outcomes state,
      (run engine configuration program requests).value = .ok (outcomes, state) ∧
        check state = true := by
  split at checked
  next outcomes state ran => exact ⟨outcomes, state, ran, checked⟩
  next => exact nomatch checked

end SessionHost

end GuestBoundary.Event
