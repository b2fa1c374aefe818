import GuestBoundary.Proofs.Event.Closing
import GuestBoundary.Proofs.Event.Opening
import GuestBoundary.Proofs.Event.Requests
import GuestBoundary.Proofs.Guest.Failing

/-!
# Failures that reach the host

Whatever a host asks for, guest code runs only in calls that this makes. A call that breaks ends
what the host asked for, and the host gets to know what broke it: the fault that a lifecycle
function raised, however deep inside, or one fault of the engine. Closing goes on after a release
has failed, and reports the first one that did.
-/

namespace GuestBoundary

variable {kinds : Nat} {α β : Type}

namespace Instance

variable {running : Instance kinds} {call : Call kinds} {store final : Store kinds}
  {origin : Abort}

variable (running) in
/-- A call from the host, which has the whole stack, breaks. -/
def HostCallBreaks (call : Call kinds) (store : Store kinds) (origin : Abort)
    (final : Store kinds) : Prop :=
  running.Breaks (running.engine.stack + 1) (running.engine.stack + running.engine.callSize) call
    store origin final

/-- The host sees what a call that breaks has started with. -/
theorem HostCallBreaks.on_hostCall (breaks : running.HostCallBreaks call store origin final) :
    ∃ fault, origin.SeenAs fault ∧ (running.hostCall call).on store = (.error fault, final) := by
  obtain ⟨notes, failed⟩ := breaks.on_within
  refine ⟨_, breaks.original.recover_withNotes notes, ?_⟩
  rw [hostCall, GuestRun.toHost, Work.on_adapt, enter_eq_within, failed]
  rfl

/-- A call that fails for the host breaks, and the fault is how the host sees what it started
with. -/
theorem hostCallBreaks_of_on_hostCall {fault : Fault}
    (failed : (running.hostCall call).on store = (.error fault, final)) :
    ∃ origin, running.HostCallBreaks call store origin final ∧ origin.SeenAs fault := by
  rw [hostCall, enter_eq_within] at failed
  obtain ⟨abort, ended, rfl⟩ := Work.on_adapt_eq_error_iff.mp failed
  obtain ⟨origin, notes, breaks, rfl⟩ := breaks_of_on_within ended
  exact ⟨origin, breaks, breaks.original.recover_withNotes notes⟩

end Instance

/-! ### Work that relays what breaks a call -/

theorem Fault.direct_of_isOwn {fault : Fault} (own : fault.isOwn = true) : fault.Direct := by
  rintro abort rfl
  cases abort with
  | failure text => rfl
  | raised inner => cases own
  | note text inner => cases own

namespace Attempt

/-- A call that the work makes breaks. -/
def Breaks (running : Instance kinds) (work : Attempt (Store kinds) α) (store : Store kinds)
    (origin : Abort) (final : Store kinds) : Prop :=
  ∃ call inside, work.Reaches store (running.hostCall call) inside ∧
    running.HostCallBreaks call inside origin final

/-- Guest code runs only in calls that the work makes, and a call that breaks ends the work with
what it started with. Whatever ends the work, a fault of the engine is one failure under notes. -/
structure Relays (running : Instance kinds) (work : Attempt (Store kinds) α) : Prop where
  through : work.Through running.hostCall
  failing : ∀ {store origin final}, work.Breaks running store origin final →
    ∃ fault, origin.SeenAs fault ∧ work.on store = (.error fault, final)
  once : ∀ {store abort final}, work.on store = (.error (.engine abort), final) →
    ∃ text notes, abort = (Abort.failure text).withNotes notes

variable {running : Instance kinds}

/-- A call ends the work that gets to it, whatever the work is; so what matters is where guest code
runs and that no fault has another one inside. -/
theorem Relays.of_through {work : Attempt (Store kinds) α} (through : work.Through running.hostCall)
    (direct : ∀ {store final fault}, work.on store = (.error fault, final) → fault.Direct) :
    work.Relays running where
  through := through
  failing := by
    rintro store origin final ⟨call, inside, reaches, breaks⟩
    obtain ⟨fault, seen, failed⟩ := breaks.on_hostCall
    exact ⟨fault, seen, reaches.on_eq_error failed⟩
  once failed := Abort.exists_failure _ (direct failed _ rfl)

/-- Work that is made of calls and quiet moves relays what breaks a call. -/
theorem relays_of_made {move : Store kinds → Store kinds → Prop} {looking : Prop}
    {work : Attempt (Store kinds) α}
    (made : ∀ store, Work.Made move (Fault.Ordinary looking) running.Visits work store) :
    work.Relays running := by
  apply Relays.of_through
  · intro store moment
    apply (made store).through
    rintro _ _ ⟨function, arguments⟩
    exact Work.Through.part ({ function, arguments } : Call kinds)
  · intro store final fault
    apply (made store).fails fun _ _ ordinary => Fault.direct_of_isOwn ordinary.own
    rintro _ _ ⟨function, arguments⟩ _ _ _ failed
    obtain ⟨origin, -, seen⟩ := Instance.hostCallBreaks_of_on_hostCall failed
    exact seen.direct

end Attempt

namespace Instance

variable (running : Instance kinds)

/-- Giving a reference back calls the guest at most once, to destroy. -/
theorem release_through (reference : Reference kinds) :
    (Store.release running.enter reference).Through running.hostCall := by
  refine .bind .get fun store => .ite (.bind (.modify _) fun _ => .bind (.throw _) fun _ => ?_) ?_
  -- A refused reference goes no further, so nothing depends on which of the two cases it is.
  all_goals
    refine .bind (.modify _) fun _ => .ite ?_ (.modify _)
    refine .bind (.modify _) fun _ => .bind (.modify _) fun _ => ?_
    exact .bind (.part _) fun _ => .pure ()

theorem direct_of_release {reference : Reference kinds} {store final : Store kinds} {fault : Fault}
    (failed : (Store.release running.enter reference).on store = (.error fault, final)) :
    fault.Direct := by
  rw [Store.on_release, Store.consequence] at failed
  split at failed
  next =>
    cases failed
    rintro _ ⟨⟩
  next => cases failed
  next call _ =>
    rcases Work.on_bind_eq_error_iff.mp failed with called | ⟨_, _, -, ended⟩
    · obtain ⟨origin, -, seen⟩ := hostCallBreaks_of_on_hostCall called
      exact seen.direct
    · cases ended

theorem release_relays (reference : Reference kinds) :
    (Store.release running.enter reference).Relays running :=
  .of_through (running.release_through reference) running.direct_of_release

end Instance

namespace Host

variable {running : Instance kinds}

theorem attempt_through {work : Attempt (Store kinds) α} (through : work.Through running.hostCall) :
    (attempt work).Through (calls running) := by
  intro host moment shown
  obtain ⟨inner, visible, rfl⟩ := (shows_attempt _ _ _).mp shown
  obtain ⟨call, inside, reaches, within⟩ := through _ _ visible
  exact ⟨call, host.withStore inside, attempt_reaches reaches,
    (shows_attempt _ _ _).mpr ⟨inner, within, rfl⟩⟩

theorem surrender_through (kind : Fin kinds) (number : Nat) :
    (surrender kind number).Through (calls running) := by
  refine .bind (.bind .get fun host => ?_) fun _ => .bind (.modify _) fun _ => .pure _
  split
  next => exact .pure _
  next => exact .throw _

theorem Visits.through {work : HostRun kinds α} (visits : Visits running α work) :
    work.Through (calls running) := by
  cases visits with
  | call function arguments => exact Work.Through.part ({ function, arguments } : Call kinds)
  | release kind number =>
      exact .bind (surrender_through kind number) fun found =>
        attempt_through (running.release_through found)

theorem Visits.direct {work : HostRun kinds α} (visits : Visits running α work)
    {host final : Host kinds} {refusal : Refusal}
    (failed : work.on host = (.error refusal, final)) :
    ∀ fault, refusal = .fault fault → fault.Direct := by
  rintro fault rfl
  cases visits with
  | call function arguments =>
      obtain ⟨cause, left, inside, same, -⟩ := on_attempt_eq_error_iff.mp failed
      cases same
      obtain ⟨origin, -, seen⟩ := Instance.hostCallBreaks_of_on_hostCall inside
      exact seen.direct
  | release kind number =>
      rcases Work.on_bind_eq_error_iff.mp failed with early | ⟨found, taken, -, giving⟩
      · have ending : (surrender kind number).Ensures host (fun _ => True) (fun _ _ => True)
            fun refusal _ => refusal = .noReference := surrender_ensures rfl fun _ _ => trivial
        have missing := ending.2
        rw [early] at missing
        cases missing
      · obtain ⟨cause, left, inside, same, -⟩ := on_attempt_eq_error_iff.mp giving
        cases same
        exact running.direct_of_release inside

end Host

namespace HostRun

/-- A call that the host makes breaks. -/
def Breaks (running : Instance kinds) (work : HostRun kinds α) (host : Host kinds)
    (origin : Abort) (final : Host kinds) : Prop :=
  ∃ call inside left, work.Reaches host (Host.calls running call) inside ∧
    running.HostCallBreaks call inside.store origin left ∧ final = inside.withStore left

@[inherit_doc Attempt.Relays]
structure Relays (running : Instance kinds) (work : HostRun kinds α) : Prop where
  through : work.Through (Host.calls running)
  failing : ∀ {host origin final}, work.Breaks running host origin final →
    ∃ fault, origin.SeenAs fault ∧ work.on host = (.error (.fault fault), final)
  once : ∀ {host abort final}, work.on host = (.error (.fault (.engine abort)), final) →
    ∃ text notes, abort = (Abort.failure text).withNotes notes

theorem relays_of_made {running : Instance kinds} {licence : Licence} {work : HostRun kinds α}
    (made : ∀ host, work.Made running licence host) : work.Relays running where
  through host _ := Work.Made.through (made host) Host.Visits.through
  failing := by
    rintro host origin _ ⟨call, inside, left, reaches, breaks, rfl⟩
    obtain ⟨fault, seen, failed⟩ := breaks.on_hostCall
    refine ⟨fault, seen, reaches.on_eq_error ?_⟩
    rw [Host.calls, Host.on_attempt, failed]
    rfl
  once {host abort final} failed := by
    have direct : ∀ fault, Refusal.fault (.engine abort) = .fault fault → fault.Direct := by
      refine Work.Made.fails (made host) ?_ Host.Visits.direct failed
      rintro _ cause ordinary fault rfl
      exact Fault.direct_of_isOwn ordinary.own
    exact Abort.exists_failure abort (direct _ rfl _ rfl)

end HostRun

namespace Store

/-- What is seen while references are given back is seen in one of the releases. -/
theorem exists_release_of_shows {enter : Entry kinds} {references : List (Reference kinds)}
    {store moment : Store kinds} (shown : (releaseAll enter references).Shows store moment) :
    ∃ given ∈ releases enter references store,
      (release enter given.reference).Shows given.before moment := by
  induction references generalizing store with
  | nil => exact absurd shown (Work.shows_pure _ _ _)
  | cons reference references inductionHypothesis =>
      rw [releaseAll, Work.shows_modify_bind, Work.shows_bind, Work.shows_settle] at shown
      rcases shown with first | ⟨outcome, middle, done, rest⟩
      · exact ⟨_, List.mem_cons_self, first⟩
      · cases done
        rw [Work.shows_bind, Work.shows_settle] at rest
        rcases rest with later | ⟨_, _, -, reported⟩
        · obtain ⟨given, among, visible⟩ := inductionHypothesis later
          exact ⟨given, List.mem_cons_of_mem _ among, visible⟩
        · exact absurd reported (Attempt.shows_ofExcept _ _ _)

end Store

namespace Event.Session

variable (session : Session)

theorem serve_relays (request : SessionRequest) :
    (session.serve request).Relays session.running := by
  let licence : Licence := { aliasing := False, leaking := False, looking := True }
  have made (host : Host 1) : (session.serve request).Made session.running licence host :=
    session.serve_made request fun _ => trivial
  exact HostRun.relays_of_made made

theorem exists_release_of_shows_close {store moment : EventStore}
    (shown : session.close.Shows store moment) :
    ∃ given ∈ session.releases store,
      (session.release given.reference).Shows given.before moment := by
  have taken : (Store.unparkAll eventKind).on store =
      (.ok (store.parked eventKind), store.withTable eventKind ∅) := rfl
  have quiet : (Store.unparkAll eventKind).Ensures store (fun _ => False) (fun _ _ => True)
      fun _ _ => True := by
    rw [Store.ensures_unparkAll]
    trivial
  rw [close, Work.shows_bind, taken] at shown
  rcases shown with here | ⟨references, middle, done, later⟩
  · exact (quiet.1 moment here).elim
  · cases done
    exact Store.exists_release_of_shows ((Work.shows_modify_bind _ _ _ _).mp later)

/-- A release that breaks while a session is closed has a fault of its own, and the first such fault
is what closing reports. -/
theorem close_of_breaks {store : EventStore} {earlier later : List (Release 1)}
    {given : Release 1} {origin : Abort} {final : EventStore}
    (among : session.releases store = earlier ++ given :: later)
    (breaks : (session.release given.reference).Breaks session.running given.before origin final) :
    ∃ fault, origin.SeenAs fault ∧ given.outcome = .error fault ∧ given.after = final ∧
      ((∀ other ∈ earlier, other.outcome = .ok ()) →
        session.close.on store = (.error fault, session.closed store)) := by
  have relays : (session.release given.reference).Relays session.running :=
    session.running.release_relays given.reference
  obtain ⟨fault, seen, failed⟩ := relays.failing breaks
  have ended : (session.release given.reference).on given.before = (given.outcome, given.after) :=
    Store.on_of_mem_releases (show given ∈ session.releases store by simp [among])
  rw [failed] at ended
  obtain ⟨outcome, after⟩ := Prod.mk.inj ended
  refine ⟨fault, seen, outcome.symm, after.symm, fun succeeded => ?_⟩
  have before : earlier.findSome? Release.fault? = none := by
    rw [List.findSome?_eq_none_iff]
    intro other here
    rw [Release.fault?, succeeded other here]
  have here : given.fault? = some fault := by rw [Release.fault?, ← outcome]
  rw [on_close, among, List.findSome?_append, before, Option.none_or, List.findSome?_cons, here]

/-- What closing reports is what one of the releases failed with. -/
theorem exists_release_of_close {store final : EventStore} {fault : Fault}
    (failed : session.close.on store = (.error fault, final)) :
    ∃ given ∈ session.releases store,
      (session.release given.reference).on given.before = (.error fault, given.after) := by
  rw [on_close] at failed
  cases found : (session.releases store).findSome? Release.fault? with
  | none =>
      rw [found] at failed
      cases failed
  | some first =>
      rw [found] at failed
      cases failed
      obtain ⟨given, among, here⟩ := List.exists_of_findSome?_eq_some found
      refine ⟨given, among, ?_⟩
      have ended : (session.release given.reference).on given.before =
          (given.outcome, given.after) := Store.on_of_mem_releases among
      rw [ended]
      cases outcome : given.outcome with
      | ok value => rw [Release.fault?, outcome] at here; cases here
      | error other =>
          rw [Release.fault?, outcome] at here
          rw [Option.some.inj here]

/-- Whatever a host asks of a session, guest code runs only in calls that this makes. A call that
breaks, at whatever depth, ends it, and the host gets the fault that a lifecycle function raised, or
one fault of the engine under notes; nothing else breaks a call. Closing gives back one reference
after the other in this way and reports the first fault. A fault of the engine is raised only by
giving a reference back, so elsewhere it makes no difference that a fault is wrapped as it comes. In
and out of the engine, however often, a fault that is not the engine's stays the same; one that is
gains notes at most and is never wrapped again. -/
theorem faults_keep_identity :
    (∀ request, (session.serve request).Relays session.running) ∧
      (∀ reference, (session.release reference).Relays session.running) ∧
      (∀ engine configuration program,
        (start engine configuration program).Relays { program, engine }) ∧
      (∀ store moment, session.close.Shows store moment →
        ∃ given ∈ session.releases store,
          (session.release given.reference).Shows given.before moment) ∧
      (∀ store fault final, session.close.on store = (.error fault, final) →
        ∃ given ∈ session.releases store,
          (session.release given.reference).on given.before = (.error fault, given.after)) ∧
      (∀ store earlier given later origin final,
        session.releases store = earlier ++ given :: later →
          (session.release given.reference).Breaks session.running given.before origin final →
            ∃ fault, origin.SeenAs fault ∧ given.outcome = .error fault ∧ given.after = final ∧
              ((∀ other ∈ earlier, other.outcome = .ok ()) →
                session.close.on store = (.error fault, session.closed store))) ∧
      (∀ call store fault final,
        (session.running.hostCall call).on store = (.error fault, final) →
          ∃ origin, session.running.HostCallBreaks call store origin final ∧
            origin.SeenAs fault) ∧
      (∀ enter kind action argument (store final : EventStore) fault, action ≠ .drop →
        (Store.lifecycle enter kind action argument).on store = (.error fault, final) →
          fault.abort = .raised fault) ∧
      (∀ fault rounds, Fault.Foreign fault → fault.afterRounds rounds = fault) ∧
      ∀ abort rounds, Abort.fault? abort = none →
        abort.recover = .engine abort ∧
          abort.recover.afterRounds rounds = .engine (abort.withNotes rounds.flatten) ∧
          (abort.withNotes rounds.flatten).fault? = none ∧
          (rounds.flatten = [] → abort.recover.afterRounds rounds = abort.recover) := by
  refine ⟨session.serve_relays, session.running.release_relays,
    fun engine configuration program => Attempt.relays_of_made
      (start_made engine configuration program fun _ => False),
    fun _ _ => session.exists_release_of_shows_close,
    fun _ _ _ => session.exists_release_of_close,
    fun _ _ _ _ _ _ => session.close_of_breaks,
    fun _ _ _ _ => Instance.hostCallBreaks_of_on_hostCall,
    fun _ _ _ _ _ _ _ keeping failed => (Store.foreign_of_lifecycle keeping failed).abort_eq,
    fun fault rounds foreign => foreign.afterRounds_eq rounds,
    fun abort rounds unraised => ⟨Abort.recover_of_fault?_eq_none unraised,
      Abort.afterRounds_recover unraised rounds, ?_, fun noteless => ?_⟩⟩
  · rw [Abort.fault?_withNotes, unraised]
  · rw [Abort.afterRounds_recover unraised, noteless, Abort.recover_of_fault?_eq_none unraised]
    rfl

/-- A session with a guest that gives up the handle it gets; the destructor then drops a handle that
nobody has given out. -/
def careless : Session where
  running :=
    { program :=
        { functions := #[
            { signature := .words 1
              body := fun arguments => .ask .drop eventKind (arguments.headD 0) },
            { signature := .wordsToUnit 1, body := fun _ => .ask .drop eventKind 99 }]
          imports := []
          exports := [("give-up", .function 0)] }
      engine := { stack := 2, callSize := 1, notes := fun _ => ["in guest code"] } }
  contract :=
    { realloc := 0
      free := 0
      create := 0
      attributes := .replicate 8 ⟨0, 0⟩
      data := ⟨0, 0⟩
      handler := 0 }

/-- The call that the host makes, the drop in it, and the drop in the destructor: what the innermost
one raises is what the host gets. -/
theorem faults_keep_identity_of_careless :
    ∃ final, (careless.serve (.call "give-up" [0])).Breaks careless.running
        (Host.ofStore Instance.oneParked) (.raised (.invalidHandle 99)) final ∧
      (careless.serve (.call "give-up" [0])).on (Host.ofStore Instance.oneParked) =
        (.error (.fault (.invalidHandle 99)), final) := by
  have broken : careless.running.HostCallBreaks { function := 0, arguments := [0] }
      Instance.oneParked (.raised (.invalidHandle 99)) _ :=
    .destroying ⟨by decide, by decide, .refl⟩ rfl rfl
      (.raised ⟨by decide, by decide, .refl⟩ fun _ => rfl)
  have applied : careless.running.callUntyped 0 (.words 1) [0] = do
      return some (← careless.running.call 0 [0]) := rfl
  have exported : Host.callExport careless.running "give-up" [0] = do
      return .result (← Host.attempt (careless.running.callUntyped 0 (.words 1) [0])) := rfl
  have reaches : (careless.serve (.call "give-up" [0])).Reaches
      (Host.ofStore Instance.oneParked)
      (Host.calls careless.running { function := 0, arguments := [0] })
      (Host.ofStore Instance.oneParked) := by
    rw [serve, exported, applied]
    exact .first (.first (Host.attempt_reaches (.first (.here _ _))))
  have relays := careless.faults_keep_identity.1 (.call "give-up" [0])
  obtain ⟨_, seen, failed⟩ := relays.failing ⟨_, _, _, reaches, broken, rfl⟩
  cases seen
  exact ⟨_, ⟨_, _, _, reaches, broken, rfl⟩, failed⟩

end Event.Session

end GuestBoundary
