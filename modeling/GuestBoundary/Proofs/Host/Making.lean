import GuestBoundary.Proofs.Guest.Confinement
import GuestBoundary.Proofs.Host.Moves

/-!
# What the work of a host is made of

Whatever a host is asked for, it looks at the store or makes a move on it, fails, calls the guest,
or gives one of its references back, one after the other. This is shown once for each request. What
holds of these steps, and of two pieces of work one after the other if it holds of both, then holds
of all requests: which moves they make, where their faults come from, and where the guest runs.
-/

namespace GuestBoundary

open Relation

variable {kinds : Nat} {α β : Type}

/-! ### Work on the store -/

namespace Instance

/-- A call of the guest as the host makes it. -/
def hostCall (running : Instance kinds) (call : Call kinds) : Attempt (Store kinds) Word :=
  (running.enter call).toHost

/-- What work on a store may do besides quiet moves: call the guest. -/
inductive Visits (running : Instance kinds) : (α : Type) → Attempt (Store kinds) α → Prop where
  | call (function : FunctionId) (arguments : List Word) :
      Visits running Word (running.call function arguments)

end Instance

/-- Work on a store that is made of quiet moves and of calls of the guest. -/
abbrev Attempt.Made (running : Instance kinds) (owned : Reference kinds → Prop) (looking : Prop)
    (work : Attempt (Store kinds) α) (store : Store kinds) : Prop :=
  Work.Made (Store.Move owned) (Fault.Ordinary looking) running.Visits work store

namespace Instance

variable {owned : Reference kinds → Prop} {looking : Prop} (running : Instance kinds)

theorem call_made (function : FunctionId) (arguments : List Word) (store : Store kinds) :
    (running.call function arguments).Made running owned looking store :=
  .visit (.call function arguments) store

theorem callUntyped_made (function : FunctionId) (signature : Signature) (arguments : List Word)
    (store : Store kinds) :
    (running.callUntyped function signature arguments).Made running owned looking store := by
  unfold callUntyped
  dsimp only
  split
  next => exact .bind (running.call_made _ _ _) fun _ _ _ => .pure _
  next => exact .throw_bind (Fault.ordinary_of_isOwn rfl rfl)

end Instance

/-! ### Work of the host -/

namespace Host

/-- The calls that a host makes. -/
def calls (running : Instance kinds) (call : Call kinds) : HostRun kinds Word :=
  attempt (running.hostCall call)

/-- What a host may do besides quiet moves: call the guest, and give a reference back. -/
inductive Visits (running : Instance kinds) : (α : Type) → HostRun kinds α → Prop where
  | call (function : FunctionId) (arguments : List Word) :
      Visits running Word (attempt (running.call function arguments))
  | release (kind : Fin kinds) (number : Nat) :
      Visits running Unit do
        let found ← surrender kind number
        attempt (Store.release running.enter found)

end Host

/-- Work of a host that is made of quiet moves, of calls of the guest and of releases. -/
abbrev HostRun.Made (running : Instance kinds) (licence : Licence) (work : HostRun kinds α)
    (host : Host kinds) : Prop :=
  Work.Made (Host.Step licence) (Refusal.Ordinary licence.looking) (Host.Visits running) work host

/-- Work of a host that shows nothing and calls nothing. -/
abbrev HostRun.Quiet (licence : Licence) (work : HostRun kinds α) (host : Host kinds) : Prop :=
  Work.Quiet (Host.Step licence) (Refusal.Ordinary licence.looking) work host host

variable {running : Instance kinds} {licence : Licence} {host : Host kinds}

namespace Host

theorem attempt_made_within {work : Attempt (Store kinds) α} {store : Store kinds}
    (made : work.Made running (0 < host.holdings ·) licence.looking store) :
    (attempt work).Made running licence (host.withStore store) := by
  induction made with
  | step quiet =>
      have steps {before after : Store kinds}
          (evolves : before.Evolves (0 < host.holdings ·) after) :
          ReflTransGen (Step licence) (host.withStore before) (host.withStore after) :=
        evolves.lift host.withStore fun _ _ => Step.withStore
      apply Work.Made.step
      rw [Work.Quiet, ensures_attempt]
      exact quiet.imp (fun _ => id) (fun _ _ => steps) fun _ _ => And.imp_left steps
  | visit visits => cases visits with
    | call function arguments => exact .visit (.call function arguments) _
  | @bind _ _ work next store _ _ first later =>
      rw [attempt_bind]
      refine .bind first fun value middle done => ?_
      rw [on_attempt, store_withStore] at done
      cases ended : work.on store with
      | mk outcome inner =>
      rw [ended] at done
      cases outcome with
      | error fault => cases done
      | ok found =>
          cases done
          exact later value inner ended

theorem attempt_made {work : Attempt (Store kinds) α}
    (made : work.Made running (0 < host.holdings ·) licence.looking host.store) :
    (attempt work).Made running licence host := attempt_made_within made

/-- What is done with a reference may rely on the host's holding it. -/
theorem reference_made {kind : Fin kinds} {number : Nat} {next : Reference kinds → HostRun kinds α}
    (later : ∀ identity, (host.numbers kind)[number]? = some (some identity) →
      (next { kind, identity }).Made running licence host) :
    (reference kind number >>= next).Made running licence host := by
  rw [reference, bind_assoc]
  apply Work.Made.get
  split
  next identity found =>
      rw [pure_bind]
      exact later identity found
  next => exact .throw_bind trivial

/-! ### Requests -/

/-- Requests on references alone do not call the guest. -/
theorem serveHolding_quiet (kind : Fin kinds) (request : HoldingRequest)
    (aliasing : ∀ number, request = .alias number → licence.aliasing)
    (leaking : ∀ number, request = .leak number → licence.leaking) :
    (serveHolding kind request).Quiet licence host := by
  cases request with
  | inspect number =>
      simp only [serveHolding, Work.Quiet, Work.ensures_bind, Work.ensures_get, Work.ensures_pure]
      exact reference_ensures ⟨.refl, trivial⟩ fun _ _ => .refl
  | clone number =>
      simp only [serveHolding, Work.Quiet, Work.ensures_bind, ensures_attempt,
        Store.ensures_duplicate, ensures_hold, Work.ensures_pure]
      apply reference_ensures ⟨.refl, trivial⟩
      intro identity found
      exact .single ⟨.clone { kind, identity } (holdings_pos_of_found found), .inl rfl⟩
  | «alias» number =>
      simp only [serveHolding, Work.Quiet, Work.ensures_bind, ensures_hold, Work.ensures_pure]
      apply reference_ensures ⟨.refl, trivial⟩
      intro identity found
      exact .single ⟨.duplicate (aliasing number rfl) { kind, identity }
        (holdings_pos_of_found found), .inl rfl⟩
  | leak number =>
      simp only [serveHolding, Work.Quiet, Work.ensures_bind, Work.ensures_modify,
        Work.ensures_get, Work.ensures_throw]
      apply surrender_ensures ⟨.refl, trivial⟩
      intro identity found
      exact ⟨.single ⟨.leak { kind, identity } number found, .inr (leaking number rfl)⟩,
        Fault.ordinary_of_isOwn rfl rfl⟩

theorem mapM_hold_ensures (references : List (Reference kinds)) {host : Host kinds}
    {shown : Host kinds → Prop} {done : List Nat → Host kinds → Prop}
    {failed : Refusal → Host kinds → Prop}
    (ending : ∀ numbers, done numbers (host.enlistAll references)) :
    (references.mapM hold).Ensures host shown done failed := by
  induction references generalizing host done with
  | nil => exact (Work.ensures_pure _).mpr (ending [])
  | cons reference references inductionHypothesis =>
      simp only [List.mapM_cons, Work.ensures_bind, ensures_hold]
      apply inductionHypothesis
      intro numbers
      rw [Work.ensures_pure]
      exact ending _

variable (running)

theorem serveTable_made (kind : Fin kinds) (request : TableRequest)
    (looking : ∀ name, request = .bind name → licence.looking) :
    (serveTable running kind request).Made running licence host := by
  cases request with
  | wrap representation =>
      apply Work.Made.step
      simp only [serveTable, Work.Quiet, Work.ensures_bind, ensures_attempt,
        Store.ensures_wrapBound, ensures_hold, Work.ensures_pure]
      split
      next function bound => exact .single ⟨.wrap kind representation function bound, .inl rfl⟩
      next unbound => exact ⟨.refl, Fault.ordinary_of_unbound _ unbound⟩
  | release number =>
      have given : serveTable running kind (.release number) = do
          (do
            let found ← surrender kind number
            attempt (Store.release running.enter found))
          return .done := by
        rw [bind_assoc]
        rfl
      rw [given]
      exact .bind (.visit (.release kind number) host) fun _ _ _ => .pure _
  | lower number =>
      apply Work.Made.step
      simp only [serveTable, Work.Quiet, Work.ensures_bind, ensures_attempt,
        Store.ensures_lower, Work.ensures_pure]
      apply reference_ensures ⟨.refl, trivial⟩
      intro identity found
      exact .single (Step.withStore (.lower _ (.inl (holdings_pos_of_found found))))
  | lift handle =>
      apply Work.Made.step
      simp only [serveTable, Work.Quiet, Work.ensures_bind, ensures_attempt,
        Store.ensures_unpark, ensures_hold, Work.ensures_pure]
      split
      next identity table taken =>
          exact .single ⟨.lift { kind, identity } handle table taken, .inl rfl⟩
      next fault failed => exact ⟨.refl, Fault.ordinary_of_take failed⟩
  | peek handle =>
      apply Work.Made.step
      simp only [serveTable, Work.Quiet, Work.ensures_bind, ensures_attempt,
        Store.ensures_peek, Work.ensures_get, Work.ensures_pure]
      split
      next => exact .refl
      next fault failed => exact ⟨.refl, Fault.ordinary_of_fetch failed⟩
  | insert number =>
      apply Work.Made.step
      simp only [serveTable, Work.Quiet, Work.ensures_bind, ensures_attempt,
        Store.ensures_park, Work.ensures_pure]
      apply surrender_ensures ⟨.refl, trivial⟩
      intro identity found
      exact .single ⟨.insert { kind, identity } number found, .inl rfl⟩
  | drain =>
      apply Work.Made.step
      simp only [serveTable, Work.Quiet, Work.ensures_bind, ensures_attempt,
        Store.ensures_unparkAll]
      apply mapM_hold_ensures _
      intro numbers
      rw [Work.ensures_pure]
      exact .single ⟨.drain kind, .inl (astray_enlistAll _ _)⟩
  | isEmpty => exact .get (.pure _)
  | destructor =>
      apply Work.Made.step
      simp only [serveTable, Work.Quiet, Work.ensures_bind, Work.ensures_discard,
        ensures_attempt, Store.ensures_boundDestructor, Work.ensures_pure]
      split
      next => exact .refl
      next unbound => exact ⟨.refl, Fault.ordinary_of_unbound _ unbound⟩
  | bind name =>
      apply Work.Made.step
      simp only [serveTable, Work.Quiet, Work.ensures_bind, ensures_attempt,
        Attempt.ensures_ofExcept, Store.ensures_bindDestructor, Work.ensures_pure]
      split
      next function _ => exact .single ⟨.bind kind function, .inl rfl⟩
      next fault failed =>
          exact ⟨.refl, running.typedExport_innocent _ _ fault failed,
            fun _ => .inl (looking name rfl)⟩

theorem callExport_made (name : String) (arguments : List Word) :
    (callExport running name arguments).Made running licence host := by
  unfold callExport
  split
  next => exact .step ((Work.ensures_throw _).mpr ⟨.refl, trivial⟩)
  next =>
      exact .bind (attempt_made (running.callUntyped_made _ _ _ _)) fun _ _ _ => .pure _

theorem findExport_made (looking : licence.looking) (name : String) (signature : Signature) :
    (findExport running name signature).Made running licence host := by
  apply Work.Made.step
  simp only [findExport, Work.Quiet, Work.ensures_bind, Work.ensures_discard, ensures_attempt,
    Attempt.ensures_ofExcept, Work.ensures_pure]
  split
  next => exact .refl
  next fault failed =>
      exact ⟨.refl, running.typedExport_innocent _ _ fault failed, fun _ => .inl looking⟩

end Host

/-! ### Moves -/

/-- Whatever is made of calls and quiet moves makes moves, and its faults are traced. -/
theorem Attempt.Made.confined {owned : Reference kinds → Prop} {looking : Prop}
    {work : Attempt (Store kinds) α} {store : Store kinds}
    (made : work.Made running owned looking store) :
    work.Confined (Store.Move owned) (Fault.Traced looking) store store := by
  refine Work.Made.confined made (fun _ _ => Fault.Ordinary.traced) fun visits store => ?_
  cases visits with
  | call function arguments => exact running.call_confined function arguments store

namespace Host

theorem release_confined {reference : Reference kinds} {number : Nat}
    (found : (host.numbers reference.kind)[number]? = some (some reference.identity)) :
    (attempt (Store.release running.enter reference)).Confined (Step licence)
      (Refusal.Traced licence.looking) host (host.withdraw reference.kind number) := by
  obtain ⟨entered, confined⟩ := Store.release_confined running.enter_confined reference host.store
  refine (attempt_confined (host.withdraw reference.kind number)
    (confined.imp (fun _ _ => Step.withStore) fun _ _ => id)).of_moves ?_
  exact .single ⟨.release reference number found entered,
    .inl (congrArg (host.leaked, ·) (Store.inFlight_giveBack _ _ _))⟩

theorem Visits.confined {work : HostRun kinds α} (visits : Visits running α work)
    (host : Host kinds) :
    work.Confined (Step licence) (Refusal.Traced licence.looking) host host := by
  cases visits with
  | call function arguments =>
      exact attempt_confined host ((running.call_confined function arguments host.store).imp
        (fun _ _ => Step.withStore) fun _ _ => id)
  | release kind number =>
      apply Work.Confined.after
      apply surrender_ensures ⟨.refl, trivial⟩
      intro identity found
      exact release_confined found

end Host

/-- Whatever is made of these steps makes moves, and its refusals are traced. -/
theorem HostRun.Made.confined {work : HostRun kinds α} (made : work.Made running licence host) :
    work.Confined (Host.Step licence) (Refusal.Traced licence.looking) host host :=
  Work.Made.confined made Refusal.Ordinary.traced Host.Visits.confined

end GuestBoundary
