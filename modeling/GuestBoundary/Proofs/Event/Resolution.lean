import GuestBoundary.Proofs.Event.Run
import GuestBoundary.Proofs.Event.Unopened

/-!
# Which guests keep the contract

A guest that can be linked and started keeps the contract if it exports all that is required. If it
does not, opening a session fails for the first requirement that is not met. If it does, a
destructor is bound from then on, and all functions that a session calls are known.
-/

namespace GuestBoundary

variable {kinds : Nat}

/-- The guest that runs is the program that was linked. -/
theorem Linker.eq_of_on_instantiate {linker : Linker} {engine : Engine kinds}
    {program : Program kinds} {store started : Store kinds} {running : Instance kinds}
    (linked : (linker.instantiate engine program).on store = (.ok running, started)) :
    running = { program, engine } := by
  unfold Linker.instantiate at linked
  dsimp only at linked
  split at linked
  next =>
    rw [Work.on_get_bind] at linked
    split at linked
    next =>
      rw [Work.on_modify_bind] at linked
      split at linked
      next =>
          cases linked
          rfl
      next =>
          obtain ⟨_, _, -, returned⟩ := Work.on_bind_eq_ok_iff.mp linked
          cases returned
          rfl
    next => exact nomatch linked
  next => exact nomatch linked

namespace Event

namespace Session

variable {engine : Engine 1} {configuration : Configuration} {program : Program 1}

/-- What is left of opening a session on a guest that runs. -/
theorem on_start {linker : Linker} {running : Instance 1} {started : EventStore}
    (registered : Linker.register {} configuration.names.importNamespace resourceName = .ok linker)
    (linked : (linker.instantiate engine program).on (freshStore configuration) =
      (.ok running, started)) :
    (start engine configuration program).on (freshStore configuration) =
      match Contract.resolve running configuration.names with
      | .ok (contract, destructor) =>
          (.ok { running, contract }, started.rebind eventKind destructor)
      | .error fault => (.error fault, started) := by
  rw [start, Work.on_bind, Attempt.on_ofExcept, registered]
  dsimp only
  rw [Work.on_bind, linked]
  dsimp only
  rw [Work.on_bind, Attempt.on_ofExcept]
  cases Contract.resolve running configuration.names <;> rfl

theorem equipped_of_on_start {session : Session} {final : EventStore}
    (opened : (start engine configuration program).on (freshStore configuration) =
      (.ok session, final)) : final.Equipped := by
  have ending := (start_unopened engine configuration program).2
  rw [opened] at ending
  obtain ⟨middle, function, -, -, rfl⟩ := ending
  intro kind
  obtain rfl : kind = eventKind := Subsingleton.elim _ _
  rw [Store.rebind, Store.registry_note, Store.registry_onRegistry, if_pos rfl]
  rfl

end Session

namespace SessionHost

theorem equipped_of_started {engine : Engine 1} {configuration : Configuration}
    {program : Program 1} {state : SessionHost}
    (started : (start engine configuration program).value = .ok state) :
    state.host.store.Equipped := by
  obtain ⟨session, store, opened, rfl⟩ := value_start_eq_ok_iff.mp started
  exact Session.equipped_of_on_start opened

/-- Only requests that name an export themselves are refused because a lookup failed, at any time
in a run on a host whose kinds all have a destructor. -/
theorem serveAll_spares (state : SessionHost) (requests : List Request)
    (equipped : state.host.store.Equipped) {request : Request} {fault : Fault}
    (answered : (request, .error (.fault fault)) ∈
      requests.zip (state.serveAll requests).value.1)
    (unnamed : request.looksUp = false) : fault.isOfLookup = false := by
  have answers := (state.serveAll_evolves requests fun _ _ => trivial).2.2
  obtain ⟨cause, evolves, traced⟩ := (List.forall₂_iff_zip.mp answers).2 answered _ rfl
  rw [← Bool.not_eq_true]
  intro found
  rcases traced.known found with named | wanting
  · cases unnamed.symm.trans named
  · exact wanting (evolves.equipped equipped)

end SessionHost

namespace Session

variable {engine : Engine 1} {configuration : Configuration} {program : Program 1}

/-- Opening a session on a guest that can be linked and started succeeds exactly if all that the
contract requires is exported, whatever the names. Otherwise it fails for the first requirement that
is not met: an export is missing, or it is a function of another type. Once a session is open, a
request that does not name an export itself never comes to a fault of these two kinds. -/
theorem start_resolves_contract {linker : Linker} {running : Instance 1} {started : EventStore}
    (registered : Linker.register {} configuration.names.importNamespace resourceName = .ok linker)
    (linked : (linker.instantiate engine program).on (freshStore configuration) =
      (.ok running, started)) :
    ((∃ session final, (start engine configuration program).on (freshStore configuration) =
        (.ok session, final)) ↔
        ∀ requirement ∈ Contract.requirements configuration.names, requirement.Met program) ∧
      (∀ fault final, (start engine configuration program).on (freshStore configuration) =
          (.error fault, final) →
        ∃ earlier unmet later,
          Contract.requirements configuration.names = earlier ++ unmet :: later ∧
            (∀ requirement ∈ earlier, requirement.Met program) ∧ unmet.Fails program fault) ∧
      ∀ requests outcomes state,
        (SessionHost.run engine configuration program requests).value = .ok (outcomes, state) →
          outcomes.length = requests.length ∧
            ∀ request fault, (request, .error (.fault fault)) ∈ requests.zip outcomes →
              request.looksUp = false → fault.isOfLookup = false := by
  have ending := on_start registered linked
  obtain rfl := linker.eq_of_on_instantiate linked
  have resolves := Contract.resolve_resolves ({ program, engine } : Instance 1) configuration.names
  generalize Contract.resolve _ configuration.names = result at resolves ending
  refine and_assoc.mp ⟨?_, fun requests outcomes state ran => ?_⟩
  · cases resolves with
    | found value met =>
        refine ⟨⟨fun _ => met, fun _ => ⟨_, _, ending⟩⟩, fun fault final failed => ?_⟩
        exact nomatch ending.symm.trans failed
    | @unmet earlier later requirement cause split met fails =>
        have required : requirement ∈ Contract.requirements configuration.names :=
          split ▸ List.mem_append_right earlier List.mem_cons_self
        refine ⟨⟨?_, fun all => absurd (all requirement required) fails.not_met⟩, ?_⟩
        · rintro ⟨session, final, opened⟩
          exact nomatch ending.symm.trans opened
        · intro fault final failed
          obtain ⟨⟩ := ending.symm.trans failed
          exact ⟨earlier, requirement, later, split, met, fails⟩
  · obtain ⟨opened, started, served⟩ := SessionHost.value_run_eq_ok_iff.mp ran
    obtain rfl : (opened.serveAll requests).value.1 = outcomes := congrArg Prod.fst served
    have answers := (opened.serveAll_evolves requests fun _ _ => trivial).2.2
    exact ⟨answers.length_eq.symm, fun request fault =>
      opened.serveAll_spares requests (SessionHost.equipped_of_started started)⟩

theorem start_resolves_contract_of_countdown :
    ∃ linker running started outcomes state,
      let requests : List Request := [.session .create, .session (.table (.release 0))]
      Linker.register {} "canonical_abi" resourceName = .ok linker ∧
        (linker.instantiate SessionHost.tightEngine SessionHost.countdown).on (freshStore {}) =
            (.ok running, started) ∧
          (∃ session final, (start SessionHost.tightEngine {} SessionHost.countdown).on
              (freshStore {}) = (.ok session, final)) ∧
            (SessionHost.run SessionHost.tightEngine {} SessionHost.countdown requests).value =
                .ok (outcomes, state) ∧
              ∀ request fault, (request, .error (.fault fault)) ∈ requests.zip outcomes →
                request.looksUp = false → fault.isOfLookup = false := by
  obtain ⟨outcomes, state, ran, -⟩ := SessionHost.exists_ending SessionHost.tightEngine {}
    SessionHost.countdown [.session .create, .session (.table (.release 0))] (fun _ => true)
    (by decide +kernel)
  have resolves := @start_resolves_contract SessionHost.tightEngine {} SessionHost.countdown
    _ _ _ rfl rfl
  have met : ∀ requirement ∈ Contract.requirements {},
      requirement.Met SessionHost.countdown := by decide +kernel
  exact ⟨_, _, _, outcomes, state, rfl, rfl, resolves.1.mpr met, ran,
    (resolves.2.2 _ outcomes state ran).2⟩

/-- Of two names that stand for the wrong exports, the one that is looked up first is reported. -/
example :
    let mixed : Program 1 :=
      { SessionHost.countdown with
        exports := ("ce-handler", .function 1) :: ("canonical_abi_free", .memory) ::
          SessionHost.countdown.exports }
    ((start SessionHost.tightEngine {} mixed).on (freshStore {})).1.map (fun _ => ()) =
      .error (.missingExport "canonical_abi_free") := by decide +kernel

end Session

end Event

end GuestBoundary
