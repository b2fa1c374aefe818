import GuestBoundary.Host
import GuestBoundary.Proofs.Host.Holdings
import GuestBoundary.Proofs.Resource.Moves

/-!
# The moves of a host

A host moves references between its own hands, the table and the way to being given back. The
moves are listed once. Whether references may be duplicated without counting them is a parameter.
The moves that a request comes to are those that lose sight of no reference, unless the host may
drop references without giving them back.
-/

namespace GuestBoundary

open Relation

variable {kinds : Nat} {α : Type} {aliasing : Prop}

namespace Host

/-- The host that holds more references, in this order. -/
def enlistAll (references : List (Reference kinds)) (host : Host kinds) : Host kinds :=
  references.foldl (fun host reference => host.enlist reference) host

@[simp]
theorem store_enlistAll (host : Host kinds) (references : List (Reference kinds)) :
    (host.enlistAll references).store = host.store := by
  induction references generalizing host with
  | nil => rfl
  | cons reference references inductionHypothesis =>
      exact inductionHypothesis (host.enlist reference)

/-- The host that has dropped a reference without giving it back. -/
def forget (reference : Reference kinds) (host : Host kinds) : Host kinds :=
  { host with leaked := reference :: host.leaked }

/-- What a host with a guest can do. -/
inductive Move (aliasing : Prop) (host : Host kinds) : Host kinds → Prop where
  /-- The guest does something, or the host lowers a reference that it holds. -/
  | store (next : Store kinds) (move : host.store.Move (0 < host.holdings ·) next) :
      Move aliasing host (host.withStore next)
  | wrap (kind : Fin kinds) (representation : Word) (function : FunctionId)
      (bound : (host.store.registry kind).destructor = some function) :
      Move aliasing host
        ((host.withStore (host.store.enroll kind representation function)).enlist
          (host.store.nextReference kind))
  | clone (reference : Reference kinds) (known : 0 < host.holdings reference) :
      Move aliasing host ((host.withStore (host.store.count reference)).enlist reference)
  | duplicate (allowed : aliasing) (reference : Reference kinds)
      (known : 0 < host.holdings reference) : Move aliasing host (host.enlist reference)
  | lift (reference : Reference kinds) (handle : Word) (table : Slab Nat)
      (taken : (host.store.registry reference.kind).table.take handle =
        .ok (reference.identity, table)) :
      Move aliasing host
        ((host.withStore (host.store.withTable reference.kind table)).enlist reference)
  | insert (reference : Reference kinds) (number : Nat)
      (found : (host.numbers reference.kind)[number]? = some (some reference.identity)) :
      Move aliasing host
        ((host.withdraw reference.kind number).withStore (host.store.place reference))
  | release (reference : Reference kinds) (number : Nat)
      (found : (host.numbers reference.kind)[number]? = some (some reference.identity))
      (entered : Bool) :
      Move aliasing host
        ((host.withdraw reference.kind number).withStore
          (host.store.giveBack entered reference))
  | leak (reference : Reference kinds) (number : Nat)
      (found : (host.numbers reference.kind)[number]? = some (some reference.identity)) :
      Move aliasing host ((host.withdraw reference.kind number).forget reference)
  | drain (kind : Fin kinds) :
      Move aliasing host
        ((host.withStore (host.store.withTable kind ∅)).enlistAll (host.store.parked kind))
  | bind (kind : Fin kinds) (function : FunctionId) :
      Move aliasing host (host.withStore (host.store.rebind kind function))
  /-- All references leave the table and wait to be given back. -/
  | launch (kind : Fin kinds) :
      Move aliasing host
        (host.withStore ((host.store.withTable kind ∅).launch (host.store.parked kind)))
  /-- One of the waiting references is given back. -/
  | land (reference : Reference kinds) (waiting : reference ∈ host.store.inFlight)
      (entered : Bool) :
      Move aliasing host
        (host.withStore ((host.store.land reference).giveBack entered reference))

/-- Any number of moves. -/
abbrev Evolves (aliasing : Prop) : Host kinds → Host kinds → Prop :=
  ReflTransGen (Move aliasing)

end Host

/-- What a request may do. -/
structure Licence where
  /-- Duplicate a reference without counting it. -/
  aliasing : Prop
  /-- Drop a reference without giving it back. -/
  leaking : Prop
  /-- Look up an export that may be missing. -/
  looking : Prop

namespace Host

/-- The references outside the tables that are not in the host's hands. -/
def astray (host : Host kinds) : List (Reference kinds) × List (Reference kinds) :=
  (host.leaked, host.store.inFlight)

theorem astray_enlistAll (host : Host kinds) (references : List (Reference kinds)) :
    (host.enlistAll references).astray = host.astray := by
  induction references generalizing host with
  | nil => rfl
  | cons reference references inductionHypothesis =>
      exact inductionHypothesis (host.enlist reference)

/-- A move in the course of a request. -/
structure Step (licence : Licence) (host next : Host kinds) : Prop where
  move : host.Move licence.aliasing next
  kept : next.astray = host.astray ∨ licence.leaking

end Host

@[inherit_doc Fault.Traced]
def Refusal.Traced (looking : Prop) (refusal : Refusal) (host : Host kinds) : Prop :=
  match refusal with
  | .fault cause => cause.Traced looking host.store
  | _ => True

@[inherit_doc Fault.Ordinary]
def Refusal.Ordinary (looking : Prop) (refusal : Refusal) (host : Host kinds) : Prop :=
  match refusal with
  | .fault cause => cause.Ordinary looking host.store
  | _ => True

theorem Refusal.Ordinary.traced {looking : Prop} (refusal : Refusal) (host : Host kinds)
    (ordinary : refusal.Ordinary looking host) : refusal.Traced looking host := by
  cases refusal with
  | fault cause => exact Fault.Ordinary.traced ordinary
  | _ => trivial

namespace Host

theorem holdings_pos_of_found {host : Host kinds} {reference : Reference kinds} {number : Nat}
    (found : (host.numbers reference.kind)[number]? = some (some reference.identity)) :
    0 < host.holdings reference := by
  rw [holdings_withdraw found reference, if_pos rfl]
  exact Nat.succ_pos _

theorem Move.withStore {host : Host kinds} {store next : Store kinds}
    (move : store.Move (0 < host.holdings ·) next) :
    (host.withStore store).Move aliasing (host.withStore next) := .store next move

theorem Step.withStore {licence : Licence} {host : Host kinds} {store next : Store kinds}
    (move : store.Move (0 < host.holdings ·) next) :
    (host.withStore store).Step licence (host.withStore next) where
  move := .store next move
  kept := .inl (congrArg (host.leaked, ·) move.inFlight_eq)

theorem evolves_withStore (host : Host kinds) {store next : Store kinds}
    (evolves : store.Evolves (0 < host.holdings ·) next) :
    (host.withStore store).Evolves aliasing (host.withStore next) :=
  evolves.lift host.withStore fun _ _ => Move.withStore

/-- What work on the store keeps to as part of a host, the host keeps to when it attempts it. -/
theorem attempt_confined {move : Host kinds → Host kinds → Prop}
    {raised : Refusal → Host kinds → Prop} {work : Attempt (Store kinds) α} (host : Host kinds)
    {origin : Store kinds}
    (confined : work.Confined
      (fun store next => move (host.withStore store) (host.withStore next))
      (fun fault store => raised (.fault fault) (host.withStore store)) origin host.store) :
    (attempt work).Confined move raised (host.withStore origin) host := by
  have moves {store next : Store kinds} (evolves : ReflTransGen
      (fun store next => move (host.withStore store) (host.withStore next)) store next) :
      ReflTransGen move (host.withStore store) (host.withStore next) :=
    evolves.lift host.withStore fun _ _ => id
  refine ⟨moves confined.final, fun visible => ?_, fun failed => ?_⟩
  · obtain ⟨inner, shown, rfl⟩ := (shows_attempt _ _ _).mp visible
    exact (confined.shown shown).imp moves moves
  · obtain ⟨fault, _, inside, rfl, -⟩ := on_attempt_eq_error_iff.mp (Prod.ext failed rfl)
    obtain ⟨cause, before, later, raises⟩ := confined.failing (congrArg Prod.fst inside)
    exact ⟨host.withStore cause, moves before, moves later, raises⟩

/-! ### Logs only grow, and destructors stay bound -/

/-- What has happened to the store of a host. -/
def record (host : Host kinds) : List (Occurrence kinds) := host.store.record

theorem Move.log_grows {host next : Host kinds} (move : host.Move aliasing next) :
    host.store.log.toList <+: next.store.log.toList := by
  cases move with
  | store next move => exact move.log_grows
  | release => exact Store.log_giveBack_grows _ _ _
  | land reference => exact Store.log_giveBack_grows (host.store.land reference) _ _
  | drain => simp
  | wrap => simp
  | bind => simp [Store.rebind]
  | _ => exact List.prefix_rfl

theorem Move.equipped {host next : Host kinds} (move : host.Move aliasing next)
    (equipped : host.store.Equipped) : next.store.Equipped := by
  intro kind
  have bound := equipped kind
  cases move with
  | store next move => exact move.equipped equipped kind
  | bind rebound function =>
      rw [store_withStore, Store.rebind, Store.registry_note, Store.registry_onRegistry]
      split
      next => rfl
      next => exact bound
  | wrap => simpa [Store.enroll] using bound
  | clone => simpa [Store.count] using bound
  | land reference _ entered =>
      exact (congrArg Option.isSome (Store.destructor_giveBack (host.store.land reference) entered
        reference kind)).trans bound
  | launch emptied =>
      exact (congrArg Option.isSome (Store.destructor_withTable _ emptied kind ∅)).trans bound
  | insert => simpa [Store.place] using bound
  | lift | drain | release => simpa using bound
  | duplicate | leak => exact bound

variable {host later : Host kinds}

theorem Evolves.log_grows (evolves : host.Evolves aliasing later) :
    host.store.log.toList <+: later.store.log.toList := by
  induction evolves with
  | refl => exact List.prefix_rfl
  | tail _ move inductionHypothesis => exact inductionHypothesis.trans move.log_grows

theorem Evolves.equipped (evolves : host.Evolves aliasing later)
    (equipped : host.store.Equipped) : later.store.Equipped := by
  induction evolves with
  | refl => exact equipped
  | tail _ move inductionHypothesis => exact move.equipped inductionHypothesis

theorem astray_eq_of_steps {licence : Licence} (careful : ¬ licence.leaking)
    (steps : ReflTransGen (Step licence) host later) : later.astray = host.astray := by
  induction steps with
  | refl => rfl
  | tail _ step inductionHypothesis =>
      exact (step.kept.resolve_right careful).trans inductionHypothesis

end Host

end GuestBoundary
