import GuestBoundary.Proofs.Event.Duplication
import GuestBoundary.Proofs.Guest.Reaching
import GuestBoundary.Proofs.Resource.Destructions
import GuestBoundary.Proofs.Resource.Lending

/-!
# Giving references back in any order

A reference lies in a place: under a number of the host, or under a handle. Giving it back empties
the place, and as long as destructors leave the lifecycle functions alone no other place changes.
The counts follow from the places that are still full, and from the counts which resources are
destroyed. So all of this is the same in whatever order references are given back, although each
time another one may be the last of its resource.
-/

namespace GuestBoundary

open Relation

variable {kinds : Nat}

inductive Place (kinds : Nat) where
  /-- Under a number of the host. -/
  | held (kind : Fin kinds) (number : Nat)
  /-- Under a handle. -/
  | parked (kind : Fin kinds) (handle : Nat)
deriving DecidableEq

/-- A reference is given back by the host, or in the middle of a call by a guest that drops a
handle, with so many nested calls and so many bytes of stack left. -/
inductive Return (kinds : Nat) where
  | release (kind : Fin kinds) (number : Nat)
  | drop (kind : Fin kinds) (handle : Word) (depth room : Nat)

theorem Resource.eq_of_original {resource other : Resource}
    (originals : resource.original = other.original)
    (counts : resource.references = other.references)
    (flags : resource.destroyed = other.destroyed) : resource = other := by
  cases resource
  cases other
  simp_all [Resource.original]

namespace Return

def place : Return kinds → Place kinds
  | release kind number => .held kind number
  | drop kind handle _ _ => .parked kind handle.toNat

def perform (running : Instance kinds) : Return kinds → HostRun kinds Unit
  | release kind number => discard (Host.serveTable running kind (.release number))
  | drop kind handle depth room =>
      discard (Host.attempt (Store.lifecycle (running.within depth room) kind .drop handle))

/-- The host after a reference was given back, or after the attempt has failed. -/
def after (running : Instance kinds) (giving : Return kinds) (host : Host kinds) : Host kinds :=
  ((giving.perform running).on host).2

/-- If a destructor is called, then it gets to no lifecycle function. -/
def Quiet (running : Instance kinds) (host : Host kinds) : Return kinds → Prop
  | release kind number => ∀ identity, (host.numbers kind)[number]? = some (some identity) →
      ∀ action, ¬ host.store.ReleaseAsks running (running.engine.stack + 1)
        (running.engine.stack + running.engine.callSize) { kind, identity } action
  | drop kind handle depth room => ∀ identity table,
      (host.store.registry kind).table.take handle = .ok (identity, table) →
        ∀ action, ¬ (host.store.withTable kind table).ReleaseAsks running depth room
          { kind, identity } action

end Return

namespace Host

/-- The reference in a place, by its identity. -/
def content (host : Host kinds) : Place kinds → Option Nat
  | .held kind number => (host.numbers kind)[number]?.join
  | .parked kind handle => (host.store.registry kind).table.get? handle

variable (running : Instance kinds)

/-- The host after references were given back in turn, whatever became of each. -/
def afterReturns (host : Host kinds) (returns : List (Return kinds)) : Host kinds :=
  returns.foldl (fun host giving => giving.after running host) host

/-- None of the destructors that are called in turn gets to a lifecycle function. -/
def QuietReturns (host : Host kinds) : List (Return kinds) → Prop
  | [] => True
  | giving :: returns =>
      giving.Quiet running host ∧ (giving.after running host).QuietReturns returns

variable {running}

/-! ### Places -/

theorem content_withdraw (host : Host kinds) (kind : Fin kinds) (number : Nat)
    (place : Place kinds) :
    (host.withdraw kind number).content place =
      if place = .held kind number then none else host.content place := by
  cases place with
  | parked otherKind handle => exact (if_neg nofun).symm
  | held otherKind other =>
      simp only [content, withdraw, numbers_onNumbers, Place.held.injEq]
      by_cases sameKind : kind = otherKind
      · subst sameKind
        by_cases same : other = number
        · subst same
          by_cases inside : other < (host.numbers kind).size <;> simp [inside]
        · simp [same, Ne.symm same]
      · simp [sameKind, Ne.symm sameKind]

theorem content_withStore {host : Host kinds} {store : Store kinds}
    (tables : ∀ kind, (store.registry kind).table = (host.store.registry kind).table)
    (place : Place kinds) : (host.withStore store).content place = host.content place := by
  cases place with
  | held kind number => rfl
  | parked kind handle => rw [content, content, store_withStore, tables]

theorem content_take {host : Host kinds} {kind : Fin kinds} {handle : Word} {identity : Nat}
    {table : Slab Nat}
    (taken : (host.store.registry kind).table.take handle = .ok (identity, table))
    (place : Place kinds) :
    (host.withStore (host.store.withTable kind table)).content place =
      if place = .parked kind handle.toNat then none else host.content place := by
  cases place with
  | held otherKind number => exact (if_neg nofun).symm
  | parked otherKind other =>
      simp only [content, store_withStore, Place.parked.injEq, Store.withTable,
        Store.registry_onRegistry]
      by_cases sameKind : kind = otherKind
      · subst sameKind
        simp [(Slab.get?_of_take taken).2, eq_comm]
      · simp [sameKind, Ne.symm sameKind]

/-- What is left of a host when places were emptied by giving back what was in them. -/
structure Vacated (places : List (Place kinds)) (host later : Host kinds) : Prop where
  evolves : host.Evolves False later
  content : ∀ place, later.content place = if place ∈ places then none else host.content place
  sizes : ∀ kind, (later.numbers kind).size = (host.numbers kind).size
  wraps : ∀ reference, later.store.Wraps reference ↔ host.store.Wraps reference
  leaked : later.leaked = host.leaked
  inFlight : later.store.inFlight = host.store.inFlight

namespace Vacated

variable {host middle later : Host kinds} {place : Place kinds} {places : List (Place kinds)}

theorem refl (host : Host kinds) : Vacated [] host host :=
  ⟨.refl, fun _ => rfl, fun _ => rfl, fun _ => Iff.rfl, rfl, rfl⟩

theorem of_empty (empty : host.content place = none) : Vacated [place] host host where
  evolves := .refl
  content other := by
    simp only [List.mem_singleton]
    split
    next same => rw [same, empty]
    next => rfl
  sizes _ := rfl
  wraps _ := Iff.rfl
  leaked := rfl
  inFlight := rfl

theorem cons (first : Vacated [place] host middle) (rest : Vacated places middle later) :
    Vacated (place :: places) host later where
  evolves := first.evolves.trans rest.evolves
  content other := by
    simp only [rest.content, first.content, List.mem_cons, List.not_mem_nil, or_false]
    by_cases here : other = place <;> simp [here]
  sizes kind := (rest.sizes kind).trans (first.sizes kind)
  wraps reference := (rest.wraps reference).trans (first.wraps reference)
  leaked := rest.leaked.trans first.leaked
  inFlight := rest.inFlight.trans first.inFlight

theorem of_perm {others : List (Place kinds)} (vacated : Vacated places host later)
    (rearranged : places.Perm others) : Vacated others host later :=
  { vacated with content := fun place => by simp only [vacated.content, rearranged.mem_iff] }

end Vacated

/-! ### Giving back what is in a place -/

/-- Once the reference is out of its place, giving it back changes nothing about places. -/
theorem vacated_of_giveBack {host taken : Host kinds} {place : Place kinds}
    {reference : Reference kinds} {store : Store kinds}
    (content : ∀ other, taken.content other = if other = place then none else host.content other)
    (sizes : ∀ kind, (taken.numbers kind).size = (host.numbers kind).size)
    (wraps : ∀ other, taken.store.Wraps other ↔ host.store.Wraps other)
    (leaked : taken.leaked = host.leaked)
    (inFlight : taken.store.inFlight = host.store.inFlight)
    (given : ∃ entered memory globals,
      store = { taken.store.giveBack entered reference with memory, globals })
    (evolves : host.Evolves False (taken.withStore store)) :
    Vacated [place] host (taken.withStore store) := by
  obtain ⟨entered, memory, globals, rfl⟩ := given
  constructor
  · exact evolves
  · intro other
    simp only [List.mem_singleton, ← content]
    exact content_withStore (taken.store.table_giveBack entered reference) other
  · exact sizes
  · intro other
    exact (taken.store.wraps_giveBack entered reference other).trans (wraps other)
  · exact leaked
  · exact (taken.store.inFlight_giveBack entered reference).trans inFlight

theorem content_held_eq_none {host : Host kinds} {kind : Fin kinds} {number : Nat}
    (missing : ∀ identity, (host.numbers kind)[number]? ≠ some (some identity)) :
    host.content (.held kind number) = none := by
  rw [content, Option.join_eq_none_iff]
  cases found : (host.numbers kind)[number]? with
  | none => exact .inl rfl
  | some content =>
      cases content with
      | none => exact .inr rfl
      | some identity => exact absurd found (missing identity)

theorem on_serveTable_release_of_missing {host : Host kinds} {kind : Fin kinds} {number : Nat}
    (missing : ∀ identity, (host.numbers kind)[number]? ≠ some (some identity)) :
    (serveTable running kind (.release number)).on host = (.error .noReference, host) := by
  have absent : (reference kind number).on host = (.error .noReference, host) := by
    rw [reference, Work.on_get_bind]
    split
    next identity found => exact absurd found (missing identity)
    next => rfl
  rw [serveTable, Work.on_bind, surrender, Work.on_bind, absent]

theorem vacated_release {host : Host kinds} {kind : Fin kinds} {number : Nat}
    (quiet : (Return.release kind number).Quiet running host) :
    Vacated [.held kind number] host ((Return.release kind number).after running host) := by
  have made : (serveTable running kind (.release number)).Made running
      { aliasing := False, leaking := False, looking := False } host :=
    serveTable_made running kind _ nofun
  have evolves : host.Evolves False ((serveTable running kind (.release number)).on host).2 :=
    ReflTransGen.mono (fun _ _ step => step.move) _ _ made.confined.final
  unfold Return.after Return.perform
  rw [Work.on_discard]
  by_cases present : ∃ identity, (host.numbers kind)[number]? = some (some identity)
  · obtain ⟨identity, found⟩ := present
    rw [on_serveTable_release running found] at evolves ⊢
    rw [running.enter_eq_within] at evolves ⊢
    apply vacated_of_giveBack (content_withdraw host kind number) _ (fun _ => Iff.rfl) rfl rfl
      (Store.release_inside_of_silent (quiet identity found)) evolves
    intro other
    rw [withdraw, numbers_onNumbers]
    split
    next same => rw [Array.size_setIfInBounds, same]
    next => rfl
  · have missing : ∀ identity, (host.numbers kind)[number]? ≠ some (some identity) :=
      fun identity found => present ⟨identity, found⟩
    rw [on_serveTable_release_of_missing missing]
    exact .of_empty (content_held_eq_none missing)

theorem vacated_drop {host : Host kinds} {kind : Fin kinds} {handle : Word} {depth room : Nat}
    (quiet : (Return.drop kind handle depth room).Quiet running host) :
    Vacated [.parked kind handle.toNat] host
      ((Return.drop kind handle depth room).after running host) := by
  have entry : (running.within depth room).Confined (0 < host.holdings ·) False :=
    running.within_confined depth room
  have confined := Store.lifecycle_confined entry kind .drop handle host.store
  have evolves : host.Evolves False
      ((attempt (Store.lifecycle (running.within depth room) kind .drop handle)).on host).2 :=
    host.evolves_withStore confined.final
  unfold Return.after Return.perform
  rw [Work.on_discard]
  rw [on_attempt] at evolves ⊢
  cases found : (host.store.registry kind).table.take handle with
  | error fault =>
      have failed : (Store.lifecycle (running.within depth room) kind .drop handle).on host.store =
          (.error fault, host.store) := by
        rw [Store.lifecycle, Work.on_bind, Store.on_unpark_of_fault found]
      rw [failed]
      exact .of_empty (Slab.get?_of_fault found)
  | ok taken =>
      obtain ⟨identity, table⟩ := taken
      rw [Store.on_drop _ kind found] at evolves ⊢
      have given := Store.release_inside_of_silent (quiet identity table found)
      have vacated : Vacated [.parked kind handle.toNat] host
          ((host.withStore (host.store.withTable kind table)).withStore
            ((Store.release (running.within depth room) { kind, identity }).on
              (host.store.withTable kind table)).2) :=
        vacated_of_giveBack (content_take found) (fun _ => rfl)
          (fun _ => Store.wraps_withTable _ _ _ _) rfl rfl given evolves
      exact vacated

/-- What a return leaves of a host. -/
theorem vacated_after {host : Host kinds} {giving : Return kinds}
    (quiet : giving.Quiet running host) :
    Vacated [giving.place] host (giving.after running host) := by
  cases giving with
  | release kind number => exact vacated_release quiet
  | drop kind handle depth room => exact vacated_drop quiet

theorem vacated_afterReturns {host : Host kinds} {returns : List (Return kinds)}
    (quiet : host.QuietReturns running returns) :
    Vacated (returns.map Return.place) host (host.afterReturns running returns) := by
  induction returns generalizing host with
  | nil => exact .refl host
  | cons giving returns inductionHypothesis =>
      exact (vacated_after quiet.1).cons (inductionHypothesis quiet.2)

/-- A guest of plain code has no destructor that gets to a lifecycle function. -/
theorem quietReturns_of_plain
    (plain : ∀ function arguments, (running.program.body function arguments).Plain)
    (host : Host kinds) (returns : List (Return kinds)) : host.QuietReturns running returns := by
  have silent (depth room : Nat) (reference : Reference kinds) (store : Store kinds)
      (action : Lifecycle) : ¬ store.ReleaseAsks running depth room reference action := by
    rintro ⟨call, -, asks⟩
    exact Instance.not_asks_of_plain (plain _ _) action asks
  induction returns generalizing host with
  | nil => trivial
  | cons giving returns inductionHypothesis =>
      refine ⟨?_, inductionHypothesis _⟩
      cases giving with
      | release kind number => exact fun _ _ action => silent _ _ _ _ action
      | drop kind handle depth room => exact fun _ _ _ action => silent _ _ _ _ action

/-! ### What full places say about resources -/

namespace Vacated

variable {host one two : Host kinds} {places : List (Place kinds)}

theorem content_eq (first : Vacated places host one) (second : Vacated places host two)
    (place : Place kinds) : one.content place = two.content place := by
  rw [first.content, second.content]

theorem numbers_eq (first : Vacated places host one) (second : Vacated places host two)
    (kind : Fin kinds) : one.numbers kind = two.numbers kind := by
  apply Array.ext
  · rw [first.sizes, second.sizes]
  · intro number inOne inTwo
    have same := first.content_eq second (.held kind number)
    rw [Host.content, Host.content, Array.getElem?_eq_getElem inOne,
      Array.getElem?_eq_getElem inTwo] at same
    exact same

theorem slots_eq (first : Vacated places host one) (second : Vacated places host two)
    (reference : Reference kinds) : one.store.slots reference = two.store.slots reference := by
  have tables := Slab.values_eq_of_get?_eq fun handle =>
    first.content_eq second (.parked reference.kind handle)
  rw [Store.slots, Store.slots, tables]

theorem outside_eq (first : Vacated places host one) (second : Vacated places host two)
    (reference : Reference kinds) : one.outside reference = two.outside reference := by
  rw [outside, outside, holdings, holdings, first.numbers_eq second, first.leaked, second.leaked,
    first.inFlight, second.inFlight]

theorem original_eq (sound : host.Sound) (vacated : Vacated places host one)
    (reference : Reference kinds) :
    (one.store.resource reference).original = (host.store.resource reference).original := by
  by_cases wrapped : host.store.Wraps reference
  · obtain ⟨-, original, -⟩ := sound.chronicled.of_log_grows
      (vacated.evolves.sound sound).chronicled vacated.evolves.log_grows wrapped
    exact original
  · have unwrapped : ¬ one.store.Wraps reference := fun still =>
      wrapped ((vacated.wraps reference).mp still)
    rw [Store.resource_of_not_wraps wrapped, Store.resource_of_not_wraps unwrapped]

/-- A resource has one count for each full place, so the full places settle its record. -/
theorem resource_eq (sound : host.Sound) (first : Vacated places host one)
    (second : Vacated places host two) (reference : Reference kinds) :
    one.store.resource reference = two.store.resource reference := by
  have soundOne := first.evolves.sound sound
  have soundTwo := second.evolves.sound sound
  have counts : (one.store.resource reference).references =
      (two.store.resource reference).references := by
    rw [soundOne.balanced.counted, soundTwo.balanced.counted, first.outside_eq second,
      first.slots_eq second]
  have flags : (one.store.resource reference).destroyed =
      (two.store.resource reference).destroyed := by
    rw [Bool.eq_iff_iff, soundOne.balanced.destroyed_iff, soundTwo.balanced.destroyed_iff, counts]
  have originals := (first.original_eq sound reference).trans
    (second.original_eq sound reference).symm
  exact Resource.eq_of_original originals counts flags

theorem destructions_perm (sound : host.Sound) (first : Vacated places host one)
    (second : Vacated places host two) :
    (destructions one.store.log.toList).Perm (destructions two.store.log.toList) :=
  (first.evolves.sound sound).chronicled.destructions_perm
    (second.evolves.sound sound).chronicled
    (fun reference => (first.wraps reference).trans (second.wraps reference).symm)
    (first.resource_eq sound second)

end Vacated

end Host

namespace Event.SessionHost

/-- As long as references are duplicated only by counting them, it does not matter in which order
some of them are given back, if no destructor that this calls gets to a lifecycle function. All
records, the contents of all places and the destructor calls made are the same in the end; just
the places that references were given back from are empty. -/
theorem returns_in_any_order {engine : Engine 1} {configuration : Configuration}
    {program : Program 1} {requests : List Request}
    (counted : ∀ number, .holding (.alias number) ∉ requests) {host : Host 1}
    (seen : (run engine configuration program requests).seen host) (running : Instance 1)
    {first second : List (Return 1)}
    (rearranged : (first.map Return.place).Perm (second.map Return.place))
    (quietFirst : host.QuietReturns running first)
    (quietSecond : host.QuietReturns running second) :
    let one := host.afterReturns running first
    let two := host.afterReturns running second
    (∀ reference, one.store.resource reference = two.store.resource reference) ∧
      (∀ place, one.content place = two.content place) ∧
        (∀ place, one.content place =
          if place ∈ first.map Return.place then none else host.content place) ∧
          (destructions one.store.log.toList).Perm (destructions two.store.log.toList) := by
  intro one two
  have sound : host.Sound := sound_of_seen_run counted seen
  have vacatedOne : Host.Vacated (first.map Return.place) host one :=
    Host.vacated_afterReturns quietFirst
  have vacatedTwo : Host.Vacated (first.map Return.place) host two :=
    (Host.vacated_afterReturns quietSecond).of_perm rearranged.symm
  exact ⟨vacatedOne.resource_eq sound vacatedTwo, vacatedOne.content_eq vacatedTwo,
    vacatedOne.content, vacatedOne.destructions_perm sound vacatedTwo⟩

/-- A guest that never asks for a lifecycle function. Destroying the word 1 fails. -/
def inert : Program 1 :=
  { countdown with
    functions := (countdown.functions.setIfInBounds 2
      { signature := .words 0, body := fun _ => .done 0 }).setIfInBounds 4
        { signature := .wordsToUnit 1
          body := fun arguments => if arguments = [1] then .trap "stuck" else .done 0 } }

theorem inert_plain (function : FunctionId) (arguments : List Word) :
    (inert.body function arguments).Plain := by
  unfold Program.body
  split
  next found there =>
      have among : found ∈ inert.functions := Array.mem_of_getElem? there
      simp only [inert, countdown, List.setIfInBounds_toArray, List.set_cons_zero,
        List.set_cons_succ, List.mem_toArray, List.mem_cons, List.not_mem_nil, or_false] at among
      rcases among with rfl | rfl | rfl | rfl | rfl
      case inr.inr.inr.inr =>
        dsimp only
        split
        next => exact .trap _
        next => exact .done _
      all_goals exact .done 0
  next => exact .trap _

/-- Two events, each of which the host holds and the guest has a handle for, are given back once
handles first and once handles last. -/
theorem returns_in_any_order_of_inert :
    let requests : List Request := [.session (.table (.wrap 0)), .session (.table (.wrap 1)),
      .session (.table (.lower 0)), .session (.table (.lower 1))]
    let first : List (Return 1) := [.drop eventKind 0 1 1, .drop eventKind 1 1 1,
      .release eventKind 0, .release eventKind 1]
    let second : List (Return 1) := [.release eventKind 1, .release eventKind 0,
      .drop eventKind 1 1 1, .drop eventKind 0 1 1]
    ∃ host : Host 1,
      (run tightEngine {} inert requests).seen host ∧
      let running : Instance 1 := { program := inert, engine := tightEngine }
      let one := host.afterReturns running first
      let two := host.afterReturns running second
      (one.store.resource { kind := eventKind, identity := 1 }).destroyed = true ∧
      (∀ reference, one.store.resource reference = two.store.resource reference) ∧
      (destructions one.store.log.toList).length = 2 ∧
      (destructions one.store.log.toList).Perm (destructions two.store.log.toList) := by
  intro requests first second
  obtain ⟨outcomes, state, ran, given⟩ := exists_ending tightEngine {} inert requests
    (fun state =>
      let one := state.host.afterReturns { program := inert, engine := tightEngine } first
      (one.store.resource { kind := eventKind, identity := 1 }).destroyed = true ∧
        (destructions one.store.log.toList).length = 2)
    (by decide +kernel)
  obtain ⟨destroyed, length⟩ := of_decide_eq_true given
  have seen := seen_of_run ran
  have quiet (returns : List (Return 1)) : state.host.QuietReturns
      { program := inert, engine := tightEngine } returns :=
    Host.quietReturns_of_plain inert_plain state.host returns
  obtain ⟨resources, -, -, perm⟩ := returns_in_any_order (by simp [requests]) seen
    { program := inert, engine := tightEngine } (by decide : (first.map Return.place).Perm _)
    (quiet first) (quiet second)
  exact ⟨state.host, seen, destroyed, resources, length, perm⟩

end Event.SessionHost

end GuestBoundary
