import GuestBoundary.Proofs.Event.Run

/-!
# The lifetime of a resource

Two statements about all runs of a host with a session, with any guest, in which the host
duplicates no reference without counting it. Whenever somebody can look, each resource counts
exactly the references to it that exist. And each resource is destroyed once, by the release that
takes its last reference, with the destructor that was bound when it was wrapped.
-/

namespace GuestBoundary

variable {kinds : Nat}

namespace Host

/-- How many references to a resource there are, wherever they are: the host holds them, or they
are in the table, or wait to be given back, or were dropped. -/
def owners (host : Host kinds) (reference : Reference kinds) : Nat :=
  host.holdings reference + host.store.slots reference +
    host.store.inFlight.count reference + host.leaked.count reference

theorem owners_eq (host : Host kinds) (reference : Reference kinds) :
    host.owners reference = host.outside reference + host.store.slots reference := by
  unfold owners outside
  omega

theorem sound_ofStore_ofNames (names : Vector String kinds) (memoryLimit : Option Nat) :
    (Host.ofStore (Store.ofNames names memoryLimit)).Sound := by
  apply Store.sound_ofNames names memoryLimit
  intro reference
  simp [Host.outside, Host.holdings, Host.numbers, Host.ofStore, Store.ofNames, Vector.get]

end Host

namespace Event.SessionHost

variable {engine : Engine 1} {configuration : Configuration} {program : Program 1}
  {requests : List Request}

/-- Nothing goes wrong with the references of a host that counts them. -/
theorem sound_of_seen_run (counted : ∀ number, .holding (.alias number) ∉ requests)
    {host : Host 1} (seen : (run engine configuration program requests).seen host) :
    host.Sound :=
  Host.Evolves.sound (Host.sound_ofStore_ofNames _ _)
    (evolves_of_seen_run (fun number among => counted number among) seen)

variable (engine configuration program)

/-- As long as references are duplicated only by counting them, whenever guest or host can look,
every resource counts the references that exist: those the host holds, those under handles, those
that wait to be given back, and those that were dropped. It is destroyed exactly when there are
none. -/
theorem references_eq_of_seen (requests : List Request)
    (counted : ∀ number, .holding (.alias number) ∉ requests) (host : Host 1)
    (seen : (run engine configuration program requests).seen host)
    (reference : EventReference) :
    (host.store.resource reference).references =
        host.holdings reference + host.store.slots reference +
          host.store.inFlight.count reference + host.leaked.count reference ∧
      ((host.store.resource reference).destroyed = true ↔
        (host.store.resource reference).references = 0) := by
  have sound := sound_of_seen_run counted seen
  refine ⟨?_, sound.balanced.destroyed_iff reference⟩
  rw [sound.balanced.counted, ← Host.owners_eq]
  rfl

/-- An event that the host holds and that has two handles. -/
theorem references_of_two_handles :
    let event : EventReference := { kind := eventKind, identity := 0 }
    ∃ host : Host 1,
      (run tightEngine {} countdown
        [.session .create, .session (.table (.lower 0)), .session (.table (.lower 0))]).seen host ∧
      (host.store.resource event).references =
        host.holdings event + host.store.slots event + host.store.inFlight.count event +
          host.leaked.count event ∧
      host.holdings event = 1 ∧ host.store.slots event = 2 := by
  intro event
  obtain ⟨outcomes, state, ran, numbers⟩ := exists_ending tightEngine {} countdown
    [.session .create, .session (.table (.lower 0)), .session (.table (.lower 0))]
    (fun state => state.host.holdings event = 1 ∧ state.host.store.slots event = 2)
    (by decide +kernel)
  have seen := seen_of_run ran
  exact ⟨state.host, seen, (references_eq_of_seen _ _ _ _ (by simp) _ seen event).1,
    of_decide_eq_true numbers⟩

/-- The life of a resource after it was wrapped: references are given back while others remain,
and the release that takes the last one calls the destructor; nothing comes after that. -/
def Life (original : Resource) (reference : EventReference) (remaining : Nat)
    (story : List (Occurrence 1)) : Prop :=
  ∃ (shares : Nat) (entered : Bool),
    story = List.replicate shares (.released reference .shared) ++
      if remaining = 0 then
        [.released reference (.last (original.destructorCall reference)),
          .called (original.destructorCall reference) entered]
      else []

theorem life_of_told {resource : Resource} {reference : EventReference} {remaining : Nat}
    {story : List (Occurrence 1)} (told : resource.Told reference story)
    (unrefused : .released reference .refused ∉ story)
    (destroyed_iff : resource.destroyed = true ↔ remaining = 0) :
    Life resource.original reference remaining story := by
  obtain ⟨shares, refusals, entered, rfl⟩ := told
  refine ⟨shares, entered, ?_⟩
  by_cases destroyed : resource.destroyed = true
  · have none : refusals = 0 := by
      apply Decidable.byContradiction
      intro some
      exact unrefused (by simp [destroyed, some])
    rw [if_pos destroyed, if_pos (destroyed_iff.mp destroyed), none]
    rfl
  · rw [if_neg destroyed, if_neg fun empty => destroyed (destroyed_iff.mpr empty)]

theorem not_isDoubleDrop_of_traced {host : Host 1}
    (evolves : (freshHost configuration).Evolves False host) {fault : Fault}
    {looking : Prop} (traced : fault.Traced looking host.store) : fault.isDoubleDrop = false := by
  have sound : host.Sound := Host.Evolves.sound (Host.sound_ofStore_ofNames _ _) evolves
  rw [← Bool.not_eq_true]
  intro blamed
  exact sound.unrefused (traced.refused blamed)

/-- As long as references are duplicated only by counting them, a resource is destroyed once: by
the release that takes its last reference, which calls the function that was bound when the
resource was wrapped, with its representation. No reference is ever refused, and what the host
holds is not destroyed. -/
theorem run_destroys_once (requests : List Request)
    (counted : ∀ number, .holding (.alias number) ∉ requests) :
    (∀ host, (run engine configuration program requests).seen host →
      (∀ before reference original after,
        host.store.log.toList = before ++ .wrapped reference original :: after →
          lastBound before reference.kind = some original.destructor ∧
            history before reference = [] ∧
              Life original reference (host.owners reference) (history after reference)) ∧
        Prompt host.store.log.toList ∧
          (∀ reference, .released reference .refused ∉ host.store.log) ∧
            ∀ reference, 0 < host.holdings reference →
              (host.store.resource reference).destroyed = false) ∧
      match (run engine configuration program requests).value with
      | .ok (outcomes, _) =>
          ∀ outcome ∈ outcomes, ∀ fault, outcome = .error (.fault fault) →
            fault.isDoubleDrop = false
      | .error fault => fault.isDoubleDrop = false := by
  constructor
  · intro host seen
    have sound := sound_of_seen_run counted seen
    have unrefused (reference : EventReference) :
        .released reference .refused ∉ host.store.log := fun refused =>
      sound.unrefused ⟨reference, refused⟩
    refine ⟨?_, sound.chronicled.prompt, unrefused, fun reference held => ?_⟩
    · intro before reference original after split
      obtain ⟨first, rfl, told⟩ := sound.chronicled.story_of_wrapped split
      refine ⟨sound.chronicled.captured before reference _ after split, first, ?_⟩
      refine life_of_told told (fun refused => unrefused reference ?_) ?_
      · rw [← Array.mem_toList_iff, split]
        exact List.mem_append_right _
          (List.mem_cons_of_mem _ (List.mem_filter.mp refused).1)
      · rw [sound.balanced.destroyed_iff, sound.balanced.counted, Host.owners_eq]
    · have alive := sound.references_pos held
      rw [← Bool.not_eq_true, sound.balanced.destroyed_iff]
      omega
  · have answers := answered_of_run engine configuration program
      fun number among => counted number among
    cases ran : (run engine configuration program requests).value with
    | error fault =>
        rw [ran] at answers
        obtain ⟨later, evolves, traced⟩ := answers
        exact not_isDoubleDrop_of_traced configuration evolves traced
    | ok outcome =>
        rw [ran] at answers
        intro answer among fault refused
        obtain ⟨index, inside, rfl⟩ := List.mem_iff_getElem.mp among
        obtain ⟨same, answered⟩ := List.forall₂_iff_get.mp answers
        obtain ⟨later, evolves, traced⟩ := answered index (same ▸ inside) inside _ refused
        exact not_isDoubleDrop_of_traced configuration evolves traced

/-- An event whose destructor wraps another one. -/
theorem run_destroys_once_of_countdown :
    let event : EventReference := { kind := eventKind, identity := 0 }
    ∃ host : Host 1,
      (run tightEngine {} countdown [.session .create, .session (.table (.release 0))]).seen host ∧
      (host.store.resource event).destroyed = true ∧
      Prompt host.store.log.toList ∧
      ∀ reference, .released reference .refused ∉ host.store.log := by
  intro event
  obtain ⟨outcomes, state, ran, destroyed⟩ := exists_ending tightEngine {} countdown
    [.session .create, .session (.table (.release 0))]
    (fun state => (state.host.store.resource event).destroyed) (by decide +kernel)
  have seen := seen_of_run ran
  obtain ⟨-, prompt, unrefused, -⟩ := (run_destroys_once _ _ _ _ (by simp)).1 _ seen
  exact ⟨state.host, seen, destroyed, prompt, unrefused⟩

end Event.SessionHost

end GuestBoundary
