import GuestBoundary.Proofs.Guest.Leaving
import GuestBoundary.Proofs.Guest.Releases
import GuestBoundary.Proofs.Resource.Destructions

/-!
# Cascades of destructors

A destructor that drops a handle may call another destructor, which may drop the next one. If
destructors do no more with handles than look at them and drop them, every such step frees a slot
and none fills one. So destructors call each other no deeper than there are slots to free, and they
come to an end: on every stack that has enough room the end is the same.
-/

namespace GuestBoundary

variable {kinds : Nat} {ε σ α : Type}

/-- Of the lifecycle functions, a tame command is only ever the one that looks at a handle or the
one that drops it. -/
def Command.Tame (command : Command kinds) : Prop :=
  ∀ action kind argument, command = .lifecycle action kind argument →
    action = .get ∨ action = .drop

/-- Code that does no more with handles than look at them and drop them, whatever they are and
whatever becomes of it. -/
inductive Code.Tame : Code kinds α → Prop where
  | done (value : α) : Tame (.done value)
  | trap (reason : String) : Tame (.trap reason)
  | perform {command : Command kinds} {next : command.Answer → Code kinds α}
      (tame : command.Tame) (rest : ∀ answer, Tame (next answer)) : Tame (.perform command next)

/-- Work that may be cut off for want of stack ends if it comes to the same on all stacks that let
enough calls nest and have enough room. What never ended would be cut off later on each larger
one. -/
def Work.Ends (work : (depth room : Nat) → Work ε σ α) (depth : Nat) (state : σ)
    (ending : Except ε α × σ) : Prop :=
  ∃ room, ∀ deeper wider, depth ≤ deeper → room ≤ wider → (work deeper wider).on state = ending

theorem Work.Ends.of_eq {work : (depth room : Nat) → Work ε σ α} {state : σ}
    {ending : Except ε α × σ} (same : ∀ depth room, (work depth room).on state = ending)
    (depth : Nat) : Work.Ends work depth state ending :=
  ⟨0, fun deeper wider _ _ => same deeper wider⟩

namespace Store

/-- Whether a resource is destroyed by tame code. -/
def TamelyDestroyed (running : Instance kinds) (store : Store kinds)
    (reference : Reference kinds) : Prop :=
  (running.program.body (store.resource reference).destructor
    [(store.resource reference).representation]).Tame

/-- All references in the tables are listed, as often as they are there, and their resources are
destroyed by tame code. -/
structure Tamed (running : Instance kinds) (held : List (Reference kinds)) (store : Store kinds) :
    Prop where
  listed : ∀ reference, store.slots reference ≤ held.count reference
  tame : ∀ reference ∈ held, store.TamelyDestroyed running reference

/-- What a cascade leaves of a store: it has freed slots and filled none, the records are of the
same resources, and all calls that it has made were let in and destroy resources from a list. -/
structure Subsides (among : List (Reference kinds)) (store later : Store kinds) : Prop where
  slots : ∀ reference, later.slots reference ≤ store.slots reference
  original : ∀ reference,
    (later.resource reference).original = (store.resource reference).original
  told : ∃ added, later.log.toList = store.log.toList ++ added ∧
    ∀ call entered, .called call entered ∈ added →
      entered = true ∧ ∃ reference ∈ among, call.onBehalfOf = some reference

namespace Subsides

variable {among others : List (Reference kinds)} {store middle later : Store kinds}

/-- A step that notes no call. -/
theorem of_quiet (added : List (Occurrence kinds))
    (slots : ∀ reference, later.slots reference ≤ store.slots reference)
    (original : ∀ reference,
      (later.resource reference).original = (store.resource reference).original)
    (log : later.log.toList = store.log.toList ++ added)
    (quiet : ∀ call entered, .called call entered ∉ added) : store.Subsides among later :=
  ⟨slots, original, added, log, fun call entered noted => absurd noted (quiet call entered)⟩

theorem of_views (slots : ∀ reference, later.slots reference ≤ store.slots reference)
    (resources : ∀ reference, later.resource reference = store.resource reference)
    (log : later.log = store.log) : store.Subsides among later :=
  of_quiet [] slots (fun reference => congrArg Resource.original (resources reference))
    (by rw [log, List.append_nil]) fun _ _ => List.not_mem_nil

theorem refl (among : List (Reference kinds)) (store : Store kinds) : store.Subsides among store :=
  of_views (fun _ => Nat.le_refl _) (fun _ => rfl) rfl

theorem trans (first : store.Subsides among middle) (second : middle.Subsides among later) :
    store.Subsides among later := by
  obtain ⟨early, earlyLog, earlyCalls⟩ := first.told
  obtain ⟨late, lateLog, lateCalls⟩ := second.told
  refine ⟨fun reference => Nat.le_trans (second.slots reference) (first.slots reference),
    fun reference => (second.original reference).trans (first.original reference),
    early ++ late, by rw [lateLog, earlyLog, List.append_assoc], fun call entered noted => ?_⟩
  exact (List.mem_append.mp noted).elim (earlyCalls call entered) (lateCalls call entered)

theorem mono (subsides : store.Subsides among later) (subset : among ⊆ others) :
    store.Subsides others later := by
  obtain ⟨added, log, calls⟩ := subsides.told
  refine ⟨subsides.slots, subsides.original, added, log, fun call entered noted => ?_⟩
  obtain ⟨letIn, reference, listed, named⟩ := calls call entered noted
  exact ⟨letIn, reference, subset listed, named⟩

theorem inside (store : Store kinds) (memory : Bytes) (globals : Array Word) :
    store.Subsides among { store with memory, globals } :=
  of_views (fun _ => Nat.le_refl _) (fun _ => rfl) rfl

theorem book (store : Store kinds) (reference : Reference kinds) :
    store.Subsides among (store.book reference) := by
  refine of_quiet [.released reference (store.verdict reference)]
    (fun other => Nat.le_of_eq (slots_book store reference other)) (fun other => ?_) ?_ (by simp)
  · rw [resource_book]
    split
    next same => rw [Resource.original_released, same]
    next => rfl
  · rw [log_book, Array.toList_push]

theorem take {kind : Fin kinds} {handle : Word} {identity : Nat} {table : Slab Nat}
    (taken : (store.registry kind).table.take handle = .ok (identity, table)) :
    store.Subsides among (store.withTable kind table) := by
  refine of_views (fun reference => ?_) (resource_withTable store kind table) rfl
  rw [slots_of_take taken reference]
  exact Nat.le_add_right _ _

/-- A call on behalf of a listed resource is let in. -/
theorem enter {reference : Reference kinds} {call : Call kinds} (listed : reference ∈ among)
    (named : call.onBehalfOf = some reference) :
    store.Subsides among (store.note (.called call true)) := by
  refine ⟨fun _ => Nat.le_refl _, fun _ => rfl, [.called call true], Array.toList_push, ?_⟩
  intro other entered noted
  obtain ⟨rfl, rfl⟩ := Occurrence.called.inj (List.mem_singleton.mp noted)
  exact ⟨rfl, reference, listed, named⟩

end Subsides

variable {running : Instance kinds} {held among : List (Reference kinds)}
  {store final : Store kinds}

theorem TamelyDestroyed.later {reference : Reference kinds}
    (tame : store.TamelyDestroyed running reference) (subsides : store.Subsides among final) :
    final.TamelyDestroyed running reference := by
  rw [TamelyDestroyed, body_eq_of_same (subsides.original reference)]
  exact tame

theorem Tamed.later (tamed : store.Tamed running held) (subsides : store.Subsides among final) :
    final.Tamed running held where
  listed reference := Nat.le_trans (subsides.slots reference) (tamed.listed reference)
  tame reference listed := (tamed.tame reference listed).later subsides

/-- What is taken out of the table was listed, and needs to be listed once less. -/
theorem Tamed.take (tamed : store.Tamed running held) {kind : Fin kinds} {handle : Word}
    {identity : Nat} {table : Slab Nat}
    (taken : (store.registry kind).table.take handle = .ok (identity, table)) :
    { kind, identity } ∈ held ∧
      (store.withTable kind table).Tamed running (held.erase { kind, identity }) := by
  have slots := slots_of_take taken
  have listed : { kind, identity } ∈ held := by
    have here := slots { kind, identity }
    have enough := tamed.listed { kind, identity }
    rw [if_pos rfl] at here
    exact List.count_pos_iff.mp (by omega)
  have freed : store.Subsides [] (store.withTable kind table) := .take taken
  refine ⟨listed, fun reference => ?_, fun reference among => ?_⟩
  · have here := slots reference
    have enough := tamed.listed reference
    rw [List.count_erase]
    simp only [beq_iff_eq]
    omega
  · exact (tamed.tame reference (List.mem_of_mem_erase among)).later freed

end Store

/-! ### One step of a cascade -/

/-- A command other than a lifecycle function does not enter the guest. -/
theorem Store.execute_eq_of_own {command : Command kinds}
    (own : ∀ action kind argument, command ≠ .lifecycle action kind argument)
    (enter other : Entry kinds) : execute enter command = execute other command := by
  cases command with
  | lifecycle action kind argument => exact absurd rfl (own action kind argument)
  | _ => rfl

/-- With enough stack a command is let through, and takes no more than that. -/
theorem Command.exists_roomAfter (command : Command kinds) :
    ∃ least, ∀ room, least ≤ room →
      ∃ after, command.roomAfter room = some after ∧ room ≤ after + least := by
  cases command with
  | enterFrame size =>
      exact ⟨size, fun room enough => ⟨room - size, if_pos enough, by omega⟩⟩
  | leaveFrame size => exact ⟨0, fun room _ => ⟨room + size, rfl, by omega⟩⟩
  | _ => exact ⟨0, fun room _ => ⟨room, rfl, Nat.le_refl _⟩⟩

namespace Instance

variable (running : Instance kinds)

/-- Tame code ends on every store whose references are among these, with no more nested calls than
there are of them. -/
def Calms (held : List (Reference kinds)) : Prop :=
  ∀ (code : Code kinds Word) (store : Store kinds), code.Tame → store.Tamed running held →
    ∃ ending, Work.Ends (fun depth => code.run (running.within depth)) held.length store ending ∧
      store.Subsides held ending.2

variable {running} {held : List (Reference kinds)} {store : Store kinds}

/-- A release ends if the destructor that it may call does. -/
theorem Calms.release (calms : running.Calms held) {reference : Reference kinds}
    (tamed : store.Tamed running held) (tame : store.TamelyDestroyed running reference) :
    ∃ ending, Work.Ends (fun depth room => Store.release (running.within depth room) reference)
        (held.length + 1) store ending ∧
      store.Subsides (reference :: held) ending.2 := by
  have booked : store.Subsides (reference :: held) (store.book reference) := .book store reference
  cases decided : store.verdict reference with
  | refused =>
      refine ⟨(.error (.doubleDrop (store.registry reference.kind).name
          (store.resource reference).representation), store.book reference),
        .of_eq (fun depth room => ?_) _, booked⟩
      rw [Store.on_release, Store.consequence, decided]
      rfl
  | shared =>
      refine ⟨(.ok (), store.book reference), .of_eq (fun depth room => ?_) _, booked⟩
      exact Store.on_release_of_shared _ decided
  | last call =>
      have letIn : (store.book reference).Subsides (reference :: held)
          ((store.book reference).note (.called call true)) :=
        .enter List.mem_cons_self (Store.onBehalfOf_of_last decided)
      have called : (running.program.body call.function call.arguments).Tame := by
        rw [Store.eq_of_verdict_last decided]
        exact tame
      obtain ⟨⟨outcome, final⟩, ⟨room, ended⟩, subsides⟩ :=
        calms _ _ called (tamed.later (booked.trans letIn))
      let left := outcome.mapError fun abort =>
        (abort.withNotes (running.engine.notes call)).recover
      refine ⟨(left.map fun _ => (), final), ⟨room + running.engine.callSize, ?_⟩,
        (booked.trans letIn).trans (subsides.mono (List.subset_cons_self _ _))⟩
      intro deeper wider depthLe roomLe
      have ran : (running.opening (wider - running.engine.callSize) call
          (store.book reference)).run (running.within (deeper - 1)) = (outcome, final) :=
        ended (deeper - 1) (wider - running.engine.callSize) (by omega) (by omega)
      rw [Store.on_release, Store.consequence, decided]
      dsimp only [GuestRun.toHost]
      rw [Work.on_discard, Work.on_adapt, on_within_of_fits (by omega) (by omega), ran]
      rcases outcome with abort | value <;> rfl

/-- Looking at a handle and dropping it end, the latter because a reference less is left. -/
theorem lifecycle_ends (inner : ∀ reference ∈ held, running.Calms (held.erase reference))
    (tamed : store.Tamed running held) (kind : Fin kinds) {action : Lifecycle}
    (tame : action = .get ∨ action = .drop) (argument : Word) :
    ∃ ending, Work.Ends
        (fun depth room => Store.lifecycle (running.within depth room) kind action argument)
        held.length store ending ∧
      store.Subsides held ending.2 := by
  rcases tame with rfl | rfl
  · refine ⟨(Store.lifecycle (running.within 0 0) kind .get argument).on store,
      .of_eq (fun _ _ => rfl) _, ?_⟩
    have leaves := Store.lifecycle_leaves (running.within 0 0) kind .get argument store
    generalize (Store.lifecycle (running.within 0 0) kind .get argument).on store = ending
      at leaves ⊢
    cases leaves with
    | same => exact .refl held _
  · cases taken : (store.registry kind).table.take argument with
    | error fault =>
        refine ⟨(.error fault, store), .of_eq (fun depth room => ?_) _, .refl held store⟩
        rw [Store.lifecycle, Work.on_bind, Store.on_unpark_of_fault taken]
    | ok found =>
        obtain ⟨identity, table⟩ := found
        obtain ⟨listed, rest⟩ := tamed.take taken
        have freed : store.Subsides held (store.withTable kind table) := .take taken
        obtain ⟨ending, ⟨room, ended⟩, subsides⟩ := (inner _ listed).release rest
          ((tamed.tame _ listed).later freed)
        have fewer := List.length_erase_of_mem listed
        have some := List.length_pos_of_mem listed
        refine ⟨(ending.1.map fun _ => 0, ending.2), ⟨room, fun deeper wider depthLe roomLe => ?_⟩,
          freed.trans (subsides.mono ?_)⟩
        · rw [Store.on_drop _ kind taken, ended deeper wider (by omega) roomLe]
        · exact List.cons_subset.mpr ⟨listed, List.erase_subset⟩

theorem execute_ends (inner : ∀ reference ∈ held, running.Calms (held.erase reference))
    (tamed : store.Tamed running held) {command : Command kinds} (tame : command.Tame) :
    ∃ ending, Work.Ends (fun depth room => Store.execute (running.within depth room) command)
        held.length store ending ∧
      store.Subsides held ending.2 := by
  by_cases imported : ∃ action kind argument, command = .lifecycle action kind argument
  · obtain ⟨action, kind, argument, rfl⟩ := imported
    obtain ⟨ending, ⟨room, ended⟩, subsides⟩ :=
      lifecycle_ends inner tamed kind (tame action kind argument rfl) argument
    refine ⟨(ending.1.mapError Fault.abort, ending.2),
      ⟨room, fun deeper wider depthLe roomLe => ?_⟩, subsides⟩
    dsimp only
    rw [Store.execute, GuestRun.ofHost, Work.on_adapt, ended deeper wider depthLe roomLe]
  · have own : ∀ action kind argument, command ≠ .lifecycle action kind argument :=
      fun action kind argument same => imported ⟨action, kind, argument, same⟩
    refine ⟨(Store.execute (running.within 0 0) command).on store,
      .of_eq (fun depth room => by rw [Store.execute_eq_of_own own]) _, ?_⟩
    rcases Store.execute_cases (running.within 0 0) command store with
      ⟨memory, globals, left⟩ | ⟨action, kind, argument, same, -⟩
    · rw [left]
      exact .inside store memory globals
    · exact absurd same (own action kind argument)

/-- Code goes on with a store that has subsided, and on what is left of its stack. -/
theorem calms_of_erase (inner : ∀ reference ∈ held, running.Calms (held.erase reference)) :
    running.Calms held := by
  intro code store tame tamed
  induction code generalizing store with
  | done value => exact ⟨(.ok value, store), .of_eq (fun _ _ => rfl) _, .refl held store⟩
  | trap reason =>
      exact ⟨(.error (.failure reason), store), .of_eq (fun _ _ => rfl) _, .refl held store⟩
  | perform command next inductionHypothesis =>
      cases tame with
      | perform tameCommand rest =>
      obtain ⟨⟨outcome, middle⟩, ⟨first, ended⟩, subsides⟩ := execute_ends inner tamed tameCommand
      obtain ⟨least, lets⟩ := command.exists_roomAfter
      cases outcome with
      | error abort =>
          refine ⟨(.error abort, middle), ⟨max first least, ?_⟩, subsides⟩
          intro deeper wider depthLe roomLe
          obtain ⟨after, fits, -⟩ := lets wider (by omega)
          refine (Stage.run_perform fits).trans ?_
          rw [ended deeper wider depthLe (by omega)]
      | ok answer =>
          obtain ⟨ending, ⟨second, finished⟩, further⟩ :=
            inductionHypothesis answer middle (rest answer) (tamed.later subsides)
          refine ⟨ending, ⟨max first (second + least), ?_⟩, subsides.trans further⟩
          intro deeper wider depthLe roomLe
          obtain ⟨after, fits, left⟩ := lets wider (by omega)
          refine (Stage.run_perform fits).trans ?_
          rw [ended deeper wider depthLe (by omega)]
          exact finished deeper after depthLe (by omega)

/-- Tame code ends whatever is in the tables, as long as that is destroyed by tame code. The
induction is on the references in the tables: before a destructor is called one of them is taken
out. -/
theorem calms (running : Instance kinds) (held : List (Reference kinds)) : running.Calms held := by
  induction fewer : held.length generalizing held with
  | zero =>
      obtain rfl := List.length_eq_zero_iff.mp fewer
      exact calms_of_erase fun reference listed => absurd listed List.not_mem_nil
  | succ number inductionHypothesis =>
      refine calms_of_erase fun reference listed => inductionHypothesis _ ?_
      rw [List.length_erase_of_mem listed, fewer, Nat.add_sub_cancel]

end Instance

namespace Store

variable {running : Instance kinds} {held : List (Reference kinds)} {store : Store kinds}

theorem releaseAll_ends {references : List (Reference kinds)} (tamed : store.Tamed running held)
    (tame : ∀ reference ∈ references, store.TamelyDestroyed running reference) :
    ∃ ending, Work.Ends
        (fun depth room => releaseAll (running.within depth room) references)
        (held.length + 1) store ending ∧
      store.Subsides (references ++ held) ending.2 := by
  induction references generalizing store with
  | nil => exact ⟨(.ok (), store), .of_eq (fun _ _ => rfl) _, .refl _ store⟩
  | cons reference references inductionHypothesis =>
      obtain ⟨tameHere, tame⟩ := List.forall_mem_cons.mp tame
      have landed : store.Subsides (reference :: references ++ held) (store.land reference) :=
        .of_views (fun _ => Nat.le_refl _) (fun _ => rfl) rfl
      obtain ⟨⟨outcome, middle⟩, ⟨first, ended⟩, subsides⟩ :=
        (running.calms held).release (tamed.later landed) (tameHere.later landed)
      have onward := landed.trans (subsides.mono (by
        exact List.cons_subset_cons _ (List.subset_append_right _ _)))
      obtain ⟨ending, ⟨second, finished⟩, further⟩ := inductionHypothesis (tamed.later onward)
        fun other among => (tame other among).later onward
      refine ⟨(outcome *> ending.1, ending.2), ⟨max first second, ?_⟩,
        onward.trans (further.mono (List.subset_cons_self _ _))⟩
      intro deeper wider depthLe roomLe
      simp only [releaseAll, Work.on_bind, Work.on_modify, Work.on_settle, Attempt.on_ofExcept,
        ended deeper wider depthLe (by omega), finished deeper wider depthLe (by omega)]

/-- If its log agrees with its records, the destructors that a cascade has called are no more than
the resources that it may have destroyed. -/
theorem Subsides.length_destructions_le {among : List (Reference kinds)} {final : Store kinds}
    {added : List (Occurrence kinds)} (subsides : store.Subsides among final)
    (chronicled : final.Chronicled) (log : final.log.toList = store.log.toList ++ added) :
    ((destructions added).map Call.onBehalfOf).Nodup ∧
      (destructions added).length ≤ among.length := by
  obtain ⟨told, toldLog, calls⟩ := subsides.told
  obtain rfl : added = told := List.append_cancel_left (log.symm.trans toldLog)
  have once := chronicled.nodup_destructions
  rw [log, destructions, List.filterMap_append, List.map_append] at once
  have distinct := (List.nodup_append.mp once).2.1
  refine ⟨distinct, ?_⟩
  have listed : (destructions added).map Call.onBehalfOf ⊆ among.map some := by
    intro resource called
    obtain ⟨call, made, rfl⟩ := List.mem_map.mp called
    obtain ⟨occurrence, noted, read⟩ := List.mem_filterMap.mp made
    obtain ⟨entered, rfl⟩ := Occurrence.eq_called_of_destruction? read
    obtain ⟨-, reference, included, named⟩ := calls call entered noted
    exact List.mem_map.mpr ⟨reference, included, named.symm⟩
  have fewer := (List.subperm_of_subset distinct listed).length_le
  rwa [List.length_map, List.length_map] at fewer

end Store

/-! ### Stacks of a host -/

/-- How deep calls nest and how much room they have is not up to the engine's stack. -/
theorem Engine.enter_withStack (engine : Engine kinds) (stack : Nat)
    (body : FunctionId → List Word → Code kinds Word) (depth : Nat) :
    { engine with stack }.enter body depth = engine.enter body depth := by
  induction depth with
  | zero => rfl
  | succ depth inductionHypothesis =>
      funext room call
      rw [Engine.enter, Engine.enter, inductionHypothesis]
      rfl

namespace Instance

variable (running : Instance kinds)

/-- The same guest on a stack of another size. -/
def onStack (stack : Nat) : Instance kinds :=
  { running with engine := { running.engine with stack } }

theorem enter_onStack (stack : Nat) :
    (running.onStack stack).enter =
      running.within (stack + 1) (stack + running.engine.callSize) := by
  rw [enter_eq_within]
  funext call
  exact congrArg (fun enter => running.engine.nested enter (stack + running.engine.callSize) call)
    (running.engine.enter_withStack stack running.program.body (stack + 1))

end Instance

/-- What ends on every stack with enough room for a call ends on every large enough stack of a
host. -/
theorem Work.Ends.on_enter {running : Instance kinds}
    (work : Entry kinds → Work ε (Store kinds) α) {depth : Nat} {store : Store kinds}
    {ending : Except ε α × Store kinds}
    (ends : Work.Ends (fun depth room => work (running.within depth room)) depth store ending) :
    ∃ enough, ∀ stack, enough ≤ stack → (work (running.onStack stack).enter).on store = ending := by
  obtain ⟨room, ended⟩ := ends
  refine ⟨max depth room, fun stack large => ?_⟩
  rw [running.enter_onStack]
  exact ended _ _ (by omega) (by omega)

end GuestBoundary
