import GuestBoundary.Engine
import GuestBoundary.Proofs.Confinement
import GuestBoundary.Proofs.Guest.Exports
import GuestBoundary.Proofs.Resource.Moves

/-!
# What guest code can do

Guest code is confined to the moves of a store. One command makes at most one of them, and the
lifecycle functions enter the guest again only to destroy; so the statement goes by induction on
how deep calls may nest, and for each depth by induction on the code. A fault that goes back to a
refused reference is traced on the same way: such a refusal is always in the log.
-/

namespace GuestBoundary

variable {kinds : Nat} {α : Type} {owned : Reference kinds → Prop} {looking : Prop}

/-- A way into the guest notes the call and is confined from there on. -/
def Entry.Confined (owned : Reference kinds → Prop) (looking : Prop) (enter : Entry kinds) : Prop :=
  ∀ call store, ∃ entered, (enter call).Confined (Store.Move owned) (Abort.Traced looking)
    (store.note (.called call entered)) store

namespace Store

/-- A release gives the reference back in one go; what follows is up to the destructor. -/
theorem release_confined_of {enter : Entry kinds} {reference : Reference kinds}
    {store : Store kinds} {entered : Bool}
    (confined : ∀ call, store.verdict reference = .last call →
      (enter call).Confined (Move owned) (Abort.Traced looking)
        ((store.book reference).note (.called call entered)) (store.book reference)) :
    (release enter reference).Confined (Move owned) (Fault.Traced looking)
      (store.giveBack entered reference) store := by
  refine .of_course (on_release enter reference store) (release_eq enter reference store).2 ?_
  unfold consequence giveBack
  cases verdict : store.verdict reference with
  | refused =>
      apply Work.Confined.throw
      refine ⟨fun _ => ⟨reference, ?_⟩, nofun⟩
      simp [verdict]
  | shared => exact .pure ()
  | last call => exact ((confined call verdict).adapt Abort.Traced.recover).discard

theorem release_confined {enter : Entry kinds} (confined : enter.Confined owned looking)
    (reference : Reference kinds) (store : Store kinds) :
    ∃ entered, (release enter reference).Confined (Store.Move owned) (Fault.Traced looking)
      (store.giveBack entered reference) store := by
  cases verdict : store.verdict reference with
  | last call =>
      obtain ⟨entered, after⟩ := confined call (store.book reference)
      refine ⟨entered, release_confined_of fun other same => ?_⟩
      rwa [← Verdict.last.inj (verdict.symm.trans same)]
  | _ => exact ⟨false, release_confined_of fun _ same => nomatch verdict.symm.trans same⟩

/-- Dropping a handle takes its reference out of the table and gives it back. -/
theorem on_drop (enter : Entry kinds) {store : Store kinds} (kind : Fin kinds) {handle : Word}
    {identity : Nat} {table : Slab Nat}
    (taken : (store.registry kind).table.take handle = .ok (identity, table)) :
    (lifecycle enter kind .drop handle).on store =
      (((release enter { kind, identity }).on (store.withTable kind table)).1.map fun _ => 0,
        ((release enter { kind, identity }).on (store.withTable kind table)).2) := by
  rw [lifecycle, Work.on_bind, on_unpark_of_take taken]
  dsimp only
  rw [Work.on_bind]
  rcases (release enter { kind, identity }).on (store.withTable kind table) with
    ⟨fault | _, after⟩ <;> rfl

/-- Each lifecycle function makes at most one move before it enters the guest. -/
theorem lifecycle_confined {enter : Entry kinds} (confined : enter.Confined owned looking)
    (kind : Fin kinds) (action : Lifecycle) (argument : Word) (store : Store kinds) :
    (lifecycle enter kind action argument).Confined (Store.Move owned) (Fault.Traced looking)
      store store := by
  cases action with
  | new =>
      apply Work.Confined.of_quiet
      simp only [lifecycle, Work.Quiet, Work.ensures_bind, ensures_wrapBound]
      cases bound : (store.registry kind).destructor with
      | none => exact ⟨.refl, (Fault.ordinary_of_unbound _ bound).traced⟩
      | some function =>
          simp only [ensures_park]
          exact .single (.wrap kind argument function bound)
  | clone =>
      apply Work.Confined.of_quiet
      simp only [lifecycle, Work.Quiet, Work.ensures_bind, ensures_peek]
      cases found : (store.registry kind).table.fetch argument with
      | error fault => exact ⟨.refl, (Fault.ordinary_of_fetch found).traced⟩
      | ok identity =>
          simp only [ensures_lower]
          exact .single (.lower _ (.inr (slots_pos_of_fetch found)))
  | get =>
      apply Work.Confined.of_quiet
      simp only [lifecycle, Work.Quiet, Work.ensures_bind, ensures_peek]
      cases found : (store.registry kind).table.fetch argument with
      | error fault => exact ⟨.refl, (Fault.ordinary_of_fetch found).traced⟩
      | ok identity =>
          simp only [Work.ensures_get, Work.ensures_pure]
          exact .refl
  | drop =>
      apply Work.Confined.after
      rw [ensures_unpark]
      cases taken : (store.registry kind).table.take argument with
      | error fault => exact ⟨.refl, (Fault.ordinary_of_take taken).traced⟩
      | ok found =>
          obtain ⟨identity, table⟩ := found
          obtain ⟨entered, released⟩ :=
            release_confined confined { kind, identity } (store.withTable kind table)
          exact (released.bind fun _ _ _ => .pure 0).of_moves
            (.single (.drop kind argument identity table taken entered))

theorem trap_confined (reason : String) (origin : Store kinds) :
    (trap reason : GuestRun kinds α).Confined (Store.Move owned) (Abort.Traced looking)
      origin origin := by
  apply Work.Confined.throw
  exact (Fault.ordinary_of_isOwn rfl rfl).traced

/-- A command touches what is the guest's own, or is a lifecycle function. -/
theorem execute_confined {enter : Entry kinds} (confined : enter.Confined owned looking)
    (command : Command kinds) (store : Store kinds) :
    (execute enter command).Confined (Store.Move owned) (Abort.Traced looking) store store := by
  cases command with
  | read address length =>
      apply Work.Confined.get
      dsimp only
      split
      next => exact .pure _
      next => exact trap_confined _ _
  | write address data =>
      apply Work.Confined.get
      split
      next => exact .modify (.single (.inside _ store.globals))
      next => exact trap_confined _ _
  | copy target source length =>
      apply Work.Confined.get
      dsimp only
      split
      next => exact .modify (.single (.inside _ store.globals))
      next => exact trap_confined _ _
  | pages => exact .get (.pure _)
  | grow pages =>
      apply Work.Confined.get
      split
      next memory _ =>
          apply Work.Confined.of_quiet
          simp only [Work.Quiet, Work.ensures_bind, Work.ensures_set, Work.ensures_pure]
          exact .single (.inside memory store.globals)
      next => exact .pure _
  | readGlobal index => exact .get (.pure _)
  | writeGlobal index value => exact .modify (.single (.inside store.memory _))
  | lifecycle action kind argument =>
      exact (lifecycle_confined confined kind action argument store).adapt Fault.Traced.abort
  | enterFrame size => exact .pure _
  | leaveFrame size => exact .pure _

end Store

/-- Code makes the moves of its commands, whatever stack it runs on. -/
theorem Code.run_confined {enter : (room : Nat) → Entry kinds}
    (confined : ∀ room, (enter room).Confined owned looking) (code : Code kinds α) (room : Nat)
    (store : Store kinds) :
    (code.run enter room).Confined (Store.Move owned) (Abort.Traced looking) store store := by
  induction code generalizing room store with
  | done value => exact .expose (.pure _)
  | trap reason => exact .expose (Store.trap_confined reason store)
  | perform command next inductionHypothesis =>
      rw [Code.run]
      apply Work.Confined.expose
      split
      next after _ =>
          exact (Store.execute_confined (confined room) command store).bind
            fun answer middle _ => inductionHypothesis answer after middle
      next => exact Store.trap_confined _ _

namespace Engine

variable (engine : Engine kinds)

theorem turnAway_confined (call : Call kinds) (store : Store kinds) :
    (Store.turnAway call : GuestRun kinds Word).Confined (Store.Move owned) (Abort.Traced looking)
      (store.note (.called call false)) store := by
  apply Work.Confined.after
  rw [Work.ensures_modify]
  exact Store.trap_confined _ _

theorem enter_succ_confined {body : FunctionId → List Word → Code kinds Word} {depth : Nat}
    (nested : ∀ room, (engine.enter body depth room).Confined owned looking) (room : Nat)
    (call : Call kinds) (store : Store kinds) :
    (engine.enter body (depth + 1) room call).Confined (Store.Move owned) (Abort.Traced looking)
      (store.note (.called call true)) store := by
  have further (room : Nat) :
      (engine.nested (engine.enter body depth) room).Confined owned looking := by
    intro call store
    unfold Engine.nested
    split
    next => exact ⟨false, turnAway_confined call store⟩
    next => exact nested _ call store
  apply Work.Confined.after
  rw [Work.ensures_modify]
  exact (Code.run_confined further _ room _).adapt (Abort.Traced.withNotes (engine.notes call))

/-- However deep calls nest, a guest is confined. -/
theorem enter_confined (body : FunctionId → List Word → Code kinds Word) (depth room : Nat) :
    (engine.enter body depth room).Confined owned looking := by
  induction depth generalizing room with
  | zero => exact fun call store => ⟨false, turnAway_confined call store⟩
  | succ depth inductionHypothesis =>
      intro call store
      exact ⟨true, engine.enter_succ_confined inductionHypothesis room call store⟩

end Engine

namespace Instance

variable (running : Instance kinds)

/-- A call from outside always gets in. -/
theorem call_entered (call : Call kinds) (store : Store kinds) :
    (running.enter call).Confined (Store.Move owned) (Abort.Traced looking)
      (store.note (.called call true)) store :=
  running.engine.enter_succ_confined
    (running.engine.enter_confined running.program.body running.engine.stack) _ call store

theorem enter_confined : running.enter.Confined owned looking := fun call store =>
  ⟨true, running.call_entered call store⟩

theorem call_confined (function : FunctionId) (arguments : List Word) (store : Store kinds) :
    (running.call function arguments).Confined (Store.Move owned) (Fault.Traced looking)
      store store :=
  ((running.call_entered { function, arguments } store).adapt Abort.Traced.recover).of_moves
    (.single (.call { function, arguments } true rfl))

/-- A release by the host gives the reference back, and its destructor gets in. -/
theorem release_evolves (reference : Reference kinds) (store : Store kinds) :
    (store.giveBack true reference).Evolves owned
      ((Store.release running.enter reference).on store).2 := by
  have released : (Store.release running.enter reference).Confined (Store.Move owned)
      (Fault.Traced False) (store.giveBack true reference) store :=
    Store.release_confined_of fun call _ => running.call_entered call _
  exact released.final

end Instance

end GuestBoundary
