import GuestBoundary.Proofs.Guest.Leaving

/-!
# Handles that a call drops

A slot is freed by dropping its handle and by nothing else. So when a call returns, a handle that
stood for a resource still stands for it, unless the call has got to dropping it: in its own code,
or in the code of a destructor that it has called by dropping another one.
-/

namespace GuestBoundary

open Relation

variable {kinds : Nat}

namespace Store

/-- A slot is occupied by a reference. -/
def Occupies (store : Store kinds) (reference : Reference kinds) (slot : Nat) : Prop :=
  (store.registry reference.kind).table.get? slot = some reference.identity

variable {store : Store kinds} {reference : Reference kinds} {slot : Nat}

theorem Occupies.of_table (occupied : store.Occupies reference slot) {final : Store kinds}
    (same : (final.registry reference.kind).table = (store.registry reference.kind).table) :
    final.Occupies reference slot := by
  rw [Occupies, same]
  exact occupied

/-- What is parked is parked in another slot. -/
theorem Occupies.place (occupied : store.Occupies reference slot) (parked : Reference kinds) :
    (store.place parked).Occupies reference slot := by
  rw [Store.place]
  by_cases here : parked.kind = reference.kind
  · have elsewhere : slot ≠
        ((store.registry parked.kind).table.insert parked.identity).1 := by
      rintro rfl
      rw [Occupies, ← here, Slab.get?_insert_fst] at occupied
      cases occupied
    rw [Occupies, ← here, table_withTable, here]
    exact ((Slab.get?_insert _ _ _).trans (if_neg (here ▸ elsewhere.symm))).trans occupied
  · exact occupied.of_table (table_withTable_of_ne _ _ here)

/-- Taking a reference out of the table frees the slot of its handle only. -/
theorem Occupies.take (occupied : store.Occupies reference slot) {kind : Fin kinds}
    {handle : Word} {identity : Nat} {table : Slab Nat}
    (taken : (store.registry kind).table.take handle = .ok (identity, table))
    (elsewhere : ¬ (kind = reference.kind ∧ handle.toNat = slot)) :
    (store.withTable kind table).Occupies reference slot := by
  by_cases here : kind = reference.kind
  · subst here
    rw [Occupies, table_withTable, (Slab.get?_of_take taken).2,
      if_neg fun same => elsewhere ⟨rfl, same⟩]
    exact occupied
  · exact occupied.of_table (table_withTable_of_ne _ _ here)

theorem Occupies.book (occupied : store.Occupies reference slot) (returned : Reference kinds) :
    (store.book returned).Occupies reference slot :=
  occupied.of_table (table_book store returned reference.kind)

/-- A lifecycle function leaves a slot occupied, or it drops its handle, or it calls a destructor
while the slot is occupied. -/
theorem Occupies.of_leaves (occupied : store.Occupies reference slot) {enter : Entry kinds}
    {kind : Fin kinds} {action : Lifecycle} {argument : Word} {final : Store kinds}
    (leaves : store.Leaves enter kind action argument final) :
    final.Occupies reference slot ∨
      (action = .drop ∧ kind = reference.kind ∧ argument.toNat = slot) ∨
        ∃ identity table call, action = .drop ∧
          (store.registry kind).table.take argument = .ok (identity, table) ∧
            (store.withTable kind table).verdict { kind, identity } = .last call ∧
              ((store.withTable kind table).book { kind, identity }).Occupies reference slot ∧
                final = ((enter call).on ((store.withTable kind table).book
                  { kind, identity })).2 := by
  by_cases here : action = .drop ∧ kind = reference.kind ∧ argument.toNat = slot
  · exact .inr (.inl here)
  cases leaves with
  | same => exact .inl occupied
  | wrapped representation function =>
      refine .inl (Occupies.place (occupied.of_table ?_) _)
      rw [enroll, registry_note, addResource, registry_onRegistry]
      split
      next same => rw [same]
      next => rfl
  | cloned => exact .inl (Occupies.place (occupied.of_table (table_count store _ _)) _)
  | dropped taken =>
      exact .inl ((occupied.take taken fun same => here ⟨rfl, same⟩).book _)
  | destroyed taken last =>
      have booked := (occupied.take taken fun same => here ⟨rfl, same⟩).book
      exact .inr (.inr ⟨_, _, _, rfl, taken, last, booked _, rfl⟩)

end Store

namespace Instance

variable (running : Instance kinds)

/-- A call from inside another one gets to dropping a handle, or drops another one whose destructor
does. -/
inductive Drops (kind : Fin kinds) (handle : Word) :
    (depth room : Nat) → Call kinds → Store kinds → Prop where
  | itself {depth room left : Nat} {call : Call kinds} {store middle : Store kinds}
      {next : Word → Code kinds Word}
      (reached : running.GetsTo depth room call store
        ⟨left, .perform (.lifecycle .drop kind handle) next, middle⟩) :
      Drops kind handle depth room call store
  | destroying {depth room left : Nat} {call inner : Call kinds} {store middle : Store kinds}
      {other : Fin kinds} {argument : Word} {identity : Nat} {table : Slab Nat}
      {next : Word → Code kinds Word}
      (reached : running.GetsTo depth room call store
        ⟨left, .perform (.lifecycle .drop other argument) next, middle⟩)
      (taken : (middle.registry other).table.take argument = .ok (identity, table))
      (last : (middle.withTable other table).verdict { kind := other, identity } = .last inner)
      (drops : Drops kind handle (depth - 1) left inner
        ((middle.withTable other table).book { kind := other, identity })) :
      Drops kind handle depth room call store

variable {running} {depth room : Nat} {call : Call kinds} {store : Store kinds}
  {reference : Reference kinds} {slot : Nat}

/-- From a stage that a call has got to, the slot stays occupied unless the call drops its handle,
if that is so for the calls from there on. -/
theorem occupies_or_drops_of_reaches
    (inwards : ∀ {room : Nat} {call : Call kinds} {store : Store kinds},
      store.Occupies reference slot →
        ((running.within (depth - 1) room call).on store).2.Occupies reference slot ∨
          ∃ handle : Word, handle.toNat = slot ∧
            running.Drops reference.kind handle (depth - 1) room call store)
    {stage : Stage kinds Word} (reached : running.GetsTo depth room call store stage)
    (occupied : stage.store.Occupies reference slot) :
    (stage.run (running.within (depth - 1))).2.Occupies reference slot ∨
      ∃ handle : Word, handle.toNat = slot ∧
        running.Drops reference.kind handle depth room call store := by
  obtain ⟨left, code, middle⟩ := stage
  induction code generalizing left middle with
  | done value => exact .inl occupied
  | trap reason => exact .inl occupied
  | perform command next inductionHypothesis =>
      cases fits : command.roomAfter left with
      | none =>
          have cramped := (Stage.Fails.cramped fits : Stage.Fails (running.within (depth - 1))
            ⟨left, .perform command next, middle⟩ _ _)
          rw [cramped.run_eq]
          exact .inl occupied
      | some after =>
          have executed : ((Store.execute (running.within (depth - 1) left) command).on
              middle).2.Occupies reference slot ∨ ∃ handle : Word, handle.toNat = slot ∧
                running.Drops reference.kind handle depth room call store := by
            rcases Store.execute_cases (running.within (depth - 1) left) command middle with
              ⟨memory, globals, ended⟩ | ⟨action, kind, argument, rfl, leaves⟩
            · rw [ended]
              exact .inl occupied
            · rcases Store.Occupies.of_leaves occupied leaves with
                held | ⟨rfl, rfl, same⟩ | ⟨identity, table, inner, rfl, taken, last, booked, ended⟩
              · exact .inl held
              · exact .inr ⟨argument, same, .itself reached⟩
              · rw [ended]
                rcases inwards booked with held | ⟨handle, same, drops⟩
                · exact .inl held
                · exact .inr ⟨handle, same, .destroying reached taken last drops⟩
          rw [Stage.run_perform fits]
          cases ran : (Store.execute (running.within (depth - 1) left) command).on middle with
          | mk outcome final =>
          rw [ran] at executed
          cases outcome with
          | error abort => exact executed
          | ok answer =>
              rcases executed with held | drops
              · obtain ⟨some, enough, steps⟩ := reached
                exact inductionHypothesis answer after final
                  ⟨some, enough, steps.tail (.perform fits ran)⟩ held
              · exact .inr drops

/-- While a call runs, a slot stays occupied unless the call drops its handle. -/
theorem occupies_or_drops (occupied : store.Occupies reference slot) :
    ((running.within depth room call).on store).2.Occupies reference slot ∨
      ∃ handle : Word, handle.toNat = slot ∧
        running.Drops reference.kind handle depth room call store := by
  induction depth using Nat.strongRecOn generalizing room call store with
  | _ depth inductionHypothesis =>
  by_cases letIn : 0 < depth ∧ running.engine.callSize ≤ room
  · obtain ⟨some, fits⟩ := letIn
    rw [on_within_of_fits some fits]
    exact occupies_or_drops_of_reaches (inductionHypothesis (depth - 1) (by omega))
      ⟨some, fits, .refl⟩ occupied
  · rw [on_within_of_short (by omega)]
    exact .inl occupied

variable (running) in
/-- A call of the host's gets to dropping a handle, or drops another one whose destructor does. -/
def CallDrops (kind : Fin kinds) (handle : Word) (call : Call kinds) (store : Store kinds) : Prop :=
  running.Drops kind handle (running.engine.stack + 1)
    (running.engine.stack + running.engine.callSize) call store

/-- When a call of the host's returns, a handle still stands for what it stood for, unless the
guest has dropped it. -/
theorem call_occupies_or_drops (occupied : store.Occupies reference slot) (function : FunctionId)
    (arguments : List Word) :
    ((running.call function arguments).on store).2.Occupies reference slot ∨
      running.CallDrops reference.kind (UInt32.ofNat slot) { function, arguments } store := by
  have ended : ((running.call function arguments).on store).2 =
      ((running.within (running.engine.stack + 1)
        (running.engine.stack + running.engine.callSize) { function, arguments }).on store).2 := by
    rw [call, enter_eq_within, GuestRun.toHost, Work.on_adapt]
  rw [ended]
  apply (occupies_or_drops occupied).imp_right
  rintro ⟨handle, rfl, drops⟩
  rw [UInt32.ofNat_toNat]
  exact drops

end Instance

end GuestBoundary
