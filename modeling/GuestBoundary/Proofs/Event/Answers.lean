import GuestBoundary.Event.Session
import GuestBoundary.Proofs.Codec.Variant
import GuestBoundary.Proofs.Resource.Lending

/-!
# Answers of the guest

A handler answers with an address, and a constructor with a handle. Both are only looked at when
the guest has returned, against the memory and the table that it left. One reference goes in, with
the call; at most one comes out, from the slot of the handle that the answer names, and whatever
else the guest answers takes nothing.
-/

namespace GuestBoundary

namespace Event

/-- An answer at an address that is no answer, and the fault that says why. -/
inductive NoAnswer (left : EventStore) (area : Word) : Fault → Prop where
  | discriminantOutside (outside : left.memory.word? area = none) :
      NoAnswer left area (.outOfBounds area 4 left.memory.size)
  | payloadOutside {discriminant : Word} (inside : left.memory.word? area = some discriminant)
      (outside : left.memory.word? (area + 8) = none) :
      NoAnswer left area (.outOfBounds (area + 8) 4 left.memory.size)
  | noCase {discriminant payload : Word} (inside : left.memory.word? area = some discriminant)
      (insideToo : left.memory.word? (area + 8) = some payload) (notAccepted : discriminant ≠ 0)
      (notRejected : discriminant ≠ 1) :
      NoAnswer left area (.invalidDiscriminant "result" discriminant.toInt32)
  | noHandle {handle : Word} (accepted : left.memory.word? area = some 0)
      (inside : left.memory.word? (area + 8) = some handle)
      (free : (left.registry eventKind).table.get? handle.toNat = none) :
      NoAnswer left area (.invalidHandle handle)
  | noCode {code : Word} (rejected : left.memory.word? area = some 1)
      (inside : left.memory.word? (area + 8) = some code)
      (unknown : ∀ rejection : Rejection, ErrorCode.code rejection ≠ code.toInt32) :
      NoAnswer left area (.invalidDiscriminant "error" code.toInt32)

/-- How the answer that a handler left at an address is read. -/
structure Answered (left : EventStore) (area : Word)
    (outcome : Except Fault (Except Rejection EventReference)) (final : EventStore) : Prop where
  accepted_iff : ∀ reference, outcome = .ok (.ok reference) ↔
    left.memory.word? area = some 0 ∧ ∃ handle, left.memory.word? (area + 8) = some handle ∧
      (left.registry eventKind).table.get? handle.toNat = some reference.identity
  taken : ∀ reference, outcome = .ok (.ok reference) →
    ∃ handle, left.memory.word? (area + 8) = some handle ∧ left.Takes reference handle.toNat final
  rejected_iff : ∀ rejection, outcome = .ok (.error rejection) ↔
    left.memory.word? area = some 1 ∧
      left.memory.word? (area + 8) = some (ErrorCode.code rejection).toUInt32
  refused_iff : ∀ fault, outcome = .error fault ↔ NoAnswer left area fault
  kept : (∀ reference, outcome ≠ .ok (.ok reference)) → final = left

/-- How the handle that a constructor returned is read. -/
structure Granted (left : EventStore) (handle : Word) (outcome : Except Fault EventReference)
    (final : EventStore) : Prop where
  granted_iff : ∀ reference, outcome = .ok reference ↔
    (left.registry eventKind).table.get? handle.toNat = some reference.identity
  taken : ∀ reference, outcome = .ok reference → left.Takes reference handle.toNat final
  refused_iff : ∀ fault, outcome = .error fault ↔
    fault = .invalidHandle handle ∧ (left.registry eventKind).table.get? handle.toNat = none
  kept : (∀ reference, outcome ≠ .ok reference) → final = left

/-- Events are of one kind, so their references are told apart by their identities. -/
theorem reference_eq_iff (identity : Nat) (reference : EventReference) :
    ({ kind := eventKind, identity } : EventReference) = reference ↔
      identity = reference.identity := by
  obtain ⟨kind, other⟩ := reference
  rw [Subsingleton.elim kind eventKind, Reference.mk.injEq]
  exact and_iff_right rfl

section

variable {left : EventStore} {area : Word}

theorem NoAnswer.not_accepted {fault : Fault} (noAnswer : NoAnswer left area fault)
    (reference : EventReference) :
    ¬ (left.memory.word? area = some 0 ∧ ∃ handle, left.memory.word? (area + 8) = some handle ∧
      (left.registry eventKind).table.get? handle.toNat = some reference.identity) := by
  rintro ⟨discriminant, handle, payload, held⟩
  cases noAnswer <;> simp_all

theorem NoAnswer.not_rejected {fault : Fault} (noAnswer : NoAnswer left area fault)
    (rejection : Rejection) :
    ¬ (left.memory.word? area = some 1 ∧
      left.memory.word? (area + 8) = some (ErrorCode.code rejection).toUInt32) := by
  rintro ⟨discriminant, payload⟩
  cases noAnswer with
  | noCode rejected inside unknown =>
      rw [inside, Option.some.injEq] at payload
      exact unknown rejection (by rw [payload, Int32.toInt32_toUInt32])
  | discriminantOutside | payloadOutside | noCase | noHandle => simp_all

theorem NoAnswer.unique {first second : Fault} (noAnswer : NoAnswer left area first)
    (other : NoAnswer left area second) : first = second := by
  cases noAnswer <;> cases other <;> simp_all

theorem Answered.of_noAnswer {fault : Fault} (noAnswer : NoAnswer left area fault) :
    Answered left area (.error fault) left where
  accepted_iff reference :=
    ⟨nofun, fun accepted => (noAnswer.not_accepted reference accepted).elim⟩
  taken _ := nofun
  rejected_iff rejection :=
    ⟨nofun, fun rejected => (noAnswer.not_rejected rejection rejected).elim⟩
  refused_iff other := by
    constructor
    · rintro ⟨⟩
      exact noAnswer
    · intro otherwise
      rw [noAnswer.unique otherwise]
  kept _ := rfl

theorem Answered.of_rejected {rejection : Rejection}
    (discriminant : left.memory.word? area = some 1)
    (payload : left.memory.word? (area + 8) = some (ErrorCode.code rejection).toUInt32) :
    Answered left area (.ok (.error rejection)) left where
  accepted_iff reference := by simp [discriminant]
  taken _ := nofun
  rejected_iff other := by
    have sameWord : (ErrorCode.code rejection).toUInt32 = (ErrorCode.code other).toUInt32 ↔
        rejection = other :=
      ((Function.LeftInverse.injective fun _ => Int32.toInt32_toUInt32 _).comp
        ErrorCode.code_injective).eq_iff
    rw [payload, Option.some.injEq, sameWord, Except.ok.injEq, Except.error.injEq]
    exact ⟨fun same => ⟨discriminant, same⟩, And.right⟩
  refused_iff fault :=
    ⟨nofun, fun noAnswer => (noAnswer.not_rejected rejection ⟨discriminant, payload⟩).elim⟩
  kept _ := rfl

theorem Answered.of_accepted {handle : Word} {identity : Nat} {table : Slab Nat}
    (discriminant : left.memory.word? area = some 0)
    (payload : left.memory.word? (area + 8) = some handle)
    (taken : (left.registry eventKind).table.take handle = .ok (identity, table)) :
    Answered left area (.ok (.ok { kind := eventKind, identity }))
      (left.withTable eventKind table) where
  accepted_iff reference := by
    rw [payload, Except.ok.injEq, Except.ok.injEq, reference_eq_iff]
    simp [discriminant, (Slab.get?_of_take taken).1]
  taken := by
    rintro _ ⟨⟩
    exact ⟨handle, payload, Store.takes_of_take taken⟩
  rejected_iff rejection := by simp [discriminant]
  refused_iff fault :=
    ⟨nofun, fun noAnswer => (noAnswer.not_accepted { kind := eventKind, identity }
      ⟨discriminant, handle, payload, (Slab.get?_of_take taken).1⟩).elim⟩
  kept otherwise := (otherwise _ rfl).elim

end

variable (session : Session)

/-- Reading an answer looks at the two words, and takes at most the one reference they name. -/
theorem answered_intoResult (left : EventStore) (area : Word) :
    let reading := (do
      let raw ← session.guestMemory.examine (RawVariant.load · area returnAreaOffset)
      raw.intoResult (Store.unpark eventKind) :
        Attempt EventStore (Except Rejection EventReference)).on left
    Answered left area reading.1 reading.2 := by
  intro reading
  have loaded := RawVariant.load_eq left.memory area 8
  have read : reading = _ := Work.on_bind _ _ left
  rw [GuestMemory.examine, Attempt.on_examine,
    show RawVariant.load (session.guestMemory.bytes left) area returnAreaOffset = _ from loaded]
    at read
  rw [read]
  cases first : left.memory.word? area with
  | none => exact .of_noAnswer (.discriminantOutside first)
  | some discriminant =>
  cases second : left.memory.word? (area + 8) with
  | none => exact .of_noAnswer (.payloadOutside first second)
  | some payload =>
  dsimp only
  rw [RawVariant.on_intoResult]
  by_cases accepted : discriminant = 0
  · subst accepted
    rw [if_pos rfl]
    cases taken : (left.registry eventKind).table.take payload with
    | ok entry =>
        obtain ⟨identity, table⟩ := entry
        rw [Store.on_unpark_of_take taken]
        exact .of_accepted first second taken
    | error fault =>
        rw [Store.on_unpark_of_fault taken, Slab.fault_of_take taken]
        exact .of_noAnswer (.noHandle first second (Slab.get?_of_fault taken))
  · rw [if_neg accepted]
    by_cases rejected : discriminant = 1
    · subst rejected
      rw [if_pos rfl, errorOfCode]
      cases known : (ErrorCode.ofCode? payload.toInt32 : Option Rejection) with
      | some rejection =>
          have code := (LawfulErrorCode.ofCode?_eq_some_iff _ _).mp known
          exact .of_rejected first (by rw [second, code, UInt32.toUInt32_toInt32])
      | none =>
          refine .of_noAnswer (.noCode first second fun rejection same => ?_)
          rw [(LawfulErrorCode.ofCode?_eq_some_iff _ _).mpr same] at known
          cases known
    · rw [if_neg rejected]
      exact .of_noAnswer (.noCase first second accepted rejected)

theorem granted_unpark (left : EventStore) (handle : Word) :
    Granted left handle ((Store.unpark eventKind handle).on left).1
      ((Store.unpark eventKind handle).on left).2 := by
  cases taken : (left.registry eventKind).table.take handle with
  | ok entry =>
      obtain ⟨identity, table⟩ := entry
      have occupied := (Slab.get?_of_take taken).1
      rw [Store.on_unpark_of_take taken]
      exact {
        granted_iff := fun reference => by
          rw [Except.ok.injEq, reference_eq_iff, occupied, Option.some.injEq]
        taken := by
          rintro _ ⟨⟩
          exact Store.takes_of_take taken
        refused_iff := fun fault => by simp [occupied]
        kept := fun otherwise => (otherwise _ rfl).elim }
  | error fault =>
      have free := Slab.get?_of_fault taken
      rw [Store.on_unpark_of_fault taken]
      exact {
        granted_iff := fun reference => by simp [free]
        taken := nofun
        refused_iff := fun other => by
          rw [Except.error.injEq, Slab.fault_of_take taken, and_iff_left free]
          exact eq_comm
        kept := fun _ => rfl }

/-- Handling an event parks one new reference to it and calls the handler with its handle; then
the answer is read where the guest left it. Making an event calls the constructor, and the handle
that it returned is read. A call that fails fails the whole, with what the guest left. -/
theorem Session.handle_create_exact (event : EventReference) (store : EventStore) :
    (∃ parked, store.Parks event (store.nextSlot event) parked ∧
      match (session.running.call session.contract.handler
        [UInt32.ofNat (store.nextSlot event)]).on parked with
      | (.ok area, left) => Answered left area
          ((session.handle event).on store).1 ((session.handle event).on store).2
      | (.error fault, left) => (session.handle event).on store = (.error fault, left)) ∧
    match (session.running.call session.contract.create []).on store with
    | (.ok handle, left) =>
        Granted left handle (session.create.on store).1 (session.create.on store).2
    | (.error fault, left) => session.create.on store = (.error fault, left) := by
  constructor
  case left =>
    refine ⟨_, store.parks_place_count event, ?_⟩
    have handled : (session.handle event).on store = _ := Work.on_bind _ _ store
    rw [Store.on_lower] at handled
    dsimp only at handled
    rw [Work.on_bind] at handled
    rw [handled]
    rcases (session.running.call session.contract.handler
      [UInt32.ofNat (store.nextSlot event)]).on _ with ⟨fault | area, left⟩
    · rfl
    · exact answered_intoResult session left area
  case right =>
    have created : session.create.on store = _ := Work.on_bind _ _ store
    rw [created]
    rcases (session.running.call session.contract.create []).on store with ⟨fault | handle, left⟩
    · rfl
    · exact granted_unpark left handle

end Event

end GuestBoundary
