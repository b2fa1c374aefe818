import Mathlib.Logic.Basic
import GuestBoundary.Codec
import GuestBoundary.Event.Session
import GuestBoundary.Proofs.Codec.Lowering
import GuestBoundary.Proofs.Memory.Words

/-!
# Variants of two cases

A variant is read off two words of memory. Either they say that the variant is in one of its two
cases, with a payload, or one of them is missing or the first is of no case, and there is a fault
that says so. Results and options are the two ways to go on from there: one of the cases has its
payload lifted, and the other one has an error code or nothing for a payload.
-/

namespace GuestBoundary

theorem ErrorCode.code_injective {ε : Type} [ErrorCode ε] [LawfulErrorCode ε] :
    Function.Injective (ErrorCode.code : ε → Int32) := by
  intro first second same
  have read := (LawfulErrorCode.ofCode?_eq_some_iff _ first).mpr rfl
  rw [same, (LawfulErrorCode.ofCode?_eq_some_iff _ second).mpr rfl] at read
  exact (Option.some.inj read).symm

/-- A code is that of a member, or of none and refused. -/
theorem errorOfCode_cases (ε : Type) [ErrorCode ε] [LawfulErrorCode ε] (code : Int32) :
    (∃ failure : ε, ErrorCode.code failure = code ∧ errorOfCode ε code = .ok failure) ∨
      (∀ failure : ε, ErrorCode.code failure ≠ code) ∧
        errorOfCode ε code = .error (.invalidDiscriminant (ErrorCode.name ε) code) := by
  rw [errorOfCode]
  cases read : (ErrorCode.ofCode? code : Option ε) with
  | some failure => exact .inl ⟨failure, (LawfulErrorCode.ofCode?_eq_some_iff _ _).mp read, rfl⟩
  | none =>
      refine .inr ⟨fun failure same => ?_, rfl⟩
      rw [(LawfulErrorCode.ofCode?_eq_some_iff _ _).mpr same] at read
      exact nomatch read

/-- The two words of a variant are in memory. -/
structure Bytes.HasVariant (memory : Bytes) (address offset discriminant payload : Word) :
    Prop where
  discriminant : memory.word? address = some discriminant
  payload : memory.word? (address + offset) = some payload

namespace RawVariant

theorem load_eq (memory : Bytes) (address offset : Word) :
    load memory address offset =
      match memory.word? address, memory.word? (address + offset) with
      | some discriminant, some payload => .ok ⟨discriminant.toInt32, payload⟩
      | none, _ => .error (.outOfBounds address 4 memory.size)
      | _, none => .error (.outOfBounds (address + offset) 4 memory.size) := by
  rw [load, Bytes.load_signed, Bytes.load_word, UInt32.add_zero]
  cases memory.word? address <;> cases memory.word? (address + offset) <;> rfl

/-- Of two cases, the discriminants 0 and 1 are the only ones. -/
theorem case_two (type : String) (discriminant payload : Word) :
    case ⟨discriminant.toInt32, payload⟩ type 2 =
      if discriminant = 0 ∨ discriminant = 1 then .ok discriminant
      else .error (.invalidDiscriminant type discriminant.toInt32) := by
  have isCase (word : Word) : discriminant = word ↔
      discriminant.toInt32.toInt = word.toInt32.toInt := by
    rw [Int32.toInt_inj]
    exact ⟨congrArg _, fun same => by simpa using congrArg Int32.toUInt32 same⟩
  have zero : (0 : Word).toInt32.toInt = 0 := by decide
  have one : (1 : Word).toInt32.toInt = 1 := by decide
  have cases_iff : (0 ≤ discriminant.toInt32.toInt ∧ discriminant.toInt32.toInt < 2) ↔
      discriminant = 0 ∨ discriminant = 1 := by
    rw [isCase 0, isCase 1, zero, one]
    omega
  exact if_congr cases_iff (congrArg Except.ok discriminant.toUInt32_toInt32) rfl

section

variable {σ α β ε : Type}

/-- Goes on with the payload as its case says. -/
def choose (raw : RawVariant) (type : String) (first second : Word → Attempt σ β) :
    Attempt σ β := do
  match ← .ofExcept (raw.case type 2) with
  | 0 => first raw.payload
  | _ => second raw.payload

theorem intoResult_eq_choose [ErrorCode ε] (raw : RawVariant) (lift : Word → Attempt σ α) :
    (raw.intoResult lift : Attempt σ (Except ε α)) =
      raw.choose "result" (fun payload => do return .ok (← lift payload))
        (fun payload => do return .error (← .ofExcept (errorOfCode ε payload.toInt32))) := rfl

theorem on_choose (type : String) (first second : Word → Attempt σ β)
    (discriminant payload : Word) (state : σ) :
    (choose ⟨discriminant.toInt32, payload⟩ type first second).on state =
      if discriminant = 0 then (first payload).on state
      else if discriminant = 1 then (second payload).on state
      else (.error (.invalidDiscriminant type discriminant.toInt32), state) := by
  rw [choose, Work.on_bind, case_two, Attempt.on_ofExcept]
  by_cases zero : discriminant = 0
  · subst zero
    rfl
  · rw [if_neg zero]
    by_cases one : discriminant = 1
    · subst one
      rfl
    · rw [if_neg (not_or.mpr ⟨zero, one⟩), if_neg one]

theorem on_bind_return (work : Attempt σ α) (wrap : α → β) (state : σ) :
    (do return wrap (← work) : Attempt σ β).on state =
      ((work.on state).1.map wrap, (work.on state).2) := by
  rw [Work.on_bind]
  rcases work.on state with ⟨_ | _, _⟩ <;> rfl

/-- A result is lifted in case 0, a code in case 1, and nothing in any other. -/
theorem on_intoResult [ErrorCode ε] (lift : Word → Attempt σ α)
    (discriminant payload : Word) (state : σ) :
    (intoResult ⟨discriminant.toInt32, payload⟩ lift : Attempt σ (Except ε α)).on state =
      if discriminant = 0 then
        (((lift payload).on state).1.map .ok, ((lift payload).on state).2)
      else if discriminant = 1 then
        ((errorOfCode ε payload.toInt32).map .error, state)
      else (.error (.invalidDiscriminant "result" discriminant.toInt32), state) := by
  rw [intoResult_eq_choose, on_choose, on_bind_return, on_bind_return,
    Attempt.on_ofExcept]

end

end RawVariant

/-! ### What is in memory -/

namespace Bytes

/-- The words at an address are no variant of two cases, with the fault that says so. -/
inductive NoVariant (memory : Bytes) (type : String) (address offset : Word) : Fault → Prop where
  | discriminantOutside (outside : memory.word? address = none) :
      NoVariant memory type address offset (.outOfBounds address 4 memory.size)
  | payloadOutside {discriminant : Word} (inside : memory.word? address = some discriminant)
      (outside : memory.word? (address + offset) = none) :
      NoVariant memory type address offset (.outOfBounds (address + offset) 4 memory.size)
  | noCase {discriminant payload : Word}
      (there : memory.HasVariant address offset discriminant payload)
      (notFirst : discriminant ≠ 0) (notSecond : discriminant ≠ 1) :
      NoVariant memory type address offset (.invalidDiscriminant type discriminant.toInt32)

section

variable {memory : Bytes} {type : String} {address offset : Word}

theorem variant_cases (memory : Bytes) (type : String) (address offset : Word) :
    (∃ fault, memory.NoVariant type address offset fault) ∨
      (∃ payload, memory.HasVariant address offset 0 payload) ∨
        ∃ payload, memory.HasVariant address offset 1 payload := by
  cases first : memory.word? address with
  | none => exact .inl ⟨_, .discriminantOutside first⟩
  | some discriminant =>
  cases second : memory.word? (address + offset) with
  | none => exact .inl ⟨_, .payloadOutside first second⟩
  | some payload =>
  by_cases zero : discriminant = 0
  · exact .inr (.inl ⟨payload, zero ▸ first, second⟩)
  by_cases one : discriminant = 1
  · exact .inr (.inr ⟨payload, one ▸ first, second⟩)
  exact .inl ⟨_, .noCase ⟨first, second⟩ zero one⟩

theorem HasVariant.unique {discriminant payload otherDiscriminant otherPayload : Word}
    (there : memory.HasVariant address offset discriminant payload)
    (other : memory.HasVariant address offset otherDiscriminant otherPayload) :
    discriminant = otherDiscriminant ∧ payload = otherPayload :=
  ⟨Option.some.inj (there.discriminant.symm.trans other.discriminant),
    Option.some.inj (there.payload.symm.trans other.payload)⟩

theorem HasVariant.not_noVariant {discriminant payload : Word} {fault : Fault}
    (there : memory.HasVariant address offset discriminant payload)
    (isCase : discriminant = 0 ∨ discriminant = 1) :
    ¬ memory.NoVariant type address offset fault := by
  intro none
  cases none with
  | discriminantOutside outside => exact nomatch there.discriminant.symm.trans outside
  | payloadOutside inside outside => exact nomatch there.payload.symm.trans outside
  | noCase other notFirst notSecond =>
      obtain ⟨rfl, -⟩ := there.unique other
      exact isCase.elim notFirst notSecond

theorem NoVariant.unique {fault other : Fault}
    (none : memory.NoVariant type address offset fault)
    (otherwise : memory.NoVariant type address offset other) : fault = other := by
  cases none with
  | discriminantOutside outside =>
      cases otherwise with
      | discriminantOutside => rfl
      | payloadOutside inside => exact nomatch outside.symm.trans inside
      | noCase there => exact nomatch outside.symm.trans there.discriminant
  | payloadOutside inside outside =>
      cases otherwise with
      | discriminantOutside missing => exact nomatch inside.symm.trans missing
      | payloadOutside => rfl
      | noCase there => exact nomatch outside.symm.trans there.payload
  | noCase there =>
      cases otherwise with
      | discriminantOutside missing => exact nomatch there.discriminant.symm.trans missing
      | payloadOutside _ missing => exact nomatch there.payload.symm.trans missing
      | noCase other => rw [(there.unique other).1]

end

/-! ### Decoding -/

section

variable {σ α β ε : Type} (memory : Bytes) (address offset : Word) (lift : Word → Attempt σ α)
  (state : σ)

/-- Reads a variant off memory and goes on as its case says. -/
def choose (type : String) (first second : Word → Attempt σ β) : Attempt σ β := do
  (← .ofExcept (RawVariant.load memory address offset)).choose type first second

variable (ε) in
/-- Reads a result off memory. -/
def liftResult [ErrorCode ε] : Attempt σ (Except ε α) := do
  (← .ofExcept (RawVariant.load memory address offset)).intoResult lift

/-- Reads an option off memory. -/
def liftOption : Attempt σ (Option α) := do
  (← .ofExcept (RawVariant.load memory address offset)).intoOption lift

/-- In one case, the payload is lifted with this outcome. -/
def Lifts (lifted : Word) (outcome : Except Fault α) : Prop :=
  ∃ payload, memory.HasVariant address offset lifted payload ∧
    ((lift payload).on state).1 = outcome

/-- The payload is lifted once and in one case only, and nothing else changes the state. -/
inductive LiftsOnce (lifted : Word) : σ → List Word → Prop where
  | lifted {payload : Word} (there : memory.HasVariant address offset lifted payload) :
      LiftsOnce lifted ((lift payload).on state).2 [payload]
  | otherwise (none : ∀ payload, ¬ memory.HasVariant address offset lifted payload) :
      LiftsOnce lifted state []

/-- The failure case is there, with a code that no member of the enumeration has. -/
inductive NoCode (ε : Type) [ErrorCode ε] : Fault → Prop where
  | unknown {code : Word} (there : memory.HasVariant address offset 1 code)
      (unknown : ∀ failure : ε, ErrorCode.code failure ≠ code.toInt32) :
      NoCode ε (.invalidDiscriminant (ErrorCode.name ε) code.toInt32)

/-- What reading a result comes to, with the payloads that were lifted for it. -/
structure ResultRead [ErrorCode ε] (outcome : Except Fault (Except ε α)) (final : σ)
    (payloads : List Word) : Prop where
  success_iff (value : α) :
    outcome = .ok (.ok value) ↔ memory.Lifts address offset lift state 0 (.ok value)
  failure_iff (failure : ε) :
    outcome = .ok (.error failure) ↔
      memory.HasVariant address offset 1 (ErrorCode.code failure).toUInt32
  refused_iff (fault : Fault) :
    outcome = .error fault ↔
      memory.NoVariant "result" address offset fault ∨ memory.NoCode address offset ε fault ∨
        memory.Lifts address offset lift state 0 (.error fault)
  once : memory.LiftsOnce address offset lift state 0 final payloads

/-- What reading an option comes to, with the payloads that were lifted for it. -/
structure OptionRead (outcome : Except Fault (Option α)) (final : σ) (payloads : List Word) :
    Prop where
  none_iff : outcome = .ok none ↔ ∃ payload, memory.HasVariant address offset 0 payload
  some_iff (value : α) :
    outcome = .ok (some value) ↔ memory.Lifts address offset lift state 1 (.ok value)
  refused_iff (fault : Fault) :
    outcome = .error fault ↔
      memory.NoVariant "option" address offset fault ∨
        memory.Lifts address offset lift state 1 (.error fault)
  once : memory.LiftsOnce address offset lift state 1 final payloads

end

/-! ### One case at a time -/

section

variable {σ α β ε : Type} {memory : Bytes} {address offset : Word}

theorem on_choose {type : String} {discriminant payload : Word}
    (there : memory.HasVariant address offset discriminant payload)
    (first second : Word → Attempt σ β) (state : σ) :
    (memory.choose address offset type first second).on state =
      (RawVariant.choose ⟨discriminant.toInt32, payload⟩ type first second).on state := by
  rw [choose, Work.on_bind, Attempt.on_ofExcept, RawVariant.load_eq, there.discriminant,
    there.payload]

theorem on_choose_of_noVariant {type : String} {fault : Fault}
    (none : memory.NoVariant type address offset fault) (first second : Word → Attempt σ β)
    (state : σ) :
    (memory.choose address offset type first second).on state = (.error fault, state) := by
  cases none with
  | noCase there notFirst notSecond =>
      rw [on_choose there, RawVariant.on_choose, if_neg notFirst, if_neg notSecond]
  | discriminantOutside outside =>
      rw [choose, Work.on_bind, Attempt.on_ofExcept, RawVariant.load_eq, outside]
  | payloadOutside inside outside =>
      rw [choose, Work.on_bind, Attempt.on_ofExcept, RawVariant.load_eq, inside, outside]

variable (lift : Word → Attempt σ α) (state : σ)

section

variable [ErrorCode ε]

theorem liftResult_eq :
    memory.liftResult ε address offset lift =
      memory.choose address offset "result" (fun payload => do return .ok (← lift payload))
        (fun payload => do return .error (← .ofExcept (errorOfCode ε payload.toInt32))) := rfl

theorem on_liftResult_of_noVariant {fault : Fault}
    (none : memory.NoVariant "result" address offset fault) :
    (memory.liftResult ε address offset lift).on state = (.error fault, state) := by
  rw [liftResult_eq, on_choose_of_noVariant none]

theorem on_liftResult_of_success {payload : Word}
    (there : memory.HasVariant address offset 0 payload) :
    (memory.liftResult ε address offset lift).on state =
      (((lift payload).on state).1.map .ok, ((lift payload).on state).2) := by
  rw [liftResult_eq, on_choose there, RawVariant.on_choose, if_pos rfl,
    RawVariant.on_bind_return]

theorem on_liftResult_of_failure {code : Word}
    (there : memory.HasVariant address offset 1 code) :
    (memory.liftResult ε address offset lift).on state =
      ((errorOfCode ε code.toInt32).map .error, state) := by
  rw [liftResult_eq, on_choose there, RawVariant.on_choose, if_neg (by decide), if_pos rfl,
    RawVariant.on_bind_return, Attempt.on_ofExcept]

end

theorem liftOption_eq :
    memory.liftOption address offset lift =
      memory.choose address offset "option" (fun _ => return none)
        (fun payload => do return some (← lift payload)) := rfl

theorem on_liftOption_of_noVariant {fault : Fault}
    (none : memory.NoVariant "option" address offset fault) :
    (memory.liftOption address offset lift).on state = (.error fault, state) := by
  rw [liftOption_eq, on_choose_of_noVariant none]

theorem on_liftOption_of_none {payload : Word}
    (there : memory.HasVariant address offset 0 payload) :
    (memory.liftOption address offset lift).on state = (.ok none, state) := by
  rw [liftOption_eq, on_choose there, RawVariant.on_choose, if_pos rfl, Work.on_pure]

theorem on_liftOption_of_some {payload : Word}
    (there : memory.HasVariant address offset 1 payload) :
    (memory.liftOption address offset lift).on state =
      (((lift payload).on state).1.map some, ((lift payload).on state).2) := by
  rw [liftOption_eq, on_choose there, RawVariant.on_choose, if_neg (by decide), if_pos rfl,
    RawVariant.on_bind_return]

variable {lift : Word → Attempt σ α} {state : σ}

theorem HasVariant.lifts_iff {lifted payload : Word} {outcome : Except Fault α}
    (there : memory.HasVariant address offset lifted payload) :
    memory.Lifts address offset lift state lifted outcome ↔
      ((lift payload).on state).1 = outcome := by
  constructor
  · rintro ⟨other, too, ended⟩
    rwa [(there.unique too).2]
  · exact fun ended => ⟨payload, there, ended⟩

theorem HasVariant.not_other {discriminant other payload : Word}
    (there : memory.HasVariant address offset discriminant payload)
    (different : discriminant ≠ other) (otherPayload : Word) :
    ¬ memory.HasVariant address offset other otherPayload :=
  fun too => different (there.unique too).1

theorem HasVariant.not_lifts {discriminant lifted payload : Word}
    (there : memory.HasVariant address offset discriminant payload)
    (different : discriminant ≠ lifted) (outcome : Except Fault α) :
    ¬ memory.Lifts address offset lift state lifted outcome :=
  fun ⟨other, too, _⟩ => there.not_other different other too

theorem NoVariant.not_hasVariant {type : String} {fault : Fault} {lifted : Word}
    (none : memory.NoVariant type address offset fault) (isCase : lifted = 0 ∨ lifted = 1)
    (payload : Word) : ¬ memory.HasVariant address offset lifted payload :=
  fun there => there.not_noVariant isCase none

theorem NoVariant.not_lifts {type : String} {fault : Fault} {lifted : Word}
    (none : memory.NoVariant type address offset fault) (isCase : lifted = 0 ∨ lifted = 1)
    (outcome : Except Fault α) : ¬ memory.Lifts address offset lift state lifted outcome :=
  fun ⟨payload, there, _⟩ => none.not_hasVariant isCase payload there

theorem NoVariant.refused_iff {type : String} {fault other : Fault}
    (none : memory.NoVariant type address offset fault) :
    (.error fault : Except Fault β) = .error other ↔
      memory.NoVariant type address offset other := by
  rw [Except.error.injEq]
  exact ⟨fun same => same ▸ none, none.unique⟩

section

variable [ErrorCode ε]

theorem ResultRead.of_noVariant {fault : Fault}
    (none : memory.NoVariant "result" address offset fault) :
    memory.ResultRead address offset lift state (.error fault : Except Fault (Except ε α))
      state [] where
  success_iff value := iff_of_false nofun (none.not_lifts (.inl rfl) _)
  failure_iff failure := iff_of_false nofun (none.not_hasVariant (.inr rfl) _)
  refused_iff other := by
    have known : ¬ memory.NoCode address offset ε other :=
      fun ⟨there, _⟩ => none.not_hasVariant (.inr rfl) _ there
    rw [none.refused_iff, iff_false_intro known,
      iff_false_intro (none.not_lifts (.inl rfl) _), or_false, or_false]
  once := .otherwise (none.not_hasVariant (.inl rfl))

theorem ResultRead.of_success {payload : Word}
    (there : memory.HasVariant address offset 0 payload) :
    memory.ResultRead address offset lift state
      (((lift payload).on state).1.map (.ok : α → Except ε α))
      ((lift payload).on state).2 [payload] where
  success_iff value := by
    rw [there.lifts_iff]
    cases ((lift payload).on state).1 <;> simp [Except.map]
  failure_iff failure := by
    refine iff_of_false ?_ (there.not_other (by decide) _)
    cases ((lift payload).on state).1 <;> simp [Except.map]
  refused_iff fault := by
    have known : ¬ memory.NoCode address offset ε fault :=
      fun ⟨other, _⟩ => there.not_other (by decide) _ other
    rw [there.lifts_iff, iff_false_intro (there.not_noVariant (.inl rfl)), iff_false_intro known,
      false_or, false_or]
    cases ((lift payload).on state).1 <;> simp [Except.map]
  once := .lifted there

theorem ResultRead.of_failure [LawfulErrorCode ε] {failure : ε} {code : Word}
    (there : memory.HasVariant address offset 1 code)
    (known : ErrorCode.code failure = code.toInt32) :
    memory.ResultRead address offset lift state (.ok (.error failure)) state [] where
  success_iff value := iff_of_false nofun (there.not_lifts (by decide) _)
  failure_iff other := by
    rw [Except.ok.injEq, Except.error.injEq, ← ErrorCode.code_injective.eq_iff, known]
    constructor
    · intro same
      rwa [← same, UInt32.toUInt32_toInt32]
    · intro too
      rw [(there.unique too).2, Int32.toInt32_toUInt32]
  refused_iff fault := by
    refine iff_of_false nofun ?_
    rintro (none | ⟨other, unknown⟩ | lifted)
    · exact there.not_noVariant (.inr rfl) none
    · rw [(there.unique other).2] at known
      exact unknown failure known
    · exact there.not_lifts (by decide) _ lifted
  once := .otherwise (there.not_other (by decide))

theorem ResultRead.of_unknown {code : Word} (there : memory.HasVariant address offset 1 code)
    (unknown : ∀ failure : ε, ErrorCode.code failure ≠ code.toInt32) :
    memory.ResultRead address offset lift state
      (.error (.invalidDiscriminant (ErrorCode.name ε) code.toInt32) :
        Except Fault (Except ε α)) state [] where
  success_iff value := iff_of_false nofun (there.not_lifts (by decide) _)
  failure_iff failure := by
    refine iff_of_false nofun fun too => unknown failure ?_
    rw [(there.unique too).2, Int32.toInt32_toUInt32]
  refused_iff fault := by
    rw [iff_false_intro (there.not_noVariant (.inr rfl)),
      iff_false_intro (there.not_lifts (by decide) _), false_or, or_false, Except.error.injEq]
    constructor
    · rintro rfl
      exact .unknown there unknown
    · rintro ⟨other, _⟩
      rw [(there.unique other).2]
  once := .otherwise (there.not_other (by decide))

end

theorem OptionRead.of_noVariant {fault : Fault}
    (none : memory.NoVariant "option" address offset fault) :
    memory.OptionRead address offset lift state (.error fault) state [] where
  none_iff := iff_of_false nofun fun ⟨payload, there⟩ =>
    none.not_hasVariant (.inl rfl) payload there
  some_iff value := iff_of_false nofun (none.not_lifts (.inr rfl) _)
  refused_iff other := by
    rw [none.refused_iff, iff_false_intro (none.not_lifts (.inr rfl) _), or_false]
  once := .otherwise (none.not_hasVariant (.inr rfl))

theorem OptionRead.of_none {payload : Word}
    (there : memory.HasVariant address offset 0 payload) :
    memory.OptionRead address offset lift state (.ok none) state [] where
  none_iff := iff_of_true rfl ⟨payload, there⟩
  some_iff value := iff_of_false nofun (there.not_lifts (by decide) _)
  refused_iff fault := iff_of_false nofun
    (not_or.mpr ⟨there.not_noVariant (.inl rfl), there.not_lifts (by decide) _⟩)
  once := .otherwise (there.not_other (by decide))

theorem OptionRead.of_some {payload : Word}
    (there : memory.HasVariant address offset 1 payload) :
    memory.OptionRead address offset lift state (((lift payload).on state).1.map some)
      ((lift payload).on state).2 [payload] where
  none_iff := by
    refine iff_of_false ?_ fun ⟨other, too⟩ => there.not_other (by decide) other too
    cases ((lift payload).on state).1 <;> simp [Except.map]
  some_iff value := by
    rw [there.lifts_iff]
    cases ((lift payload).on state).1 <;> simp [Except.map]
  refused_iff fault := by
    rw [there.lifts_iff, iff_false_intro (there.not_noVariant (.inr rfl)), false_or]
    cases ((lift payload).on state).1 <;> simp [Except.map]
  once := .lifted there

end

/-! ### All cases -/

section

variable {σ α ε : Type}

/-- The same lifting with a record of the payloads it is given. -/
def recordingLift (lift : Word → Attempt σ α) (payload : Word) : Attempt (σ × List Word) α := do
  modify fun (state, payloads) => (state, payloads ++ [payload])
  (lift payload).beside

theorem on_recordingLift (lift : Word → Attempt σ α) (payload : Word) (state : σ)
    (earlier : List Word) :
    (recordingLift lift payload).on (state, earlier) =
      (((lift payload).on state).1, ((lift payload).on state).2, earlier ++ [payload]) := rfl

variable (memory : Bytes) (address offset : Word) (lift : Word → Attempt σ α) (state : σ)

/-- Reading a result with a record of what is lifted reads the same. -/
theorem resultRead_liftResult (ε : Type) [ErrorCode ε] [LawfulErrorCode ε] :
    ∃ payloads : List Word,
      let read := (memory.liftResult ε address offset lift).on state
      (∀ earlier, (memory.liftResult ε address offset (recordingLift lift)).on
        (state, earlier) = (read.1, read.2, earlier ++ payloads)) ∧
      memory.ResultRead address offset lift state read.1 read.2 payloads := by
  rcases memory.variant_cases "result" address offset with
    ⟨fault, none⟩ | ⟨payload, there⟩ | ⟨code, there⟩
  · refine ⟨[], ?_⟩
    simp only [on_liftResult_of_noVariant _ _ none, List.append_nil, implies_true, true_and]
    exact .of_noVariant none
  · refine ⟨[payload], ?_⟩
    simp only [on_liftResult_of_success _ _ there, on_recordingLift, implies_true, true_and]
    exact .of_success there
  · refine ⟨[], ?_⟩
    simp only [on_liftResult_of_failure _ _ there, List.append_nil, implies_true, true_and]
    rcases errorOfCode_cases ε code.toInt32 with ⟨failure, known, read⟩ | ⟨unknown, read⟩
    · rw [read]
      exact .of_failure there known
    · rw [read]
      exact .of_unknown there unknown

/-- Reading an option with a record of what is lifted reads the same. -/
theorem optionRead_liftOption :
    ∃ payloads : List Word,
      let read := (memory.liftOption address offset lift).on state
      (∀ earlier, (memory.liftOption address offset (recordingLift lift)).on (state, earlier) =
        (read.1, read.2, earlier ++ payloads)) ∧
      memory.OptionRead address offset lift state read.1 read.2 payloads := by
  rcases memory.variant_cases "option" address offset with
    ⟨fault, none⟩ | ⟨payload, there⟩ | ⟨payload, there⟩
  · refine ⟨[], ?_⟩
    simp only [on_liftOption_of_noVariant _ _ none, List.append_nil, implies_true, true_and]
    exact .of_noVariant none
  · refine ⟨[], ?_⟩
    simp only [on_liftOption_of_none _ _ there, List.append_nil, implies_true, true_and]
    exact .of_none there
  · refine ⟨[payload], ?_⟩
    simp only [on_liftOption_of_some _ _ there, on_recordingLift, implies_true, true_and]
    exact .of_some there

end

end Bytes

/-! ### Encoding -/

namespace RawVariant

variable {σ α ε : Type}

/-- The variant of a result whose success has this payload. -/
def ofResult [ErrorCode ε] : Except ε Word → RawVariant
  | .ok payload => ⟨0, payload⟩
  | .error failure => ⟨1, (ErrorCode.code failure).toUInt32⟩

/-- The variant of an option; the payload of `none` is not used. -/
def ofOption (unused : Word) : Option Word → RawVariant
  | none => ⟨0, unused⟩
  | some payload => ⟨1, payload⟩

section

variable (lift : Word → Attempt σ α) (state : σ)

/-- What reading a result comes to that was written. -/
def readBack : Except ε Word → Except Fault (Except ε α) × σ
  | .ok payload => (((lift payload).on state).1.map .ok, ((lift payload).on state).2)
  | .error failure => (.ok (.error failure), state)

/-- What reading an option comes to that was written. -/
def readBackOption : Option Word → Except Fault (Option α) × σ
  | none => (.ok none, state)
  | some payload => (((lift payload).on state).1.map some, ((lift payload).on state).2)

end

/-- Writes the two words of a variant. -/
def store (raw : RawVariant) (memory : Bytes) (address offset : Word) : Except Fault Bytes := do
  (← memory.store address 0 raw.discriminant).store address offset raw.payload

end RawVariant

namespace Bytes

/-- There is room for the two words of a variant. -/
structure Fits (memory : Bytes) (address offset : Word) : Prop where
  discriminant : address.toNat + 4 ≤ memory.size
  payload : (address + offset).toNat + 4 ≤ memory.size
  apart : address.toNat + 4 ≤ (address + offset).toNat ∨
    (address + offset).toNat + 4 ≤ address.toNat

/-- A variant was written, and no byte besides. -/
structure Stored (memory : Bytes) (address offset : Word) (raw : RawVariant) (stored : Bytes) :
    Prop where
  size : stored.size = memory.size
  same : ∀ index, index < address.toNat ∨ address.toNat + 4 ≤ index →
    index < (address + offset).toNat ∨ (address + offset).toNat + 4 ≤ index →
      stored[index]? = memory[index]?
  there : stored.HasVariant address offset raw.discriminant.toUInt32 raw.payload

variable {memory : Bytes} {address offset : Word}

theorem store_word (word : Word) (inside : (address + offset).toNat + 4 ≤ memory.size) :
    memory.store address offset word =
      .ok (memory.write (address + offset).toNat (Scalar.encode word)) := by
  rw [store_of_lt _ _ _ _ (show Scalar.size Word < UInt32.size by decide)]
  exact if_pos inside

theorem Fits.stored (fits : memory.Fits address offset) (raw : RawVariant) :
    ∃ stored, raw.store memory address offset = .ok stored ∧
      memory.Stored address offset raw stored := by
  obtain ⟨discriminant, payload⟩ := raw
  let first := memory.write address.toNat (Scalar.encode discriminant.toUInt32)
  let second := first.write (address + offset).toNat (Scalar.encode payload)
  have one : memory.store address 0 discriminant = .ok first := by
    have stored : memory.store address 0 discriminant.toUInt32 = _ := store_word _ <| by
      rw [UInt32.add_zero]
      exact fits.discriminant
    rwa [UInt32.add_zero] at stored
  have two : first.store address offset payload = .ok second :=
    store_word payload (by rw [size_write]; exact fits.payload)
  refine ⟨second, ?_, ?_⟩
  · rw [RawVariant.store, one]
    exact two
  · have kept : second.HasWord address.toNat discriminant.toUInt32 := by
      refine (hasWord_write discriminant.toUInt32 fits.discriminant).of_same (size_write _ _ _)
        fun index above below => byte_write_outside _ _ _ ?_
      rw [length_encode_word]
      have := fits.apart
      omega
    exact {
      size := by rw [size_write, size_write]
      same := fun index outsideFirst outsideSecond => by
        rw [getElem?_write, getElem?_write, length_encode_word, length_encode_word,
          if_neg (by omega), if_neg (by omega)]
      there := ⟨kept.word?, (hasWord_write payload (by
        rw [size_write]; exact fits.payload)).word?⟩ }

section

variable {σ α ε : Type} {stored : Bytes} (lift : Word → Attempt σ α) (state : σ)

theorem Stored.on_liftResult [ErrorCode ε] [LawfulErrorCode ε] {result : Except ε Word}
    (written : memory.Stored address offset (.ofResult result) stored) :
    (stored.liftResult ε address offset lift).on state =
      RawVariant.readBack lift state result := by
  cases result with
  | ok payload => exact on_liftResult_of_success lift state written.there
  | error failure =>
      have there : stored.HasVariant address offset 1 (ErrorCode.code failure).toUInt32 :=
        written.there
      rw [on_liftResult_of_failure lift state there, Int32.toInt32_toUInt32, errorOfCode,
        (LawfulErrorCode.ofCode?_eq_some_iff _ failure).mpr rfl]
      rfl

theorem Stored.on_liftOption {unused : Word} {option : Option Word}
    (written : memory.Stored address offset (.ofOption unused option) stored) :
    (stored.liftOption address offset lift).on state =
      RawVariant.readBackOption lift state option := by
  cases option with
  | none => exact on_liftOption_of_none lift state written.there
  | some payload => exact on_liftOption_of_some lift state written.there

end

/-- Decoding a result or an option accepts exactly what is encoded as one, lifts the payload of
one case only, and says of everything else what is wrong with it first. What is encoded where
there is room for it decodes to itself. -/
theorem variant_decoding_exact {σ α : Type} (ε : Type) [ErrorCode ε] [LawfulErrorCode ε]
    (memory : Bytes) (address offset : Word) (lift : Word → Attempt σ α) (state : σ) :
    (∃ payloads : List Word,
      let read := (memory.liftResult ε address offset lift).on state
      (∀ earlier, (memory.liftResult ε address offset (recordingLift lift)).on
        (state, earlier) = (read.1, read.2, earlier ++ payloads)) ∧
      memory.ResultRead address offset lift state read.1 read.2 payloads) ∧
    (∃ payloads : List Word,
      let read := (memory.liftOption address offset lift).on state
      (∀ earlier, (memory.liftOption address offset (recordingLift lift)).on (state, earlier) =
        (read.1, read.2, earlier ++ payloads)) ∧
      memory.OptionRead address offset lift state read.1 read.2 payloads) ∧
    (memory.Fits address offset →
      (∀ result : Except ε Word, ∃ stored,
        (RawVariant.ofResult result).store memory address offset = .ok stored ∧
        memory.Stored address offset (.ofResult result) stored ∧
        (stored.liftResult ε address offset lift).on state =
          RawVariant.readBack lift state result) ∧
      ∀ (unused : Word) (option : Option Word), ∃ stored,
        (RawVariant.ofOption unused option).store memory address offset = .ok stored ∧
        memory.Stored address offset (.ofOption unused option) stored ∧
        (stored.liftOption address offset lift).on state =
          RawVariant.readBackOption lift state option) := by
  refine ⟨memory.resultRead_liftResult address offset lift state ε,
    memory.optionRead_liftOption address offset lift state, fun fits => ⟨fun result => ?_,
      fun unused option => ?_⟩⟩
  · obtain ⟨stored, ran, written⟩ := fits.stored (.ofResult result)
    exact ⟨stored, ran, written, written.on_liftResult lift state⟩
  · obtain ⟨stored, ran, written⟩ := fits.stored (.ofOption unused option)
    exact ⟨stored, ran, written, written.on_liftOption lift state⟩

/-- In a memory of 16 bytes, a rejection is written at address 0 and read back; before, there was
a success with the payload 0. -/
theorem rejection_decoding_exact :
    (Bytes.zeros 16).Fits 0 8 ∧
    (∃ stored, (RawVariant.ofResult (.error Event.Rejection.error)).store (.zeros 16) 0 8 =
        .ok stored ∧
      ((stored.liftResult Event.Rejection 0 8 pure : Attempt Unit _).on ()).1 =
        .ok (.error .error)) ∧
    (((Bytes.zeros 16).liftResult Event.Rejection 0 8 pure : Attempt Unit _).on ()).1 =
      .ok (.ok 0) := by
  have fits : (Bytes.zeros 16).Fits 0 8 := by constructor <;> decide
  have empty : (Bytes.zeros 16).HasVariant 0 8 0 0 :=
    ⟨(hasWord_zeros fits.discriminant).word?, (hasWord_zeros fits.payload).word?⟩
  obtain ⟨⟨payloads, -, read⟩, -, encoded⟩ :=
    variant_decoding_exact Event.Rejection (.zeros 16) 0 8
      (pure : Word → Attempt Unit Word) ()
  obtain ⟨stored, ran, -, decoded⟩ := (encoded fits).1 (.error .error)
  exact ⟨fits, ⟨stored, ran, congrArg Prod.fst decoded⟩, (read.success_iff 0).mpr ⟨0, empty, rfl⟩⟩

end Bytes

end GuestBoundary
