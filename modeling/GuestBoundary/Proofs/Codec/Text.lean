import Mathlib.Algebra.Group.Nat.Defs
import GuestBoundary.Codec
import GuestBoundary.Proofs.Memory.Access
import GuestBoundary.Proofs.Utf8

/-!
# Text in guest memory

Inside a character the machine can always go on: whatever it has read so far is completed by the
smallest bytes it still admits. So the bytes on which it breaks begin no character at all, the
flaw lies exactly where the whole characters end, and the bytes counted as bad are as many as some
character begins with.
-/

namespace GuestBoundary

namespace Utf8

/-! ### Characters by their values -/

/-- The `count` last bytes of a character: six bits of its value each, the highest first. -/
def trail (value : Nat) : Nat → List UInt8
  | 0 => []
  | count + 1 => UInt8.ofNat (value / 64 ^ count % 64 + 0x80) :: trail value count

section

variable {value : Nat}

theorem toNat_val_ofNat (valid : value.isValidChar) : (Char.ofNat value).val.toNat = value := by
  rw [Char.ofNat, dif_pos valid]
  rfl

theorem bytes_of_one (small : value ≤ 0x7F) :
    String.utf8EncodeChar (Char.ofNat value) = [UInt8.ofNat value] := by
  simp only [String.utf8EncodeChar, toNat_val_ofNat (.inl (by omega : value < 0xD800)),
    if_pos small]

theorem bytes_of_two (large : 0x7F < value) (small : value ≤ 0x7FF) :
    String.utf8EncodeChar (Char.ofNat value) =
      UInt8.ofNat (value / 64 ^ 1 + 0xC0) :: trail value 1 := by
  have top : value / 64 % 32 = value / 64 ^ 1 := by omega
  simp only [String.utf8EncodeChar, toNat_val_ofNat (.inl (by omega : value < 0xD800)),
    if_neg (Nat.not_le.mpr large), if_pos small, trail, Nat.pow_zero, Nat.div_one, top]

theorem bytes_of_three (large : 0x7FF < value) (small : value ≤ 0xFFFF)
    (valid : value.isValidChar) :
    String.utf8EncodeChar (Char.ofNat value) =
      UInt8.ofNat (value / 64 ^ 2 + 0xE0) :: trail value 2 := by
  have top : value / 4096 % 16 = value / 64 ^ 2 := by omega
  simp only [String.utf8EncodeChar, toNat_val_ofNat valid,
    if_neg (by omega : ¬ value ≤ 0x7F), if_neg (Nat.not_le.mpr large), if_pos small, trail,
    Nat.pow_zero, Nat.pow_one, Nat.div_one, top]

theorem bytes_of_four (large : 0xFFFF < value) (small : value < 0x110000) :
    String.utf8EncodeChar (Char.ofNat value) =
      UInt8.ofNat (value / 64 ^ 3 + 0xF0) :: trail value 3 := by
  have top : value / 262144 % 8 = value / 64 ^ 3 := by omega
  simp only [String.utf8EncodeChar, toNat_val_ofNat (.inr ⟨by omega, small⟩),
    if_neg (by omega : ¬ value ≤ 0x7F), if_neg (by omega : ¬ value ≤ 0x7FF),
    if_neg (Nat.not_le.mpr large), trail, Nat.pow_zero, Nat.pow_one, Nat.div_one, top,
    Nat.reducePow]

end

/-! ### Inside a character -/

/-- Some character starts with these bytes. -/
def Begins (bytes : List UInt8) : Prop :=
  ∃ character, bytes <+: String.utf8EncodeChar character

/-- A pending character stands for the bytes `read`: every value with its bits and an admitted
next byte is a character that begins with them. -/
structure Pending.StandsFor (pending : Pending) (read : List UInt8) : Prop where
  read_eq : pending.read = read.length
  begun : 1 ≤ read.length
  short : read.length + pending.due ≤ 3
  continues : 0x80 ≤ pending.low.toNat
  ordered : pending.low.toNat ≤ pending.high.toNat
  stops : pending.high.toNat ≤ 0xBF
  completes : ∀ value, value / 64 ^ (pending.due + 1) = pending.bits →
    pending.low.toNat ≤ value / 64 ^ pending.due % 64 + 0x80 →
    value / 64 ^ pending.due % 64 + 0x80 ≤ pending.high.toNat →
    value.isValidChar ∧
      String.utf8EncodeChar (Char.ofNat value) = read ++ trail value (pending.due + 1)

section

variable {byte low high : UInt8} (bits : Nat)

theorem standsFor_of_two (lead : byte.toNat = bits + 0xC0) (least : 2 ≤ bits)
    (most : bits < 0x20) : Pending.StandsFor ⟨0x80, 0xBF, 0, bits, 1⟩ [byte] where
  read_eq := rfl
  begun := Nat.le_refl 1
  short := Nat.le_add_left 1 2
  continues := Nat.le_refl 0x80
  ordered := Nat.le_add_right 0x80 0x3F
  stops := Nat.le_refl 0xBF
  completes := by
    dsimp only
    rintro value rfl above below
    refine ⟨.inl (by omega), ?_⟩
    rw [bytes_of_two (by omega) (by omega), ← lead, UInt8.ofNat_toNat]
    rfl

theorem standsFor_of_three (lead : byte.toNat = bits + 0xE0) (most : bits < 0x10)
    (continues : 0x80 ≤ low.toNat) (ordered : low.toNat ≤ high.toNat)
    (stops : high.toNat ≤ 0xBF) (overlong : bits = 0 → 0xA0 ≤ low.toNat)
    (surrogate : bits = 0xD → high.toNat ≤ 0x9F) :
    Pending.StandsFor ⟨low, high, 1, bits, 1⟩ [byte] where
  read_eq := rfl
  begun := Nat.le_refl 1
  short := Nat.le_add_left 2 1
  continues := continues
  ordered := ordered
  stops := stops
  completes := by
    dsimp only
    rintro value rfl above below
    have valid : value.isValidChar := by
      simp only [Nat.isValidChar]
      omega
    refine ⟨valid, ?_⟩
    rw [bytes_of_three (by omega) (by omega) valid, ← lead, UInt8.ofNat_toNat]
    rfl

theorem standsFor_of_four (lead : byte.toNat = bits + 0xF0) (most : bits < 5)
    (continues : 0x80 ≤ low.toNat) (ordered : low.toNat ≤ high.toNat)
    (stops : high.toNat ≤ 0xBF) (overlong : bits = 0 → 0x90 ≤ low.toNat)
    (excess : bits = 4 → high.toNat ≤ 0x8F) :
    Pending.StandsFor ⟨low, high, 2, bits, 1⟩ [byte] where
  read_eq := rfl
  begun := Nat.le_refl 1
  short := Nat.le_refl 3
  continues := continues
  ordered := ordered
  stops := stops
  completes := by
    dsimp only
    rintro value rfl above below
    have small : value < 0x110000 := by omega
    have large : 0xFFFF < value := by omega
    refine ⟨.inr ⟨by omega, small⟩, ?_⟩
    rw [bytes_of_four large small, ← lead, UInt8.ofNat_toNat]
    rfl

end

/-- What a state says of the bytes of the character it is in. -/
def State.StandsFor : State → List UInt8 → Prop
  | none, read => read = []
  | some pending, read => pending.StandsFor read

/-- What an outcome says of the last byte and of the bytes `read` for the character before it. -/
def Outcome.Meets (read : List UInt8) (byte : UInt8) : Outcome → Prop
  | finished character => String.utf8EncodeChar character = read ++ [byte]
  | going pending => pending.StandsFor (read ++ [byte])
  | broken count => count = max 1 read.length ∧ count ≤ 3

theorem lead_meets (byte : UInt8) : (lead byte).Meets [] byte := by
  fun_cases lead byte <;>
    simp only [UInt8.le_iff_toNat_le, UInt8.lt_iff_toNat_lt, ← UInt8.toNat_inj,
      UInt8.reduceToNat] at *
  case case1 small =>
    refine (bytes_of_one small).trans ?_
    rw [UInt8.ofNat_toNat, List.nil_append]
  case case2 => exact ⟨rfl, by decide⟩
  case case3 => exact standsFor_of_two (byte.toNat - 0xC0) (by omega) (by omega) (by omega)
  case case4 byte_eq =>
    exact standsFor_of_three 0 byte_eq (by decide) (by decide) (by decide) (by decide)
      (fun _ => by decide) (by decide)
  case case5 byte_eq =>
    exact standsFor_of_three 0xD byte_eq (by decide) (by decide) (by decide) (by decide)
      (by decide) (fun _ => by decide)
  case case6 =>
    exact standsFor_of_three (byte.toNat - 0xE0) (by omega) (by omega) (by decide) (by decide)
      (by decide) (by omega) (by omega)
  case case7 byte_eq =>
    exact standsFor_of_four 0 byte_eq (by decide) (by decide) (by decide) (by decide)
      (fun _ => by decide) (by decide)
  case case8 =>
    exact standsFor_of_four (byte.toNat - 0xF0) (by omega) (by omega) (by decide) (by decide)
      (by decide) (by omega) (by omega)
  case case9 byte_eq =>
    exact standsFor_of_four 4 byte_eq (by decide) (by decide) (by decide) (by decide)
      (by decide) (fun _ => by decide)
  case case10 => exact ⟨rfl, by decide⟩

/-- A later byte carries the next six bits of every value that still begins with what was read. -/
theorem Pending.StandsFor.completes_next {pending : Pending} {read : List UInt8}
    (standing : pending.StandsFor read) {byte : UInt8} (above : pending.low ≤ byte)
    (below : byte ≤ pending.high) (value : Nat)
    (next : value / 64 ^ pending.due = 64 * pending.bits + (byte.toNat - 0x80)) :
    value.isValidChar ∧
      String.utf8EncodeChar (Char.ofNat value) = read ++ [byte] ++ trail value pending.due := by
  rw [UInt8.le_iff_toNat_le] at above below
  have continues := standing.continues
  have stops := standing.stops
  have digit : value / 64 ^ pending.due % 64 + 0x80 = byte.toNat := by omega
  have top : value / 64 ^ (pending.due + 1) = pending.bits := by
    rw [Nat.pow_succ, ← Nat.div_div_eq_div_mul]
    omega
  obtain ⟨valid, bytes⟩ := standing.completes value top (digit ▸ above) (digit ▸ below)
  refine ⟨valid, ?_⟩
  rw [bytes, trail, digit, UInt8.ofNat_toNat, List.append_assoc, List.singleton_append]

theorem Pending.StandsFor.step_meets {pending : Pending} {read : List UInt8}
    (standing : pending.StandsFor read) (byte : UInt8) : (pending.step byte).Meets read byte := by
  have read_eq := standing.read_eq
  have begun := standing.begun
  have short := standing.short
  by_cases outside : byte < pending.low ∨ pending.high < byte
  case pos =>
    rw [Pending.step, if_pos outside]
    exact ⟨by omega, by omega⟩
  case neg =>
    obtain ⟨above, below⟩ := not_or.mp outside
    have completes := standing.completes_next (UInt8.not_lt.mp above) (UInt8.not_lt.mp below)
    rw [Pending.step, if_neg outside]
    dsimp only
    split
    next due =>
      rw [due] at completes
      exact (completes _ (by rw [Nat.pow_zero, Nat.div_one])).2.trans (List.append_nil _)
    next due more =>
      rw [more] at completes short
      have longer : (read ++ [byte]).length = read.length + 1 := List.length_append
      exact {
        read_eq := (congrArg Nat.succ read_eq).trans longer.symm
        begun := longer ▸ Nat.le_add_left 1 _
        short := by dsimp only; omega
        continues := Nat.le_refl 0x80
        ordered := Nat.le_add_right 0x80 0x3F
        stops := Nat.le_refl 0xBF
        completes := fun value next _ _ => completes value next }

theorem State.StandsFor.step_meets {state : State} {read : List UInt8}
    (standing : state.StandsFor read) (byte : UInt8) : (step state byte).Meets read byte := by
  cases state with
  | none => exact standing ▸ lead_meets byte
  | some pending => exact Pending.StandsFor.step_meets standing byte

/-- A character in progress can always be finished: with the least next byte, then zeros. -/
theorem Pending.StandsFor.exists_completion {pending : Pending} {read : List UInt8}
    (standing : pending.StandsFor read) :
    ∃ character rest, String.utf8EncodeChar character = read ++ rest ∧ rest ≠ [] := by
  have continues := standing.continues
  have ordered := standing.ordered
  have stops := standing.stops
  have positive : 0 < 64 ^ pending.due := Nat.pow_pos (by decide)
  let least := (64 * pending.bits + (pending.low.toNat - 0x80)) * 64 ^ pending.due
  have top : least / 64 ^ pending.due = 64 * pending.bits + (pending.low.toNat - 0x80) :=
    Nat.mul_div_cancel _ positive
  have bits : least / 64 ^ (pending.due + 1) = pending.bits := by
    rw [Nat.pow_succ, ← Nat.div_div_eq_div_mul, top]
    omega
  exact ⟨Char.ofNat least, trail least (pending.due + 1),
    (standing.completes least bits (by omega) (by omega)).2, List.cons_ne_nil _ _⟩

/-! ### Characters side by side -/

theorem finished_starts_of_decodeFrom {finished : Array Char} {position : Nat} {state : State}
    {bytes : List UInt8} {text : List Char}
    (decoded : decodeFrom finished position state bytes = .ok text) : finished.toList <+: text := by
  induction bytes generalizing finished position state with
  | nil =>
      cases state with
      | none => exact Except.ok.inj decoded ▸ List.prefix_refl _
      | some pending => cases decoded
  | cons byte rest inductionHypothesis =>
      rw [decodeFrom] at decoded
      split at decoded
      next character _ =>
        have longer := inductionHypothesis decoded
        rw [Array.toList_push] at longer
        exact (List.prefix_append _ _).trans longer
      next => exact inductionHypothesis decoded
      next => cases decoded

/-- No character begins with another. -/
theorem eq_of_starts {character other : Char}
    (begins : String.utf8EncodeChar character <+: String.utf8EncodeChar other) :
    character = other := by
  obtain ⟨rest, split⟩ := begins
  have decoded := decode_encode [other]
  rw [encode, List.flatMap_singleton, ← split, decode, decodeFrom_character] at decoded
  exact List.mem_singleton.mp ((finished_starts_of_decodeFrom decoded).subset (by simp))

theorem State.StandsFor.noCharacter {state : State} {read : List UInt8}
    (standing : state.StandsFor read) (character : Char) :
    ¬ String.utf8EncodeChar character <+: read := by
  intro begins
  cases state with
  | none =>
      rw [show read = [] from standing, List.prefix_nil] at begins
      exact String.utf8EncodeChar_ne_nil begins
  | some pending =>
      obtain ⟨other, rest, bytes, more⟩ := Pending.StandsFor.exists_completion standing
      have same := eq_of_starts (begins.trans ⟨rest, bytes.symm⟩)
      have longer := begins.length_le
      rw [same, bytes, List.length_append] at longer
      exact more (List.length_eq_zero_iff.mp (by omega))

theorem State.StandsFor.begins {state : State} {read : List UInt8}
    (standing : state.StandsFor read) : Begins read := by
  cases state with
  | none => exact ⟨'a', (show read = [] from standing) ▸ List.nil_prefix⟩
  | some pending =>
      obtain ⟨character, rest, bytes, _⟩ := Pending.StandsFor.exists_completion standing
      exact ⟨character, rest, bytes.symm⟩

/-! ### Where decoding stops -/

/-- Bytes on which the machine stops before a character is whole, and how many of them are bad. -/
structure Stuck (bytes : List UInt8) (badLength : Option Nat) : Prop where
  noCharacter : ∀ character, ¬ String.utf8EncodeChar character <+: bytes
  incomplete_iff : badLength = none ↔
    ∃ character, bytes <+: String.utf8EncodeChar character ∧
      bytes ≠ String.utf8EncodeChar character
  /-- The bad bytes are the most that begin a character, and at least the first. -/
  bad : ∀ count, badLength = some count → count ≤ 3 ∧
    ∃ begun, begun <+: bytes ∧ Begins begun ∧ count = max 1 begun.length ∧
      ∀ longer, longer <+: bytes → Begins longer → longer.length ≤ begun.length

/-- A flaw of encoded bytes lies at the end of the longest start that is text. -/
structure Flaw.Locates (flaw : Flaw) (encoded : List UInt8) : Prop where
  whole : ∃ text, encode text <+: encoded ∧ (encode text).length = flaw.validUpTo
  longest : ∀ text, encode text <+: encoded → (encode text).length ≤ flaw.validUpTo
  stuck : Stuck (encoded.drop flaw.validUpTo) flaw.badLength

theorem stuck_of_pending {pending : Pending} {read : List UInt8}
    (standing : pending.StandsFor read) : Stuck read none where
  noCharacter := (show State.StandsFor (some pending) read from standing).noCharacter
  incomplete_iff := by
    obtain ⟨character, rest, bytes, more⟩ := standing.exists_completion
    refine ⟨fun _ => ⟨character, ⟨rest, bytes.symm⟩, fun same => more ?_⟩, fun _ => rfl⟩
    rwa [bytes, List.self_eq_append_right] at same
  bad := by
    intro count impossible
    cases impossible

/-- The state after the bytes `read` of a character, when it is reached from the start. -/
structure Reached (state : State) (read : List UInt8) : Prop where
  standing : state.StandsFor read
  arrives : ∀ finished position rest,
    decodeFrom finished position none (read ++ rest) = decodeFrom finished position state rest

theorem reached_none : Reached none [] where
  standing := rfl
  arrives _ _ _ := rfl

theorem Reached.step {state : State} {read : List UInt8} (reached : Reached state read)
    {byte : UInt8} {pending : Pending} (going : step state byte = .going pending) :
    Reached (some pending) (read ++ [byte]) where
  standing := by
    have meets := reached.standing.step_meets byte
    rwa [going] at meets
  arrives := by
    intro finished position rest
    rw [List.append_assoc, List.singleton_append, reached.arrives, decodeFrom, going]

theorem Reached.not_begins {state : State} {read : List UInt8} (reached : Reached state read)
    {byte : UInt8} {count : Nat} (broken : Utf8.step state byte = .broken count) :
    ¬ Begins (read ++ [byte]) := by
  rintro ⟨character, rest, bytes⟩
  have decoded := decode_encode [character]
  rw [encode, List.flatMap_singleton, ← bytes, List.append_assoc, List.singleton_append, decode,
    reached.arrives, decodeFrom, broken] at decoded
  cases decoded

theorem Begins.of_starts {bytes longer : List UInt8} (start : bytes <+: longer)
    (begins : Begins longer) : Begins bytes := by
  obtain ⟨character, further⟩ := begins
  exact ⟨character, start.trans further⟩

theorem Reached.stuck {state : State} {read : List UInt8} (reached : Reached state read)
    {byte : UInt8} {count : Nat} (broken : Utf8.step state byte = .broken count)
    (rest : List UInt8) : Stuck (read ++ byte :: rest) (some count) := by
  have most {begun : List UInt8} (start : begun <+: read ++ byte :: rest)
      (begins : Begins begun) : begun <+: read := by
    have further : read ++ [byte] <+: read ++ byte :: rest :=
      (List.prefix_append_right_inj read).mpr ⟨rest, rfl⟩
    rcases List.prefix_or_prefix_of_prefix start further with shorter | longer
    · rcases List.prefix_concat_iff.mp shorter with rfl | within
      · exact absurd begins (reached.not_begins broken)
      · exact within
    · exact absurd (begins.of_starts longer) (reached.not_begins broken)
  have counted : count = max 1 read.length ∧ count ≤ 3 := by
    have meets := reached.standing.step_meets byte
    rwa [broken] at meets
  refine ⟨fun character start => ?_, ⟨fun impossible => (by cases impossible), ?_⟩, ?_⟩
  · exact reached.standing.noCharacter character (most start ⟨character, List.prefix_refl _⟩)
  · rintro ⟨character, start, _⟩
    have within := (most (List.prefix_refl _) ⟨character, start⟩).length_le
    rw [List.length_append, List.length_cons] at within
    omega
  · rintro _ ⟨⟩
    exact ⟨counted.2, read, List.prefix_append _ _, reached.standing.begins, counted.1,
      fun longer start begins => (most start begins).length_le⟩

theorem encode_cons (character : Char) (text : List Char) :
    encode (character :: text) = String.utf8EncodeChar character ++ encode text :=
  List.flatMap_cons

/-- What decoding says of the bytes read of a character together with those still to come. -/
def Reads (finished : Array Char) (position : Nat) (bytes : List UInt8) :
    Except Flaw (List Char) → Prop
  | .ok text => ∃ more, text = finished.toList ++ more ∧ encode more = bytes
  | .error flaw => ∃ more rest, encode more ++ rest = bytes ∧
      flaw.validUpTo = position + (encode more).length ∧ Stuck rest flaw.badLength

/-- A character in front of what was decoded. -/
theorem Reads.character {finished : Array Char} {position : Nat} {character : Char}
    {bytes : List UInt8} {outcome : Except Flaw (List Char)}
    (reads : Reads (finished.push character)
      (position + (String.utf8EncodeChar character).length) bytes outcome) :
    Reads finished position (String.utf8EncodeChar character ++ bytes) outcome := by
  cases outcome with
  | ok text =>
      obtain ⟨more, rfl, rfl⟩ := reads
      exact ⟨character :: more, by simp, encode_cons character more⟩
  | error flaw =>
      obtain ⟨more, rest, rfl, valid, stuck⟩ := reads
      refine ⟨character :: more, rest, ?_, ?_, stuck⟩
      · rw [encode_cons, List.append_assoc]
      · rw [valid, encode_cons, List.length_append, Nat.add_assoc]

theorem Reached.reads {state : State} {read : List UInt8} (reached : Reached state read)
    (finished : Array Char) (position : Nat) (bytes : List UInt8) :
    Reads finished position (read ++ bytes) (decodeFrom finished position state bytes) := by
  induction bytes generalizing finished position state read with
  | nil =>
      rw [List.append_nil]
      cases state with
      | none => exact ⟨[], (List.append_nil _).symm, reached.standing.symm⟩
      | some pending => exact ⟨[], read, rfl, rfl, stuck_of_pending reached.standing⟩
  | cons byte rest inductionHypothesis =>
      rw [decodeFrom]
      split
      next character finishes =>
        have bytes := reached.standing.step_meets byte
        rw [finishes] at bytes
        have length : state.elim 0 Pending.read = read.length := by
          cases state with
          | none => rw [show read = [] from reached.standing]; rfl
          | some pending => exact (reached.standing : pending.StandsFor read).read_eq
        have reads := inductionHypothesis reached_none (finished.push character)
          (position + (String.utf8EncodeChar character).length)
        rw [List.append_cons, ← bytes, length, ← List.length_singleton, ← List.length_append,
          ← bytes]
        exact reads.character
      next pending going =>
        rw [List.append_cons]
        exact inductionHypothesis (reached.step going) finished position
      next count broken =>
        exact ⟨[], _, rfl, rfl, reached.stuck broken rest⟩

/-- Text at the start of encoded text ends no later than the encoded text does, when what
follows begins with no character. -/
theorem length_encode_le {text whole : List Char} {rest : List UInt8}
    (start : encode text <+: encode whole ++ rest)
    (stops : ∀ character, ¬ String.utf8EncodeChar character <+: rest) :
    (encode text).length ≤ (encode whole).length := by
  induction text generalizing whole with
  | nil => exact Nat.zero_le _
  | cons first text inductionHypothesis =>
      cases whole with
      | nil =>
          have begins : String.utf8EncodeChar first <+: encode (first :: text) :=
            List.prefix_append _ _
          exact absurd (begins.trans start) (stops first)
      | cons other whole =>
          rw [encode_cons, encode_cons, List.append_assoc] at start
          have same : first = other := by
            rcases List.prefix_or_prefix_of_prefix ((List.prefix_append _ _).trans start)
              (List.prefix_append (String.utf8EncodeChar other) _) with shorter | longer
            · exact eq_of_starts shorter
            · exact (eq_of_starts longer).symm
          subst same
          rw [encode_cons, encode_cons, List.length_append, List.length_append]
          exact Nat.add_le_add_left
            (inductionHypothesis ((List.prefix_append_right_inj _).mp start)) _

theorem encode_of_decode {encoded : List UInt8} {text : List Char}
    (decoded : decode encoded = .ok text) : encode text = encoded := by
  have reads := reached_none.reads #[] 0 encoded
  rw [← decode, decoded] at reads
  obtain ⟨more, rfl, bytes⟩ := reads
  exact bytes

theorem locates_of_decode {encoded : List UInt8} {flaw : Flaw}
    (decoded : decode encoded = .error flaw) : flaw.Locates encoded := by
  have reads := reached_none.reads #[] 0 encoded
  rw [← decode, decoded] at reads
  obtain ⟨text, rest, bytes, validUpTo, stuck⟩ := reads
  rw [List.nil_append] at bytes
  rw [Nat.zero_add] at validUpTo
  refine ⟨⟨text, ⟨rest, bytes⟩, validUpTo.symm⟩, fun other start => ?_, ?_⟩
  · rw [validUpTo]
    exact length_encode_le (bytes ▸ start) stuck.noCharacter
  · rwa [← bytes, validUpTo, List.drop_left]

theorem encode_ne_of_decode {encoded : List UInt8} {flaw : Flaw}
    (decoded : decode encoded = .error flaw) (text : List Char) : encode text ≠ encoded := by
  rintro rfl
  rw [decode_encode] at decoded
  cases decoded

end Utf8

/-- Lifting text says exactly what the bytes in the range are: text, with these bytes, or else
where the first flaw lies; a range that does not lie in the memory is never looked at. -/
theorem liftText_locates (memory : Bytes) (address length : Word) :
    if address.toNat + length.toNat ≤ memory.size then
      let encoded := memory.read ⟨address.toNat, address.toNat + length.toNat⟩
      match liftText memory address length with
      | .ok text => Utf8.encode text.toList = encoded ∧ text.toByteArray.data.toList = encoded
      | .error fault => (∀ text, Utf8.encode text ≠ encoded) ∧
          ∃ flaw, fault = .encoding flaw ∧ flaw.Locates encoded
    else
      liftText memory address length =
        .error (.outOfBounds address length.toUInt64 memory.size) := by
  have short : length.toUInt64.toNat < UInt32.size := length.toNat_lt
  have slice := memory.slice_of_lt address short
  rw [UInt32.toNat_toUInt64] at slice
  by_cases inside : address.toNat + length.toNat ≤ memory.size
  case pos =>
    rw [if_pos inside, ← memory.read_eq] at slice
    rw [if_pos inside, liftText, slice]
    intro encoded
    change match (match Utf8.decode encoded with
      | .ok characters => .ok (String.ofList characters)
      | .error flaw => .error (.encoding flaw) : Except Fault String) with
      | .ok text => _
      | .error fault => _
    cases decoded : Utf8.decode encoded with
    | ok characters =>
        have bytes := Utf8.encode_of_decode decoded
        refine ⟨String.toList_ofList.symm ▸ bytes, ?_⟩
        rw [String.toByteArray_ofList, List.utf8Encode, List.data_toByteArray]
        exact bytes
    | error flaw =>
        exact ⟨fun text => Utf8.encode_ne_of_decode decoded text, flaw, rfl,
          Utf8.locates_of_decode decoded⟩
  case neg =>
    rw [if_neg inside] at slice
    rw [if_neg inside, liftText, slice]
    rfl

end GuestBoundary
