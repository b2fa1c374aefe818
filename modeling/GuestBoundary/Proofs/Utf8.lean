import GuestBoundary.Utf8

/-!
# Decoding encoded text

The bytes of a character lead the machine from the start of a character back to it, with the
character read. The first byte gives the highest bits of its scalar value and each later byte six
more; the bounds of the second byte are met because the value is a scalar value and too large for
a shorter form.
-/

namespace GuestBoundary.Utf8

/-! ### First bytes -/

theorem lead_of_one {value : Nat} (small : value ≤ 0x7F) :
    lead (UInt8.ofNat value) = .finished (Char.ofNat value) := by
  have whole : (UInt8.ofNat value).toNat = value :=
    UInt8.toNat_ofNat_of_lt' (Nat.lt_of_le_of_lt small (by decide))
  rw [lead, if_pos (UInt8.le_iff_toNat_le.mpr (by rw [whole]; exact small)), whole]

theorem lead_of_two {bits : Nat} (small : bits < 0x20) (atLeast : 2 ≤ bits) :
    lead (UInt8.ofNat (bits + 0xC0)) = .going ⟨0x80, 0xBF, 0, bits, 1⟩ := by
  revert bits
  decide

/-- The second byte of three must not begin an overlong form or a surrogate. -/
theorem lead_of_three {bits : Nat} (small : bits < 0x10) :
    lead (UInt8.ofNat (bits + 0xE0)) =
      .going ⟨if bits = 0 then 0xA0 else 0x80, if bits = 0xD then 0x9F else 0xBF, 1, bits, 1⟩ := by
  revert bits
  decide

/-- The second byte of four must not begin an overlong form or a value above U+10FFFF. -/
theorem lead_of_four {bits : Nat} (small : bits < 5) :
    lead (UInt8.ofNat (bits + 0xF0)) =
      .going ⟨if bits = 0 then 0x90 else 0x80, if bits = 4 then 0x8F else 0xBF, 2, bits, 1⟩ := by
  revert bits
  decide

/-! ### Later bytes -/

theorem Pending.step_digit (pending : Pending) {digit : Nat} (small : digit < 64)
    (above : pending.low.toNat ≤ digit + 0x80) (below : digit + 0x80 ≤ pending.high.toNat) :
    pending.step (UInt8.ofNat (digit + 0x80)) =
      match pending.due with
      | 0 => .finished (Char.ofNat (64 * pending.bits + digit))
      | due + 1 => .going ⟨0x80, 0xBF, due, 64 * pending.bits + digit, pending.read + 1⟩ := by
  have whole : (UInt8.ofNat (digit + 0x80)).toNat = digit + 0x80 :=
    UInt8.toNat_ofNat_of_lt' (Nat.lt_trans (Nat.add_lt_add_right small 0x80) (by decide))
  have inside : ¬ (UInt8.ofNat (digit + 0x80) < pending.low ∨
      pending.high < UInt8.ofNat (digit + 0x80)) := by
    rw [UInt8.lt_iff_toNat_lt, UInt8.lt_iff_toNat_lt, whole]
    omega
  cases due : pending.due with
  | zero => simp only [step, if_neg inside, whole, Nat.add_sub_cancel, due]
  | succ due => simp only [step, if_neg inside, whole, Nat.add_sub_cancel, due]

/-- A byte that only carries six bits. -/
theorem Pending.step_digit_of_free (due bits read digit : Nat) (small : digit < 64) :
    (Pending.mk 0x80 0xBF due bits read).step (UInt8.ofNat (digit + 0x80)) =
      match due with
      | 0 => .finished (Char.ofNat (64 * bits + digit))
      | due + 1 => .going ⟨0x80, 0xBF, due, 64 * bits + digit, read + 1⟩ :=
  Pending.step_digit _ small (Nat.le_add_left 0x80 digit)
    (Nat.add_le_add_right (Nat.le_of_lt_succ small) 0x80)

/-! ### Characters and text -/

section

variable (finished : Array Char) (position : Nat) {value : Nat} (rest : List UInt8)

theorem decodeFrom_two (large : 0x7F < value) (small : value ≤ 0x7FF) :
    decodeFrom finished position none
        (UInt8.ofNat (value / 64 % 0x20 + 0xC0) :: UInt8.ofNat (value % 0x40 + 0x80) :: rest) =
      decodeFrom (finished.push (Char.ofNat value)) (position + 2) none rest := by
  have first : lead (UInt8.ofNat (value / 64 % 0x20 + 0xC0)) = _ :=
    lead_of_two (Nat.mod_lt _ (by decide)) (by omega)
  have second := Pending.step_digit_of_free 0 (value / 64 % 0x20) 1 (value % 0x40)
    (Nat.mod_lt _ (by decide))
  have whole : 64 * (value / 64 % 0x20) + value % 0x40 = value := by omega
  rw [whole] at second
  simp only [decodeFrom, step, first, second, Option.elim_some]

theorem decodeFrom_three (large : 0x7FF < value) (small : value ≤ 0xFFFF)
    (valid : value < 0xD800 ∨ 0xDFFF < value) :
    decodeFrom finished position none
        (UInt8.ofNat (value / 4096 % 0x10 + 0xE0) :: UInt8.ofNat (value / 64 % 0x40 + 0x80) ::
          UInt8.ofNat (value % 0x40 + 0x80) :: rest) =
      decodeFrom (finished.push (Char.ofNat value)) (position + 3) none rest := by
  have first : lead (UInt8.ofNat (value / 4096 % 0x10 + 0xE0)) = _ :=
    lead_of_three (Nat.mod_lt _ (by decide))
  have second := Pending.step_digit
    ⟨if value / 4096 % 0x10 = 0 then 0xA0 else 0x80,
      if value / 4096 % 0x10 = 0xD then 0x9F else 0xBF, 1, value / 4096 % 0x10, 1⟩
    (show value / 64 % 0x40 < 64 from Nat.mod_lt _ (by decide))
    (by dsimp only; split <;> simp only [UInt8.reduceToNat] <;> omega)
    (by dsimp only; split <;> simp only [UInt8.reduceToNat] <;> omega)
  have third := Pending.step_digit_of_free 0 (64 * (value / 4096 % 0x10) + value / 64 % 0x40) 2
    (value % 0x40) (Nat.mod_lt _ (by decide))
  have whole : 64 * (64 * (value / 4096 % 0x10) + value / 64 % 0x40) + value % 0x40 = value := by
    omega
  rw [whole] at third
  simp only [decodeFrom, step, first, second, third, Option.elim_some]

theorem decodeFrom_four (large : 0xFFFF < value) (valid : value < 0x110000) :
    decodeFrom finished position none
        (UInt8.ofNat (value / 262144 % 0x08 + 0xF0) :: UInt8.ofNat (value / 4096 % 0x40 + 0x80) ::
          UInt8.ofNat (value / 64 % 0x40 + 0x80) :: UInt8.ofNat (value % 0x40 + 0x80) :: rest) =
      decodeFrom (finished.push (Char.ofNat value)) (position + 4) none rest := by
  have first : lead (UInt8.ofNat (value / 262144 % 0x08 + 0xF0)) = _ := lead_of_four (by omega)
  have second := Pending.step_digit
    ⟨if value / 262144 % 0x08 = 0 then 0x90 else 0x80,
      if value / 262144 % 0x08 = 4 then 0x8F else 0xBF, 2, value / 262144 % 0x08, 1⟩
    (show value / 4096 % 0x40 < 64 from Nat.mod_lt _ (by decide))
    (by dsimp only; split <;> simp only [UInt8.reduceToNat] <;> omega)
    (by dsimp only; split <;> simp only [UInt8.reduceToNat] <;> omega)
  have third := Pending.step_digit_of_free 1 (64 * (value / 262144 % 0x08) + value / 4096 % 0x40) 2
    (value / 64 % 0x40) (Nat.mod_lt _ (by decide))
  have fourth := Pending.step_digit_of_free 0
    (64 * (64 * (value / 262144 % 0x08) + value / 4096 % 0x40) + value / 64 % 0x40) 3
    (value % 0x40) (Nat.mod_lt _ (by decide))
  have whole : 64 * (64 * (64 * (value / 262144 % 0x08) + value / 4096 % 0x40) +
      value / 64 % 0x40) + value % 0x40 = value := by omega
  rw [whole] at fourth
  simp only [decodeFrom, step, first, second, third, fourth, Option.elim_some]

end

theorem decodeFrom_character (finished : Array Char) (position : Nat) (character : Char)
    (rest : List UInt8) :
    decodeFrom finished position none (String.utf8EncodeChar character ++ rest) =
      decodeFrom (finished.push character)
        (position + (String.utf8EncodeChar character).length) none rest := by
  have valid : character.val.toNat < 0xD800 ∨
      0xDFFF < character.val.toNat ∧ character.val.toNat < 0x110000 := character.valid
  have same : Char.ofNat character.val.toNat = character := Char.ofNat_toNat character
  simp only [String.utf8EncodeChar]
  generalize character.val.toNat = value at *
  subst same
  by_cases one : value ≤ 0x7F
  · rw [if_pos one, List.singleton_append, decodeFrom, step, lead_of_one one]
    rfl
  by_cases two : value ≤ 0x7FF
  · rw [if_neg one, if_pos two]
    exact decodeFrom_two finished position rest (Nat.lt_of_not_le one) two
  by_cases three : value ≤ 0xFFFF
  · rw [if_neg one, if_neg two, if_pos three]
    exact decodeFrom_three finished position rest (Nat.lt_of_not_le two) three (by omega)
  · rw [if_neg one, if_neg two, if_neg three]
    exact decodeFrom_four finished position rest (Nat.lt_of_not_le three) (by omega)

theorem decodeFrom_encode (finished : Array Char) (position : Nat) (text : List Char) :
    decodeFrom finished position none (encode text) = .ok (finished.toList ++ text) := by
  induction text generalizing finished position with
  | nil => exact congrArg Except.ok (List.append_nil _).symm
  | cons character text inductionHypothesis =>
      rw [encode, List.flatMap_cons, decodeFrom_character]
      exact (inductionHypothesis _ _).trans (by simp)

/-- Encoded text is read back as it was. -/
theorem decode_encode (text : List Char) : decode (encode text) = .ok text :=
  decodeFrom_encode #[] 0 text

end GuestBoundary.Utf8
