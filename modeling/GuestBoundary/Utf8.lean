/-!
# Text as bytes

UTF-8 text as bytes. `encode` is the format; `decode` reads it back one byte at a time and, on
bytes that are no text, reports a `Flaw`: how many leading bytes are whole characters, and how
many of the next bytes can no longer begin a character.

The machine keeps no more than a character in progress: the bounds of its next byte, the bytes
still due, and the bits read so far. The bounds of the second byte exclude overlong forms,
surrogates and scalars above U+10FFFF, so a finished sequence is always a scalar value.
-/

namespace GuestBoundary.Utf8

def encode (text : List Char) : List UInt8 := text.flatMap String.utf8EncodeChar

structure Flaw where
  /-- Length of the longest start that consists of whole characters. -/
  validUpTo : Nat
  /-- Length of the bad sequence after it, or `none` when the input ends inside a character. -/
  badLength : Option Nat
deriving DecidableEq, Repr

def Flaw.message (flaw : Flaw) : String :=
  match flaw.badLength with
  | some length =>
      "invalid utf-8 sequence of " ++ toString length ++ " bytes from index " ++
        toString flaw.validUpTo
  | none => "incomplete utf-8 byte sequence from index " ++ toString flaw.validUpTo

/-- A character in progress. -/
structure Pending where
  low : UInt8
  high : UInt8
  due : Nat
  bits : Nat
  read : Nat
deriving DecidableEq, Repr

/-- The state between bytes: at the start of a character, or inside one. -/
abbrev State := Option Pending

/-- What one byte does: finish a character, go on with one, or break the text after `read` bytes. -/
inductive Outcome where
  | finished (character : Char)
  | going (pending : Pending)
  | broken (read : Nat)
deriving DecidableEq

/-- The first byte of a character fixes the length and the bounds of the second byte. -/
def lead (byte : UInt8) : Outcome :=
  if byte ≤ 0x7F then .finished (Char.ofNat byte.toNat)
  else if byte < 0xC2 then .broken 1
  else if byte ≤ 0xDF then .going ⟨0x80, 0xBF, 0, byte.toNat - 0xC0, 1⟩
  else if byte = 0xE0 then .going ⟨0xA0, 0xBF, 1, 0, 1⟩
  else if byte = 0xED then .going ⟨0x80, 0x9F, 1, 0xD, 1⟩
  else if byte ≤ 0xEF then .going ⟨0x80, 0xBF, 1, byte.toNat - 0xE0, 1⟩
  else if byte = 0xF0 then .going ⟨0x90, 0xBF, 2, 0, 1⟩
  else if byte ≤ 0xF3 then .going ⟨0x80, 0xBF, 2, byte.toNat - 0xF0, 1⟩
  else if byte = 0xF4 then .going ⟨0x80, 0x8F, 2, 4, 1⟩
  else .broken 1

/-- A later byte adds six bits, or breaks the text where it stands. -/
def Pending.step (pending : Pending) (byte : UInt8) : Outcome :=
  if byte < pending.low ∨ pending.high < byte then .broken pending.read
  else
    let bits := 64 * pending.bits + (byte.toNat - 0x80)
    match pending.due with
    | 0 => .finished (Char.ofNat bits)
    | due + 1 => .going ⟨0x80, 0xBF, due, bits, pending.read + 1⟩

def step : State → UInt8 → Outcome
  | none, byte => lead byte
  | some pending, byte => pending.step byte

/-- Decodes on, after the characters `finished`, which are `position` bytes long. -/
def decodeFrom (finished : Array Char) (position : Nat) (state : State) :
    List UInt8 → Except Flaw (List Char)
  | [] =>
      match state with
      | none => .ok finished.toList
      | some _ => .error ⟨position, none⟩
  | byte :: rest =>
      match step state byte with
      | .finished character =>
          decodeFrom (finished.push character)
            (position + (state.elim 0 Pending.read + 1)) none rest
      | .going pending => decodeFrom finished position (some pending) rest
      | .broken read => .error ⟨position, some read⟩

/-- The characters of a byte sequence, or its first flaw. -/
def decode (encoded : List UInt8) : Except Flaw (List Char) := decodeFrom #[] 0 none encoded

end GuestBoundary.Utf8
