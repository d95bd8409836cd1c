/-!
# Hexadecimal text

Bytes as pairs of hexadecimal digits. Writing uses lower case; reading takes either case and
names what is wrong: an odd number of bytes of text first, else the first byte of the text
that is no digit.
-/

namespace ContentStore.Text.Hex

/-- The digit for a value below sixteen. -/
def digit (n : Nat) : Char :=
  if n < 10 then Char.ofNat (48 + n) else Char.ofNat (87 + n)

/-- The value of a digit of either case. -/
def value? (c : Char) : Option Nat :=
  let n := c.toNat
  if 48 ≤ n ∧ n ≤ 57 then some (n - 48)
  else if 97 ≤ n ∧ n ≤ 102 then some (n - 87)
  else if 65 ≤ n ∧ n ≤ 70 then some (n - 55)
  else none

/-- The two digits of a byte, high half first. -/
def pair (b : UInt8) : List Char :=
  [digit (b.toNat / 16), digit (b.toNat % 16)]

/-- The digits of the bytes, in lower case. -/
def encode (bytes : List UInt8) : List Char :=
  bytes.flatMap pair

/-- Why a text is not the digits of bytes. -/
inductive Fault where
  | oddLength
  | badDigit (byte : UInt8) (position : Nat)
  deriving DecidableEq, Repr

/-- The first byte of a character's UTF-8 form. -/
def leadByte (c : Char) : UInt8 :=
  (String.utf8EncodeChar c).headD 0

/-- Reads digits two at a time. `position` counts the characters read, which are all digits and
so one byte each. -/
def decodeFrom (position : Nat) : List Char → Except Fault (List UInt8)
  | [] => .ok []
  | [c] => .error (.badDigit (leadByte c) position)
  | c :: d :: rest =>
    match value? c, value? d with
    | some high, some low =>
      match decodeFrom (position + 2) rest with
      | .ok bytes => .ok (UInt8.ofNat (16 * high + low) :: bytes)
      | .error fault => .error fault
    | none, _ => .error (.badDigit (leadByte c) position)
    | some _, none => .error (.badDigit (leadByte d) (position + 1))

/-- The bytes a text spells. -/
def decode (s : String) : Except Fault (List UInt8) :=
  if s.utf8ByteSize % 2 = 1 then .error .oddLength else decodeFrom 0 s.toList

theorem length_encode (bytes : List UInt8) : (encode bytes).length = 2 * bytes.length := by
  induction bytes with
  | nil => rfl
  | cons b rest ih =>
    simp only [encode, List.flatMap_cons, List.length_append, List.length_cons] at ih ⊢
    rw [ih, show (pair b).length = 2 from rfl]
    omega

end ContentStore.Text.Hex
