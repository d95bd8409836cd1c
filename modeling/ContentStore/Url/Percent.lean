import ContentStore.Text.Hex
import ContentStore.Text.Utf8

/-!
# Percent encoding

Bytes as a percent sign and two digits.
-/

namespace ContentStore.Url

/-- A digit in upper case. -/
def upperDigit (n : Nat) : Char :=
  if n < 10 then Char.ofNat (48 + n) else Char.ofNat (55 + n)

/-- A byte behind a percent sign. -/
def percentByte (b : UInt8) : List Char :=
  ['%', upperDigit (b.toNat / 16), upperDigit (b.toNat % 16)]

/-- Encodes the characters of a class, byte by byte. -/
def percentEncode (isEncoded : Char → Bool) (cs : List Char) : List Char :=
  cs.flatMap fun c =>
    if isEncoded c then (String.utf8EncodeChar c).flatMap percentByte else [c]

/-- The value of a byte that is a digit. -/
def byteDigit? (b : UInt8) : Option Nat :=
  if b < 128 then Text.Hex.value? (Char.ofNat b.toNat) else none

/-- Decodes every percent sign with two digits behind it, and leaves the others. -/
def percentDecode : List UInt8 → List UInt8
  | [] => []
  | 37 :: a :: b :: rest =>
    match byteDigit? a, byteDigit? b with
    | some high, some low => UInt8.ofNat (16 * high + low) :: percentDecode rest
    | _, _ => 37 :: percentDecode (a :: b :: rest)
  | b :: rest => b :: percentDecode rest

end ContentStore.Url
