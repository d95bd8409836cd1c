import ContentStore.Json.Reader
import ContentStore.Text.Hex
import ContentStore.Text.Utf8

/-!
# Quoted strings

A string between quotes, read byte by byte. Escapes are undone on the way; a code point past
U+FFFF is escaped as two halves that must follow each other. Under grammar care the halves need
not pair up and the bytes need not be UTF-8.
-/

namespace ContentStore.Json

/-- The value of four hexadecimal digits. -/
def fourDigits? (a b c d : UInt8) : Option Nat := do
  let value (b : UInt8) : Option Nat :=
    if b < 128 then Text.Hex.value? (Char.ofNat b.toNat) else none
  return ((← value a) * 16 + (← value b)) * 256 + (← value c) * 16 + (← value d)

/-- The byte that an escape of one character stands for. -/
def unescape? (b : UInt8) : Option UInt8 :=
  if b = ascii '"' then some b
  else if b = ascii '\\' then some b
  else if b = ascii '/' then some b
  else if b = ascii 'b' then some 0x08
  else if b = ascii 'f' then some 0x0C
  else if b = ascii 'n' then some 0x0A
  else if b = ascii 'r' then some 0x0D
  else if b = ascii 't' then some 0x09
  else none

/-- Whether a code unit is the first half of a code point past U+FFFF. -/
def isFirstHalf (unit : Nat) : Bool :=
  0xD800 ≤ unit && unit ≤ 0xDBFF

/-- Whether a code unit is the second half. -/
def isSecondHalf (unit : Nat) : Bool :=
  0xDC00 ≤ unit && unit ≤ 0xDFFF

/-- The code point of two halves. -/
def joinHalves (first second : Nat) : Nat :=
  0x10000 + (first - 0xD800) * 0x400 + (second - 0xDC00)

/-- The bytes of a code point. -/
def bytesOf (code : Nat) : List UInt8 :=
  String.utf8EncodeChar (Char.ofNat code)

/-- Puts bytes in front of what is read. -/
def prepend (bytes : List UInt8) :
    Except Fault (List UInt8 × List UInt8) → Except Fault (List UInt8 × List UInt8)
  | .ok (found, rest) => .ok (bytes ++ found, rest)
  | .error fault => .error fault

/-- The bytes that a string stands for, up to its closing quote; `first?` is the half of a code
point that was just read. -/
def stringBytes (care : Care) (first? : Option Nat) :
    List UInt8 → Except Fault (List UInt8 × List UInt8)
  | [] => .error .truncated
  | b :: rest =>
    match first? with
    | none =>
      if b = ascii '"' then .ok ([], rest)
      else if b = ascii '\\' then
        match rest with
        | [] => .error .truncated
        | e :: rest =>
          if e = ascii 'u' then
            match rest with
            | d₁ :: d₂ :: d₃ :: d₄ :: rest =>
              match fourDigits? d₁ d₂ d₃ d₄ with
              | none => .error .malformed
              | some unit =>
                if care = .grammar then stringBytes care none rest
                else if isSecondHalf unit then .error .malformed
                else if isFirstHalf unit then stringBytes care (some unit) rest
                else prepend (bytesOf unit) (stringBytes care none rest)
            | _ => .error .truncated
          else
            match unescape? e with
            | none => .error .malformed
            | some plain => prepend [plain] (stringBytes care none rest)
      else if b < 0x20 then .error .malformed
      else prepend [b] (stringBytes care none rest)
    | some first =>
      if b = ascii '\\' then
        match rest with
        | [] => .error .truncated
        | e :: rest =>
          if e = ascii 'u' then
            match rest with
            | d₁ :: d₂ :: d₃ :: d₄ :: rest =>
              match fourDigits? d₁ d₂ d₃ d₄ with
              | none => .error .malformed
              | some second =>
                if isSecondHalf second then
                  prepend (bytesOf (joinHalves first second)) (stringBytes care none rest)
                else .error .malformed
            | _ => .error .truncated
          else .error .malformed
      else .error .malformed

namespace Reader

/-- What follows an opening quote, as text. -/
def quotedRest : Reader String :=
  fun bytes =>
    match stringBytes .full none bytes with
    | .error fault => .error fault
    | .ok (found, rest) =>
      match Text.ofUtf8? found with
      | some s => .ok (s, rest)
      | none => .error .malformed

/-- What follows an opening quote, looked at with the given care only. -/
def passQuoted (care : Care) : Reader Unit :=
  match care with
  | .full => do
    let _ ← quotedRest
  | .grammar => fun bytes =>
    match stringBytes .grammar none bytes with
    | .error fault => .error fault
    | .ok (_, rest) => .ok ((), rest)

end Reader
end ContentStore.Json
