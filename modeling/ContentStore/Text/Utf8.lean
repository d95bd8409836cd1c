/-!
# UTF-8

A text as its bytes, and bytes as a text. `ofUtf8?` refuses bytes that are not UTF-8;
`lossy` reads any bytes and puts U+FFFD where a sequence breaks off: once for each
longest piece that could have started a character, and once for each byte that could not.
-/

namespace ContentStore.Text

/-- The bytes of a text. -/
def utf8 (s : String) : List UInt8 :=
  s.toByteArray.data.toList

/-- The text with these bytes, if they are UTF-8. -/
def ofUtf8? (bytes : List UInt8) : Option String :=
  String.fromUTF8? ⟨bytes.toArray⟩

/-- The number of bytes of a text. -/
theorem length_utf8 (s : String) : (utf8 s).length = s.utf8ByteSize := by
  rfl

/-! ### Reading broken bytes -/

/-- A character of more than one byte, part way through: how many bytes it still needs, the
range of the next one, and the code point so far. -/
structure Partial where
  need : Nat
  low : UInt8
  high : UInt8
  code : Nat

/-- What one byte does between characters. -/
inductive Lead where
  | whole (c : Char)
  | opens (p : Partial)
  | stray

/-- The first byte of a character. The ranges of the second byte leave out overlong forms,
surrogates and code points past U+10FFFF. -/
def Lead.ofByte (b : UInt8) : Lead :=
  let n := b.toNat
  if n < 0x80 then .whole (Char.ofNat n)
  else if n < 0xC2 then .stray
  else if n < 0xE0 then .opens ⟨1, 0x80, 0xBF, n - 0xC0⟩
  else if n = 0xE0 then .opens ⟨2, 0xA0, 0xBF, 0⟩
  else if n = 0xED then .opens ⟨2, 0x80, 0x9F, 0xD⟩
  else if n < 0xF0 then .opens ⟨2, 0x80, 0xBF, n - 0xE0⟩
  else if n = 0xF0 then .opens ⟨3, 0x90, 0xBF, 0⟩
  else if n < 0xF4 then .opens ⟨3, 0x80, 0xBF, n - 0xF0⟩
  else if n = 0xF4 then .opens ⟨3, 0x80, 0x8F, 4⟩
  else .stray

/-- The character put in place of a broken sequence. -/
def replacement : Char := '\uFFFD'

/-- The characters of the bytes, after the bytes of `pending?`. -/
def lossyChars : (pending? : Option Partial) → List UInt8 → List Char
  | none, [] => []
  | some _, [] => [replacement]
  | none, b :: rest =>
    match Lead.ofByte b with
    | .whole c => c :: lossyChars none rest
    | .opens p => lossyChars (some p) rest
    | .stray => replacement :: lossyChars none rest
  | some p, b :: rest =>
    if p.low ≤ b ∧ b ≤ p.high then
      let code := p.code * 64 + (b.toNat - 0x80)
      if p.need ≤ 1 then Char.ofNat code :: lossyChars none rest
      else lossyChars (some ⟨p.need - 1, 0x80, 0xBF, code⟩) rest
    else
      match Lead.ofByte b with
      | .whole c => replacement :: c :: lossyChars none rest
      | .opens q => replacement :: lossyChars (some q) rest
      | .stray => replacement :: replacement :: lossyChars none rest

/-- Reads bytes as text, with U+FFFD where they are not UTF-8. -/
def lossy (bytes : List UInt8) : String :=
  String.ofList (lossyChars none bytes)

end ContentStore.Text
