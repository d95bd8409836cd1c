import ContentStore.Digest.Sha256
import ContentStore.Text.Hex
import ContentStore.Text.Quoted
import ContentStore.Text.Utf8

/-!
# Content hashes

The identity of some content: its SHA-256. A hash is written as 64 lower-case hexadecimal digits
and read from digits of either case.
-/

namespace ContentStore

/-- The SHA-256 of some content. -/
structure ContentHash where
  bytes : List UInt8
  length_eq : bytes.length = 32
  deriving DecidableEq

namespace ContentHash

/-- The hash of the bytes themselves. -/
def ofContent (content : List UInt8) : ContentHash :=
  ⟨Sha256.digest content, Sha256.length_digest content⟩

/-- The 64 digits of a hash, in lower case. -/
def hex (h : ContentHash) : String :=
  String.ofList (Text.Hex.encode h.bytes)

/-- Why a text is no hash. -/
inductive Fault where
  | notHex (text : String) (fault : Text.Hex.Fault)
  | wrongLength (count : Nat)
  deriving DecidableEq, Repr

/-- The fault in words. A bad byte is shown as the character with its code. -/
def Fault.message : Fault → String
  | .notHex text .oddLength => s!"`{text}`: Odd number of digits"
  | .notHex text (.badDigit byte position) =>
    let shown := Text.quoteChar (Char.ofNat byte.toNat)
    s!"`{text}`: Invalid character {shown} at position {position}"
  | .wrongLength count => s!"expected 32 bytes, got {count}"

/-- Reads a hash from its digits. -/
def parse (text : String) : Except Fault ContentHash :=
  match Text.Hex.decode text with
  | .error fault => .error (.notHex text fault)
  | .ok bytes =>
    if h : bytes.length = 32 then .ok ⟨bytes, h⟩ else .error (.wrongLength bytes.length)

/-- A hash has 64 digits. -/
theorem length_hex (h : ContentHash) : h.hex.length = 64 := by
  simp [hex, Text.Hex.length_encode, h.length_eq]

end ContentHash
end ContentStore
