import ContentStore.Text.Hex

/-!
# UUIDs

Identifiers of sixteen bytes, written as digits in groups of 8, 4, 4, 4 and 12. Reading takes the
digits of either case with the hyphens or without them, and the grouped form also in braces or
behind `urn:uuid:`, in either case too.
-/

namespace ContentStore

/-- An identifier of sixteen bytes. -/
structure Uuid where
  bytes : List UInt8
  deriving DecidableEq, Repr

namespace Uuid

/-- The 32 digits alone. -/
def digits (u : Uuid) : List Char :=
  Text.Hex.encode u.bytes

/-- The digits alone, as text. -/
def simpleText (u : Uuid) : String :=
  String.ofList u.digits

/-- The digits in groups. -/
def text (u : Uuid) : String :=
  let d := u.digits
  String.ofList <|
    d.take 8 ++ '-' :: (d.drop 8).take 4 ++ '-' :: (d.drop 12).take 4 ++
      '-' :: (d.drop 16).take 4 ++ '-' :: d.drop 20

/-- Reads 32 digits. -/
def ofDigits? (cs : List Char) : Option Uuid :=
  if cs.length = 32 then
    match Text.Hex.decodeFrom 0 cs with
    | .ok bytes => some ⟨bytes⟩
    | .error _ => none
  else none

/-- Reads 32 digits in groups. -/
def ofGroups? (cs : List Char) : Option Uuid :=
  let hyphens := [cs[8]?, cs[13]?, cs[18]?, cs[23]?]
  if cs.length = 36 ∧ hyphens.all (· = some '-') then
    ofDigits? (cs.take 8 ++ (cs.drop 9).take 4 ++ (cs.drop 14).take 4 ++
      (cs.drop 19).take 4 ++ cs.drop 24)
  else none

/-- Reads an identifier in any of its forms. -/
def parse? (s : String) : Option Uuid :=
  let cs := s.toList
  if cs.length = 32 then ofDigits? cs
  else if cs.length = 36 then ofGroups? cs
  else if cs.length = 38 ∧ cs.head? = some '\x7b' ∧ cs.getLast? = some '\x7d' then
    ofGroups? ((cs.drop 1).take 36)
  else if cs.length = 45 ∧ (cs.take 9).map Char.toLower = "urn:uuid:".toList then
    ofGroups? (cs.drop 9)
  else none

/-- The identifier numbered `n` of a supply: the number in the last eight bytes, under the marks
of a random identifier. -/
def numbered (n : Nat) : Uuid :=
  ⟨[0x5b, 0xd3, 0x1f, 0x6e, 0x8a, 0x27, 0x4c, 0x90, 0xb1] ++
    [6, 5, 4, 3, 2, 1, 0].map fun k => UInt8.ofNat (n / Nat.pow 256 k)⟩

end Uuid
end ContentStore
