import ContentStore.Text.Hex

/-!
# JSON values

The values that are written, and how: without blanks, members in their order, and in strings
only the quote, the backslash and the controls escaped.
-/

namespace ContentStore

/-- A JSON value whose numbers are integers. -/
inductive Json where
  | null
  | bool (b : Bool)
  | int (n : Int)
  | str (s : String)
  | arr (items : List Json)
  | obj (members : List (String × Json))

namespace Json

/-- A text, or null. -/
def ofText? : Option String → Json
  | none => null
  | some s => str s

/-! ### Writing -/

/-- A character inside a string. -/
def escape (c : Char) : List Char :=
  if c = '"' then ['\\', '"']
  else if c = '\\' then ['\\', '\\']
  else if c = '\n' then ['\\', 'n']
  else if c = '\x0d' then ['\\', 'r']
  else if c = '\t' then ['\\', 't']
  else if c = '\x08' then ['\\', 'b']
  else if c = '\x0c' then ['\\', 'f']
  else if c.toNat < 0x20 then
    ['\\', 'u', '0', '0', Text.Hex.digit (c.toNat / 16), Text.Hex.digit (c.toNat % 16)]
  else [c]

/-- A string between quotes. -/
def quoted (s : String) : List Char :=
  '"' :: s.toList.flatMap escape ++ ['"']

/-- An integer in decimal digits. -/
def digitsOf (n : Int) : List Char :=
  if n < 0 then '-' :: Nat.toDigits 10 n.natAbs else Nat.toDigits 10 n.natAbs

mutual

/-- The characters of a value. -/
def chars : Json → List Char
  | null => ['n', 'u', 'l', 'l']
  | bool true => ['t', 'r', 'u', 'e']
  | bool false => ['f', 'a', 'l', 's', 'e']
  | int n => digitsOf n
  | str s => quoted s
  | arr items => '[' :: itemChars items ++ [']']
  | obj members => '\x7b' :: memberChars members ++ ['\x7d']

/-- The characters of items, with commas between them. -/
def itemChars : List Json → List Char
  | [] => []
  | [v] => v.chars
  | v :: rest => v.chars ++ ',' :: itemChars rest

/-- The characters of members, with commas between them. -/
def memberChars : List (String × Json) → List Char
  | [] => []
  | [(name, v)] => quoted name ++ ':' :: v.chars
  | (name, v) :: rest => quoted name ++ ':' :: v.chars ++ ',' :: memberChars rest

end

/-- The text of a value. -/
def text (v : Json) : String :=
  String.ofList v.chars

end Json
end ContentStore
