import ContentStore.Json.Extent
import ContentStore.Json.Value
import ContentStore.Text.Integer

/-!
# Shapes

Objects of known fields. A shape says how the value of each field is read, what happens to other
members, and whether a list in the order of the fields does as well. Reading a shape gives the
members that were there, each at most once, and a builder makes a value of them or finds one
missing.
-/

namespace ContentStore.Json

/-- Members that were read, in the order in which they stood. -/
abbrev Members : Type :=
  List (String × Json)

namespace Members

/-- The text of a member, unless it is absent or null. -/
def text? (m : Members) (name : String) : Option String :=
  match m.lookup name with
  | some (.str s) => some s
  | _ => none

/-- The integer of a member, unless it is absent or null. -/
def int? (m : Members) (name : String) : Option Int :=
  match m.lookup name with
  | some (.int n) => some n
  | _ => none

/-- The flag of a member, unless it is absent or null. -/
def bool? (m : Members) (name : String) : Option Bool :=
  match m.lookup name with
  | some (.bool b) => some b
  | _ => none

end Members

namespace Reader

/-! ### Single values -/

/-- A value that is not of the wanted kind: scalars are still read to their end. -/
def mismatch {α : Type} : Reader α := do
  let b ← peek
  if b = ascii '[' ∨ b = ascii '\x7b' then fail .mismatched
  else
    passScalar .full b
    fail .mismatched

/-- A string that `accepts` admits. -/
def textOf (accepts : String → Bool) : Reader Json := do
  if (← peek) = ascii '"' then
    advance
    let s ← quotedRest
    if accepts s then return .str s else fail .mismatched
  else mismatch

/-- A string. -/
def text : Reader Json :=
  textOf fun _ => true

/-- An integer of 64 bits with a sign. -/
def int64 : Reader Json := do
  let b ← peek
  if b = ascii '-' ∨ (digit? b).isSome then
    match ← number with
    | .integer n => if n ≤ Text.maxInt64 then return .int n else fail .mismatched
    | .real => fail .mismatched
  else mismatch

/-- A flag. -/
def flag : Reader Json := do
  let b ← peek
  if b = ascii 't' then
    word ['t', 'r', 'u', 'e']
    return .bool true
  else if b = ascii 'f' then
    word ['f', 'a', 'l', 's', 'e']
    return .bool false
  else mismatch

/-- Null. -/
def nothing : Reader Json := do
  if (← peek) = ascii 'n' then
    word ['n', 'u', 'l', 'l']
    return .null
  else mismatch

/-- Null or a value. -/
def optional (value : Reader Json) : Reader Json := do
  if (← peek) = ascii 'n' then nothing else value

/-- One of some words: as a string, or as the name of an object's only member, whose value is
`held`. -/
def oneOfHolding (held : Reader Json) (accepts : String → Bool) : Reader Json := do
  let b ← peek
  if b = ascii '"' then textOf accepts
  else if b = ascii '\x7b' then
    advance
    if (← peek) = ascii '"' then
      let chosen ← textOf accepts
      colon
      let _ ← held
      if (← peek) = ascii '\x7d' then
        advance
        return chosen
      else fail .malformed
    else fail .malformed
  else fail .malformed

/-- One of some words: as a string, or as the name of an object's only member, which is null. -/
def oneOf (accepts : String → Bool) : Reader Json :=
  oneOfHolding nothing accepts

/-! ### Lists -/

/-- Whether another item follows; if so, reading goes on in front of it. A closing bracket is
left in place. -/
def anotherItem (isFirst : Bool) : Reader Bool := do
  let b ← peek
  if b = ascii ']' then return false
  else if isFirst then return true
  else if b = ascii ',' then
    advance
    if (← peek) = ascii ']' then fail .malformed else return true
  else fail .malformed

/-- The closing bracket of a list. -/
def endList : Reader Unit := do
  if (← peek) = ascii ']' then advance else fail .malformed

/-- The items of a list whose bracket is open. -/
def items (item : Reader Json) : (fuel : Nat) → (isFirst : Bool) → Reader (List Json)
  | 0, _ => fail .malformed
  | fuel + 1, isFirst => do
    if ← anotherItem isFirst then
      let first ← item
      return first :: (← items item fuel false)
    else return []

/-- A list of values of one kind. -/
def listOf (item : Reader Json) : Reader Json := do
  if (← peek) = ascii '[' then
    advance
    let found ← fun bytes => items item (bytes.length + 1) true bytes
    endList
    return .arr found
  else mismatch

end Reader

/-! ### Objects of known fields -/

/-- A field: its name and how its value is read. The kind of a late field is looked at only when
the whole object has been read. -/
structure Field where
  name : String
  read : Reader Json
  isLate : Bool

/-- What a list in place of an object may be. -/
inductive ListForm where
  | refused
  /-- Fields at the end may be left out. -/
  | shortened
  /-- Every field is there. -/
  | whole
  deriving DecidableEq, Repr

/-- An object of known fields. -/
structure Shape where
  fields : List Field
  /-- How closely other members are looked at. -/
  others : Care
  listForm : ListForm

/-- The members of an object so far; it is spoiled once a late field is of the wrong kind. -/
structure Collected where
  members : Members
  isSpoiled : Bool

namespace Collected

/-- Nothing read yet. -/
def empty : Collected :=
  ⟨[], false⟩

/-- Whether a member of this name was read. -/
def has (c : Collected) (name : String) : Bool :=
  (c.members.lookup name).isSome

/-- With one more member. -/
def add (c : Collected) (name : String) (value : Json) : Collected :=
  { c with members := c.members ++ [(name, value)] }

/-- Spoiled. -/
def spoil (c : Collected) : Collected :=
  { c with isSpoiled := true }

end Collected

namespace Shape

/-- The field of a name. -/
def field? (s : Shape) (name : String) : Option Field :=
  s.fields.find? (·.name = name)

/-- A late field from the bytes of its value. -/
def addLate (c : Collected) (f : Field) (value : List UInt8) : Collected :=
  if c.has f.name then c.spoil
  else
    match f.read value with
    | .ok (v, _) => c.add f.name v
    | .error _ => (c.add f.name .null).spoil

/-- The value of a member whose name was read, and the colon before it. -/
def memberValue (s : Shape) (c : Collected) (name : String) : Reader Collected :=
  match s.field? name with
  | none => do
    Reader.colon
    Reader.pass s.others 1
    return c
  | some f =>
    if f.isLate then do
      Reader.colon
      return addLate c f (← Reader.extent .full 1)
    else if c.has name then Reader.fail .mismatched
    else do
      Reader.colon
      return c.add name (← f.read)

/-- The members of an object whose bracket is open; its closing bracket is left in place. -/
def members (s : Shape) : (fuel : Nat) → (isFirst : Bool) → Collected → Reader Collected
  | 0, _, _ => Reader.fail .malformed
  | fuel + 1, isFirst, c => do
    let b ← Reader.peek
    if b = ascii '\x7d' then return c
    else
      if !isFirst then
        if b = ascii ',' then Reader.advance else Reader.fail .malformed
      if (← Reader.peek) = ascii '"' then
        Reader.advance
        let name ← Reader.quotedRest
        members s fuel false (← memberValue s c name)
      else Reader.fail .malformed

/-- The items of a list in place of an object; the list is not closed. -/
def itemsInOrder : List Field → (isFirst : Bool) → Collected → Reader Collected
  | [], _, c => return c
  | f :: rest, isFirst, c => do
    if ← Reader.anotherItem isFirst then
      itemsInOrder rest false (c.add f.name (← f.read))
    else return c

/-- What a builder makes of the members. -/
def built {α : Type} (build : Members → Option α) (c : Collected) : Reader α :=
  match c.isSpoiled, build c.members with
  | false, some a => Reader.give a
  | _, _ => Reader.fail .mismatched

/-- A value of the shape. -/
def read {α : Type} (s : Shape) (build : Members → Option α) : Reader α := do
  let b ← Reader.peek
  if b = ascii '\x7b' then
    Reader.advance
    let c ← fun bytes => s.members (bytes.length + 1) true .empty bytes
    let a ← built build c
    Reader.advance
    return a
  else if b = ascii '[' ∧ s.listForm ≠ .refused then
    Reader.advance
    let c ← itemsInOrder s.fields true .empty
    if s.listForm = .whole ∧ c.members.length < s.fields.length then Reader.fail .mismatched
    let a ← built build c
    Reader.endList
    return a
  else Reader.mismatch

/-- Reads a whole text of the shape. -/
def parse {α : Type} (s : Shape) (build : Members → Option α) (bytes : List UInt8) :
    Except Fault α :=
  (s.read build).run bytes

end Shape
end ContentStore.Json
