import ContentStore.Json.Numeral
import ContentStore.Json.Quoted

/-!
# Passing over values

Finds where a value ends without keeping what it says. Lists and objects are entered by keeping
the open brackets; with full care only so many of them may be open at once.
-/

namespace ContentStore.Json

/-- A bracket that is open. -/
inductive Bracket where
  | list
  | object
  deriving DecidableEq, Repr

/-- The byte that closes a bracket. -/
def Bracket.closing : Bracket → UInt8
  | list => ascii ']'
  | object => ascii '\x7d'

/-- The brackets that may be open at once when values are read with full care. -/
def maxNesting : Nat := 127

namespace Reader

/-- A value without parts, which starts with the byte `b`. -/
def passScalar (care : Care) (b : UInt8) : Reader Unit := do
  if b = ascii 'n' then word ['n', 'u', 'l', 'l']
  else if b = ascii 't' then word ['t', 'r', 'u', 'e']
  else if b = ascii 'f' then word ['f', 'a', 'l', 's', 'e']
  else if b = ascii '"' then
    advance
    passQuoted care
  else if b = ascii '-' ∨ (digit? b).isSome then
    match care with
    | .full =>
      let _ ← number
    | .grammar =>
      let _ ← numeral .grammar
  else fail .malformed

/-- The name of a member and the colon behind it. -/
def passName (care : Care) : Reader Unit := do
  if (← peek) = ascii '"' then
    advance
    passQuoted care
    colon
  else fail .malformed

/-- What has to come next inside the open brackets. -/
inductive Place where
  /-- A value. -/
  | value
  /-- What may stand behind an opening bracket. -/
  | opened
  /-- What may stand behind a value. -/
  | done

/-- Goes on until every open bracket is closed; `fuel` is at least the number of bytes and
`outside` the number of brackets opened before. -/
def passOn (care : Care) (outside : Nat) : (fuel : Nat) → List Bracket → Place → Reader Unit
  | _, [], .done => give ()
  | 0, _, _ => fail .malformed
  | fuel + 1, brackets, .value => do
    let b ← peek
    if b = ascii '[' ∨ b = ascii '\x7b' then
      if care = .full ∧ outside + brackets.length ≥ maxNesting then fail .malformed
      else
        advance
        passOn care outside fuel ((if b = ascii '[' then .list else .object) :: brackets) .opened
    else
      passScalar care b
      passOn care outside fuel brackets .done
  | fuel + 1, top :: brackets, .opened => do
    let b ← peek
    if b = top.closing then
      advance
      passOn care outside fuel brackets .done
    else
      match top with
      | .list => passOn care outside fuel (top :: brackets) .value
      | .object =>
        passName care
        passOn care outside fuel (top :: brackets) .value
  | fuel + 1, top :: brackets, .done => do
    let b ← peek
    if b = top.closing then
      advance
      passOn care outside fuel brackets .done
    else if b = ascii ',' then
      advance
      match top with
      | .list => passOn care outside fuel (top :: brackets) .value
      | .object =>
        passName care
        passOn care outside fuel (top :: brackets) .value
    else fail .malformed
  | _ + 1, [], .opened => fail .malformed

/-- Passes over one value inside `outside` open brackets. -/
def pass (care : Care) (outside : Nat) : Reader Unit :=
  fun bytes => passOn care outside (2 * bytes.length + 2) [] .value bytes

/-- The bytes of one value. -/
def extent (care : Care) (outside : Nat) : Reader (List UInt8) :=
  fun bytes =>
    match pass care outside bytes with
    | .ok ((), rest) => .ok (bytes.take (bytes.length - rest.length), rest)
    | .error fault => .error fault

end Reader
end ContentStore.Json
