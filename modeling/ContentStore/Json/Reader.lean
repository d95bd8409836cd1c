/-!
# Reading JSON

A reader takes bytes from the front and gives back what it read with the bytes after it, or a
fault. It looks at bytes once, from left to right, and the first fault met is the one reported:
a text that ends early and a value of the wrong kind are told apart from a text that is no JSON.
-/

namespace ContentStore.Json

/-- Why some bytes are not a JSON text of the wanted shape. -/
inductive Fault where
  /-- The text is no JSON, or outside what is read of it. -/
  | malformed
  /-- The text is JSON of another shape. -/
  | mismatched
  /-- The text ends early. -/
  | truncated
  deriving DecidableEq, Repr

/-- Reads from the front of some bytes. -/
def Reader (α : Type) : Type :=
  List UInt8 → Except Fault (α × List UInt8)

/-- How closely a value is looked at. -/
inductive Care where
  /-- By the grammar alone. -/
  | grammar
  /-- Also that escapes pair up, bytes are UTF-8, numbers stay in range and nesting is limited. -/
  | full
  deriving DecidableEq, Repr

/-- The byte of an ASCII character. -/
abbrev ascii (c : Char) : UInt8 :=
  UInt8.ofNat c.toNat

namespace Reader

variable {α β : Type}

/-- Reads nothing. -/
def give (a : α) : Reader α :=
  fun bytes => .ok (a, bytes)

/-- One reader after another, until the first fault. -/
def andThen (r : Reader α) (f : α → Reader β) : Reader β :=
  fun bytes =>
    match r bytes with
    | .ok (a, rest) => f a rest
    | .error fault => .error fault

instance : Monad Reader where
  pure := give
  bind := andThen

/-- A fault at this place. -/
def fail (fault : Fault) : Reader α :=
  fun _ => .error fault

/-! ### Single bytes -/

/-- Whether a byte may stand between any two parts of a text. -/
def isBlank (b : UInt8) : Bool :=
  b = ascii ' ' || b = ascii '\n' || b = ascii '\t' || b = ascii '\x0d'

/-- The first byte that is not blank; it is not taken. -/
def peek : Reader UInt8 :=
  fun bytes =>
    match bytes.dropWhile isBlank with
    | [] => .error .truncated
    | b :: rest => .ok (b, b :: rest)

/-- Takes one byte. -/
def advance : Reader Unit :=
  fun bytes => .ok ((), bytes.drop 1)

/-- Takes the given bytes. -/
def exactly : List UInt8 → Reader Unit
  | [] => give ()
  | expected :: more => fun bytes =>
    match bytes with
    | [] => .error .truncated
    | b :: rest => if b = expected then exactly more rest else .error .malformed

/-- Takes a word of ASCII. -/
def word (w : List Char) : Reader Unit :=
  exactly (w.map ascii)

/-- Takes the colon between a name and its value. -/
def colon : Reader Unit := do
  if (← peek) = ascii ':' then advance else fail .malformed

/-- Blanks up to the end. -/
def finish : Reader Unit :=
  fun bytes => if bytes.all isBlank then .ok ((), []) else .error .malformed

/-- What a reader makes of a whole text. -/
def run (r : Reader α) (bytes : List UInt8) : Except Fault α :=
  match (do let a ← r; finish; return a : Reader α) bytes with
  | .ok (a, _) => .ok a
  | .error fault => .error fault

/-! ### How readers run -/

theorem bind_run (r : Reader α) (f : α → Reader β) (bytes : List UInt8) :
    (r >>= f) bytes =
      match r bytes with
      | .ok (a, rest) => f a rest
      | .error fault => .error fault :=
  rfl

/-- A byte that is not blank is seen at once. -/
theorem peek_cons {b : UInt8} (rest : List UInt8) (h : isBlank b = false) :
    peek (b :: rest) = .ok (b, b :: rest) := by
  simp [peek, h]

end Reader
end ContentStore.Json
