import ContentStore.Json.Reader
import ContentStore.Text.Integer

/-!
# Numerals

A number as it is written, and what is made of it: an integer when it has neither fraction nor
exponent and fits, and otherwise a real number, whose value nobody here asks for. Only a real
number past the largest double is refused.
-/

namespace ContentStore.Json

/-- A number as it is written: its digits, and its exponent if it has one. -/
structure Numeral where
  negative : Bool
  whole : List Nat
  fraction : Option (List Nat)
  exponent : Option Int
  deriving DecidableEq, Repr

/-- What a numeral stands for. -/
inductive Number where
  | integer (n : Int)
  | real
  deriving DecidableEq, Repr

/-! ### Doubles -/

/-- A natural number rounded to 53 binary digits; a tie goes to the even neighbour. -/
def roundToDouble (n : Nat) : Nat :=
  let unit := Nat.pow 2 (n.log2 - 52)
  let below := n / unit
  let excess := n % unit
  if 2 * excess < unit ∨ (2 * excess = unit ∧ below % 2 = 0) then below * unit
  else (below + 1) * unit

/-- The least number that is rounded to infinity. -/
def doubleLimit : Nat :=
  Nat.pow 2 1024 - Nat.pow 2 970

/-- Puts digits after `n` while the number fits in 64 bits; the digits from the first one that
does not fit are left over. -/
def absorb (n : Nat) : List Nat → Nat × List Nat
  | [] => (n, [])
  | d :: rest => if 10 * n + d ≤ Text.maxNat64 then absorb (10 * n + d) rest else (n, d :: rest)

namespace Numeral

/-- The number that decimal digits stand for. -/
def value (digits : List Nat) : Nat :=
  digits.foldl (fun n d => 10 * n + d) 0

/-- The digits that fit in 64 bits as one number, and the power of ten that goes with it. -/
def scaled (n : Numeral) : Nat × Int :=
  let (whole, dropped) := absorb 0 n.whole
  let fraction := n.fraction.getD []
  let (significand, unused) := absorb whole fraction
  (significand, n.exponent.getD 0 + dropped.length - (fraction.length - unused.length : Nat))

/-- Whether the number, made as the product of two doubles, is a finite double. -/
def isFinite (n : Numeral) : Bool :=
  let (significand, power) := n.scaled
  significand = 0 || power < 0 ||
    (power ≤ 308 &&
      roundToDouble significand * roundToDouble (Nat.pow 10 power.toNat) < doubleLimit)

/-- The integer that is written, if it is one and has its place in 64 bits. Zero behind a minus
sign is none. -/
def integer? (n : Numeral) : Option Int :=
  match n.fraction, n.exponent with
  | none, none =>
    let v := value n.whole
    if n.negative then if 0 < v ∧ v ≤ Text.minInt64.natAbs then some (-(v : Int)) else none
    else if v ≤ Text.maxNat64 then some v else none
  | _, _ => none

/-- What the numeral stands for, unless it is too large. -/
def number? (n : Numeral) : Option Number :=
  match n.integer? with
  | some i => some (.integer i)
  | none => if n.isFinite then some .real else none

end Numeral

/-! ### Reading -/

/-- The value of a byte that is a digit. -/
def digit? (b : UInt8) : Option Nat :=
  if ascii '0' ≤ b ∧ b ≤ ascii '9' then some (b.toNat - 48) else none

namespace Reader

/-- Takes digits as long as there are some. -/
def digits : List UInt8 → List Nat × List UInt8
  | [] => ([], [])
  | b :: rest =>
    match digit? b with
    | some d => (d :: (digits rest).1, (digits rest).2)
    | none => ([], b :: rest)

/-- Takes at least one digit. -/
def someDigits (care : Care) : Reader (List Nat) :=
  fun bytes =>
    match digits bytes with
    | ([], []) => .error (if care = .full then .truncated else .malformed)
    | ([], _ :: _) => .error .malformed
    | found => .ok found

/-- Whether the next byte is one of the given ones; if so it is taken. -/
def takesOne (options : List Char) : Reader (Option Char) :=
  fun bytes =>
    match bytes with
    | [] => .ok (none, [])
    | b :: rest =>
      match options.find? fun c => ascii c = b with
      | some c => .ok (some c, rest)
      | none => .ok (none, b :: rest)

/-- The digits before the point; a zero stands alone. -/
def wholeDigits (care : Care) : Reader (List Nat) := do
  let found ← someDigits care
  if found.length > 1 ∧ found.head? = some 0 then fail .malformed else return found

/-- The point and the digits after it. -/
def fractionDigits (care : Care) : Reader (Option (List Nat)) := do
  match ← takesOne ['.'] with
  | none => return none
  | some _ => return some (← someDigits care)

/-- The mark of the exponent, its sign and its digits. -/
def exponentPart (care : Care) : Reader (Option Int) := do
  match ← takesOne ['e', 'E'] with
  | none => return none
  | some _ =>
    let sign ← takesOne ['+', '-']
    let n := Numeral.value (← someDigits care)
    return some (if sign = some '-' then -(n : Int) else n)

/-- A numeral. -/
def numeral (care : Care) : Reader Numeral := do
  let sign ← takesOne ['-']
  let whole ← wholeDigits care
  let fraction ← fractionDigits care
  let exponent ← exponentPart care
  return ⟨sign.isSome, whole, fraction, exponent⟩

/-- A number. -/
def number : Reader Number := do
  match (← numeral .full).number? with
  | some n => return n
  | none => fail .malformed

end Reader
end ContentStore.Json
