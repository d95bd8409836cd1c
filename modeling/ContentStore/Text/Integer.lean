/-!
# Decimal integers

Reading an integer of a given range: an optional sign, then ASCII digits only. The fault is the
first one met from the left, so a digit that leaves the range wins over a bad character after it.
-/

namespace ContentStore.Text

/-- Why a text is not an integer of the range. -/
inductive IntegerFault where
  | empty
  | badDigit
  | tooLarge
  | tooSmall
  deriving DecidableEq, Repr

/-- The fault in words. -/
def IntegerFault.message : IntegerFault → String
  | .empty => "cannot parse integer from empty string"
  | .badDigit => "invalid digit found in string"
  | .tooLarge => "number too large to fit in target type"
  | .tooSmall => "number too small to fit in target type"

/-- The value of an ASCII digit. -/
def digitValue? (c : Char) : Option Nat :=
  if 48 ≤ c.toNat ∧ c.toNat ≤ 57 then some (c.toNat - 48) else none

/-- Reads digits after `n`, up to `limit`. -/
def readMagnitude (limit : Nat) (past : IntegerFault) (n : Nat) :
    List Char → Except IntegerFault Nat
  | [] => .ok n
  | c :: rest =>
    match digitValue? c with
    | none => .error .badDigit
    | some d =>
      if 10 * n + d ≤ limit then readMagnitude limit past (10 * n + d) rest else .error past

/-- Reads a natural number up to `limit`; a plus sign may stand before it. -/
def readNat (limit : Nat) (s : String) : Except IntegerFault Nat :=
  match s.toList with
  | [] => .error .empty
  | '+' :: [] => .error .badDigit
  | '+' :: digits => readMagnitude limit .tooLarge 0 digits
  | digits => readMagnitude limit .tooLarge 0 digits

/-- The largest natural number of 64 bits. -/
def maxNat64 : Nat := 18446744073709551615

/-- The largest integer of 64 bits with a sign. -/
def maxInt64 : Int := 9223372036854775807

/-- The smallest integer of 64 bits with a sign. -/
def minInt64 : Int := -9223372036854775808

/-- Reads an integer of 64 bits with a sign. -/
def readInt64 (s : String) : Except IntegerFault Int :=
  match s.toList with
  | [] => .error .empty
  | '+' :: [] => .error .badDigit
  | '-' :: [] => .error .badDigit
  | '-' :: digits => (readMagnitude minInt64.natAbs .tooSmall 0 digits).map fun n => -(n : Int)
  | '+' :: digits => (readMagnitude maxInt64.toNat .tooLarge 0 digits).map Int.ofNat
  | digits => (readMagnitude maxInt64.toNat .tooLarge 0 digits).map Int.ofNat

end ContentStore.Text
