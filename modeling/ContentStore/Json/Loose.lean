import ContentStore.Json.Shape

/-!
# Values that may be wrong

A loose value is one whose faults are passed over: it stands for nothing, and reading goes on at
the place where the fault was found. So a fault does no harm if that place is the end of the
value, and otherwise what is left of the value is taken for what stands behind it.
-/

namespace ContentStore.Json

/-! ### Strings -/

/-- What is left behind an opening quote once the string has ended, or once an escaped half of a
code point is found without its other half. `afterFirst` says that a first half was just read; a
byte that then does not go on with the second one is taken. -/
def afterString (afterFirst : Bool) : List UInt8 → List UInt8
  | [] => []
  | b :: rest =>
    if b = ascii '\\' then
      match rest with
      | [] => []
      | e :: rest =>
        if e = ascii 'u' then
          match rest with
          | d₁ :: d₂ :: d₃ :: d₄ :: rest =>
            match fourDigits? d₁ d₂ d₃ d₄ with
            | none => rest
            | some unit =>
              if isSecondHalf unit = afterFirst then
                afterString (isFirstHalf unit && !afterFirst) rest
              else rest
          | _ => []
        else if afterFirst then rest
        else afterString false rest
    else if afterFirst ∨ b = ascii '"' then rest
    else afterString false rest

/-! ### Numbers -/

/-- The largest exponent that is counted to its last digit. -/
def maxExponent : Int := 2147483647

/-- Whether digits are left when a number other than zero is given up because of its exponent. -/
def Numeral.leavesDigits (n : Numeral) : Bool :=
  match n.exponent with
  | some e => n.scaled.1 ≠ 0 && maxExponent < e / 10
  | none => false

namespace Reader

/-- A loose value. Of lists and objects only the first bracket is read, and the closing one if it
comes next. -/
def loose : Reader Json := do
  let b ← peek
  if b = ascii '[' then
    advance
    endList
  else if b = ascii '\x7b' then
    advance
    if (← peek) = ascii '\x7d' then advance else fail .malformed
  else if b = ascii '"' then
    advance
    fun bytes => .ok ((), afterString false bytes)
  else if b = ascii '-' ∨ (digit? b).isSome then
    if (← numeral .grammar).leavesDigits then fail .malformed
  else passScalar .grammar b
  return .null

end Reader
end ContentStore.Json
