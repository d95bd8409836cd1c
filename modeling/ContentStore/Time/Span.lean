/-!
# Lengths of time

How a length of whole milliseconds is written: in seconds with a fraction that drops trailing
zeros, in milliseconds below one second, and as `0ns` when there is none.
-/

namespace ContentStore.Time

/-- The characters without the zeros at the end. -/
def dropTrailingZeros (cs : List Char) : List Char :=
  (cs.reverse.dropWhile (· = '0')).reverse

/-- The three digits of a number below a thousand. -/
def thousandths (n : Nat) : List Char :=
  [Char.ofNat (48 + n / 100 % 10), Char.ofNat (48 + n / 10 % 10), Char.ofNat (48 + n % 10)]

/-- A length of time in the largest fitting unit. -/
def spanText (milliseconds : Nat) : String :=
  let seconds := milliseconds / 1000
  let rest := milliseconds % 1000
  if seconds > 0 then
    if rest = 0 then toString seconds ++ "s"
    else toString seconds ++ "." ++ String.ofList (dropTrailingZeros (thousandths rest)) ++ "s"
  else if rest > 0 then toString rest ++ "ms"
  else "0ns"

end ContentStore.Time
