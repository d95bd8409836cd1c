import ContentStore.Time.Date

/-!
# Instants

Points of time in UTC, to the nanosecond, and how they are written: date, `T`, time of day, a
fraction of 0, 3, 6 or 9 digits (the fewest that lose nothing), and the zone. The calendar ends
with year 262142, and an instant past it does not exist.
-/

namespace ContentStore.Time

/-- Whole seconds since 1970 and the nanoseconds after them. A leap second is written with
nanoseconds of 10⁹ and more, past second 59. -/
structure Instant where
  seconds : Int
  nanos : Nat
  deriving DecidableEq, Repr

/-- The days from the first day of year 0 to the first day of 1970. -/
def epochDay : Int := 719528

/-- The first and the last year of the calendar. -/
def firstYear : Int := -262143

@[inherit_doc firstYear]
def lastYear : Int := 262142

/-- The seconds since 1970 at which a year starts. -/
def yearStart (year : Int) : Int :=
  86400 * (daysBeforeYear year - epochDay)

namespace Instant

/-- The order of time. -/
def le (a b : Instant) : Bool :=
  a.seconds < b.seconds || (a.seconds = b.seconds && a.nanos ≤ b.nanos)

/-- Whether the calendar holds the instant. -/
def inCalendar (t : Instant) : Bool :=
  yearStart firstYear ≤ t.seconds && t.seconds < yearStart (lastYear + 1)

/-- The instant `n` seconds later, if the calendar holds it. -/
def later? (t : Instant) (n : Nat) : Option Instant :=
  let u : Instant := ⟨t.seconds + n, t.nanos⟩
  if u.inCalendar then some u else none

/-- The date of the instant. -/
def date (t : Instant) : Date :=
  Date.ofDays (t.seconds / 86400 + epochDay)

/-- The second of the day, from 0 to 86399. -/
def secondOfDay (t : Instant) : Nat :=
  (t.seconds % 86400).toNat

/-! ### Writing -/

/-- The last `width` decimal digits of a number, with zeros in front. -/
def digits : (width : Nat) → Nat → List Char
  | 0, _ => []
  | width + 1, n => digits width (n / 10) ++ [Char.ofNat (48 + n % 10)]

/-- A year of four digits, or a sign and at least four digits outside 0 to 9999. -/
def yearText (year : Int) : List Char :=
  if 0 ≤ year ∧ year ≤ 9999 then digits 4 year.toNat
  else
    let size := year.natAbs
    let sign := if year < 0 then '-' else '+'
    sign :: digits (max 4 (Nat.toDigits 10 size).length) size

/-- The fraction of a second: nothing, or a point and 3, 6 or 9 digits. -/
def fractionText (nanos : Nat) : List Char :=
  if nanos = 0 then []
  else if nanos % 1000000 = 0 then '.' :: digits 3 (nanos / 1000000)
  else if nanos % 1000 = 0 then '.' :: digits 6 (nanos / 1000)
  else '.' :: digits 9 nanos

/-- Date and time of day, without a zone. -/
def clockText (t : Instant) : List Char :=
  let d := t.date
  let s := t.secondOfDay
  yearText d.year ++ '-' :: digits 2 d.month ++ '-' :: digits 2 d.day ++
    'T' :: digits 2 (s / 3600) ++ ':' :: digits 2 (s / 60 % 60) ++
    ':' :: digits 2 (s % 60 + t.nanos / 1000000000) ++ fractionText (t.nanos % 1000000000)

/-- The instant as answers show it, with `Z` for UTC. -/
def text (t : Instant) : String :=
  String.ofList (clockText t ++ ['Z'])

/-- The instant as rows keep it, with `+00:00` for UTC. -/
def storedText (t : Instant) : String :=
  String.ofList (clockText t ++ ['+', '0', '0', ':', '0', '0'])

end Instant
end ContentStore.Time
