/-!
# Dates

The proleptic Gregorian calendar as a count of days. `Date.ofDays` finds the year as the last one
that starts no later than the day, and the month by walking the lengths of the months, so a later
day has a later date by the order of year, month and day. `Date.days?` counts back.
-/

namespace ContentStore.Time

/-- A date of the calendar; year 0 is the year before year 1. -/
structure Date where
  year : Int
  month : Nat
  day : Nat
  deriving DecidableEq, Repr

/-- The days from the first day of year 0 to the first day of `year`. -/
def daysBeforeYear (year : Int) : Int :=
  365 * year + (year + 3) / 4 - (year + 99) / 100 + (year + 399) / 400

/-- Whether a year has 366 days. -/
def isLeap (year : Int) : Bool :=
  year % 4 = 0 && (year % 100 ≠ 0 || year % 400 = 0)

/-- The days of the twelve months of a year. -/
def monthLengths (leap : Bool) : List Nat :=
  [31, if leap then 29 else 28, 31, 30, 31, 30, 31, 31, 30, 31, 30, 31]

/-- The last year that starts no later than `day`. An estimate from the mean length of a year is
off by one at most. -/
def yearOfDay (day : Int) : Int :=
  let guess := 400 * day / 146097
  if day < daysBeforeYear guess then guess - 1
  else if daysBeforeYear (guess + 1) ≤ day then guess + 1
  else guess

/-- The month, counted from `month`, and the day of it, that lie `day` days on. -/
def monthOfDay (month day : Nat) : List Nat → Nat × Nat
  | [] => (month, day + 1)
  | length :: rest =>
    if day < length then (month, day + 1) else monthOfDay (month + 1) (day - length) rest

/-- The date that lies `day` days after the first day of year 0. -/
def Date.ofDays (day : Int) : Date :=
  let year := yearOfDay day
  let within := monthOfDay 1 (day - daysBeforeYear year).toNat (monthLengths (isLeap year))
  ⟨year, within.1, within.2⟩

/-- The days from the first day of year 0, if the year has such a month and the month such a
day. -/
def Date.days? (d : Date) : Option Int :=
  let lengths := monthLengths (isLeap d.year)
  match lengths[d.month - 1]? with
  | none => none
  | some length =>
    if 1 ≤ d.month ∧ 1 ≤ d.day ∧ d.day ≤ length then
      some (daysBeforeYear d.year +
        ((lengths.take (d.month - 1)).foldl (· + ·) 0 + (d.day - 1) : Nat))
    else none

/-- A year starts no later than each of its days, and the next one starts after them. -/
theorem yearOfDay_bounds (day : Int) :
    daysBeforeYear (yearOfDay day) ≤ day ∧ day < daysBeforeYear (yearOfDay day + 1) := by
  unfold yearOfDay
  simp only
  split
  · rw [Int.sub_add_cancel]
    simp only [daysBeforeYear] at *
    omega
  · split <;> simp only [daysBeforeYear] at * <;> omega

end ContentStore.Time
