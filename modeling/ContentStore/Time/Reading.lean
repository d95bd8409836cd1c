import ContentStore.Text.Blank
import ContentStore.Text.Integer
import ContentStore.Time.Instant

/-!
# Reading instants

The relaxed form of an RFC 3339 time: a date, `T` or a blank, a time of day with an optional
fraction, and a zone (`Z`, `UTC`, or hours and minutes from UTC). Blanks may stand between the
parts, numbers may lack leading zeros, and second 60 is a leap second.
-/

namespace ContentStore.Time

open Text (trimStart digitValue?)

/-- The digits at the start, at most `limit` of them, and the rest. -/
def takeDigits : (limit : Nat) → List Char → List Nat × List Char
  | 0, cs => ([], cs)
  | _, [] => ([], [])
  | limit + 1, c :: rest =>
    match digitValue? c with
    | none => ([], c :: rest)
    | some d => (d :: (takeDigits limit rest).1, (takeDigits limit rest).2)

/-- A number of one to `limit` digits, blanks before it. -/
def takeNumber (limit : Nat) (cs : List Char) : Option (Nat × List Char) :=
  match takeDigits limit (trimStart cs) with
  | ([], _) => none
  | (ds, rest) => some (ds.foldl (fun n d => 10 * n + d) 0, rest)

/-- One given character, blanks before it. -/
def takeMark (mark : Char) (cs : List Char) : Option (List Char) :=
  match trimStart cs with
  | c :: rest => if c = mark then some rest else none
  | [] => none

/-- A year: up to four digits, or a sign and any number of digits. -/
def takeYear (cs : List Char) : Option (Int × List Char) :=
  match trimStart cs with
  | '-' :: c :: rest =>
    if (digitValue? c).isSome then
      (takeNumber (rest.length + 1) (c :: rest)).map fun (n, r) => (-(n : Int), r)
    else none
  | '+' :: c :: rest =>
    if (digitValue? c).isSome then
      (takeNumber (rest.length + 1) (c :: rest)).map fun (n, r) => ((n : Int), r)
    else none
  | cs => (takeNumber 4 cs).map fun (n, r) => ((n : Int), r)

/-- The nanoseconds of a fraction: the first nine digits after a point count. -/
def takeFraction : List Char → Option (Nat × List Char)
  | '.' :: rest =>
    match takeDigits rest.length rest with
    | ([], _) => none
    | (ds, after) =>
      let kept := ds.take 9
      some (kept.foldl (fun n d => 10 * n + d) 0 * Nat.pow 10 (9 - kept.length), after)
  | cs => some (0, cs)

/-- Two digits of an offset from UTC. -/
def takePair : List Char → Option (Nat × List Char)
  | c :: d :: rest =>
    match digitValue? c, digitValue? d with
    | some tens, some ones => some (10 * tens + ones, rest)
    | _, _ => none
  | _ => none

/-- The zone, as seconds east of UTC. -/
def takeZone (cs : List Char) : Option (Int × List Char) :=
  match cs with
  | 'Z' :: rest | 'z' :: rest => some (0, rest)
  | c :: rest =>
    if (cs.take 3).map Char.toUpper = ['U', 'T', 'C'] then some (0, cs.drop 3)
    else if c = '+' ∨ c = '-' ∨ c = '\u2212' then do
      let (hours, rest) ← takePair rest
      let (minutes, rest) ← takePair (rest.dropWhile fun c => c = ':' || Text.isBlank c)
      if minutes < 60 then
        let east : Int := 3600 * hours + 60 * minutes
        some (if c = '+' then east else -east, rest)
      else none
    else none
  | [] => none

/-- The instant of a date and a time of day in a zone. -/
def Instant.ofClock? (date : Date) (hour minute second nanos : Nat) (east : Int) :
    Option Instant := do
  let days ← date.days?
  if hour ≤ 23 ∧ minute ≤ 59 ∧ second ≤ 60 ∧ -86400 < east ∧ east < 86400 then
    let leap := second - 59
    let here : Instant :=
      ⟨86400 * (days - epochDay) + (3600 * hour + 60 * minute + (second - leap) : Nat),
        nanos + 1000000000 * leap⟩
    let utc : Instant := ⟨here.seconds - east, here.nanos⟩
    if here.inCalendar && utc.inCalendar then some utc else none
  else none

/-- Reads an instant; a text that is none gives nothing. -/
def Instant.parse? (s : String) : Option Instant := do
  let (year, cs) ← takeYear s.toList
  let cs ← takeMark '-' cs
  let (month, cs) ← takeNumber 2 cs
  let cs ← takeMark '-' cs
  let (day, cs) ← takeNumber 2 cs
  let cs ← match cs with
    | c :: rest => if c = 'T' ∨ c = 't' ∨ c = ' ' then some rest else none
    | [] => none
  let (hour, cs) ← takeNumber 2 cs
  let cs ← takeMark ':' cs
  let (minute, cs) ← takeNumber 2 cs
  let cs ← takeMark ':' cs
  let (second, cs) ← takeNumber 2 cs
  let (nanos, cs) ← takeFraction cs
  let (east, cs) ← takeZone (trimStart cs)
  if trimStart cs = [] then Instant.ofClock? ⟨year, month, day⟩ hour minute second nanos east
  else none

end ContentStore.Time
