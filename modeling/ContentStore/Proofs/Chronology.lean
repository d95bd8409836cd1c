import ContentStore.Time.Instant
import Mathlib.Algebra.GroupWithZero.Nat
import Mathlib.Data.String.Basic

/-!
# Times as texts

Rows keep their times as texts, and texts are compared from the left, character by character. For
the years 0 to 9999 that is the order of time (`Instant.storedText_le_iff`), although the texts
differ in length: the fraction of a second has 0, 3, 6 or 9 digits, and the zone follows it.

What a clock shows stands between the two. `Instant.reading` is a list of numbers from the year down
to the nanosecond; a later instant has a greater one (`Instant.reading_lt`), and of two readings the
greater one has the greater text (`Instant.storedText_lt_of_reading`).
-/

namespace ContentStore.Time

/-! ### Dates -/

section Dates

variable {a b day : Int} {m i j : Nat} {lengths : List Nat}

theorem daysBeforeYear_mono (le : a ≤ b) : daysBeforeYear a ≤ daysBeforeYear b := by
  unfold daysBeforeYear
  omega

theorem yearOfDay_mono (le : a ≤ b) : yearOfDay a ≤ yearOfDay b := by
  by_contra later
  have starts := daysBeforeYear_mono (show yearOfDay b + 1 ≤ yearOfDay a by omega)
  have boundsA := yearOfDay_bounds a
  have boundsB := yearOfDay_bounds b
  omega

/-- A year is over after its twelve months. -/
theorem sum_monthLengths (year : Int) :
    ((monthLengths (isLeap year)).sum : Int) = daysBeforeYear (year + 1) - daysBeforeYear year := by
  have sums : (monthLengths false).sum = 365 ∧ (monthLengths true).sum = 366 := by decide
  unfold daysBeforeYear
  cases leap : isLeap year with
  | false =>
      simp [isLeap] at leap
      omega
  | true =>
      simp [isLeap] at leap
      omega

theorem le_monthOfDay (m i : Nat) (lengths : List Nat) : m ≤ (monthOfDay m i lengths).1 := by
  induction lengths generalizing m i with
  | nil => exact Nat.le_refl m
  | cons length rest ih =>
      rw [monthOfDay]
      split
      · exact Nat.le_refl m
      · exact Nat.le_of_succ_le (ih (m + 1) (i - length))

/-- A later day lies in a later month, or later in the same one. -/
theorem monthOfDay_lt (less : i < j) :
    (monthOfDay m i lengths).1 < (monthOfDay m j lengths).1 ∨
      (monthOfDay m i lengths).1 = (monthOfDay m j lengths).1 ∧
        (monthOfDay m i lengths).2 < (monthOfDay m j lengths).2 := by
  induction lengths generalizing m i j with
  | nil => exact .inr ⟨rfl, Nat.succ_lt_succ less⟩
  | cons length rest ih =>
      rw [monthOfDay, monthOfDay]
      by_cases here : j < length
      · rw [if_pos here, if_pos (less.trans here)]
        exact .inr ⟨rfl, Nat.succ_lt_succ less⟩
      · rw [if_neg here]
        split
        · exact .inl (le_monthOfDay (m + 1) (j - length) rest)
        · exact ih (by omega)

theorem monthOfDay_bounds (within : i < lengths.sum) (short : ∀ n ∈ lengths, n ≤ 31) :
    (monthOfDay m i lengths).1 < m + lengths.length ∧ (monthOfDay m i lengths).2 ≤ 31 := by
  induction lengths generalizing m i with
  | nil => simp at within
  | cons length rest ih =>
      obtain ⟨first, later⟩ := List.forall_mem_cons.mp short
      rw [List.sum_cons] at within
      rw [monthOfDay, List.length_cons]
      split
      · dsimp only
        omega
      · have bounds := ih (m := m + 1) (i := i - length) (by omega) later
        omega

theorem Date.ofDays_bounds (day : Int) : (ofDays day).month ≤ 12 ∧ (ofDays day).day ≤ 31 := by
  have bounds := yearOfDay_bounds day
  have whole := sum_monthLengths (yearOfDay day)
  have months : ∀ leap, (monthLengths leap).length = 12 ∧ ∀ n ∈ monthLengths leap, n ≤ 31 := by
    decide
  obtain ⟨twelve, short⟩ := months (isLeap (yearOfDay day))
  obtain ⟨month, dayOfMonth⟩ := monthOfDay_bounds (m := 1)
    (i := (day - daysBeforeYear (yearOfDay day)).toNat) (by omega) short
  rw [twelve] at month
  exact ⟨Nat.le_of_lt_succ month, dayOfMonth⟩

/-- A later day has a later date. -/
theorem Date.ofDays_lt (less : a < b) :
    (ofDays a).year < (ofDays b).year ∨ (ofDays a).year = (ofDays b).year ∧
      ((ofDays a).month < (ofDays b).month ∨ (ofDays a).month = (ofDays b).month ∧
        (ofDays a).day < (ofDays b).day) := by
  rcases (yearOfDay_mono less.le).lt_or_eq with earlier | same
  · exact .inl earlier
  · have boundsA := yearOfDay_bounds a
    rw [same] at boundsA
    refine .inr ⟨same, ?_⟩
    simp only [ofDays, same]
    exact monthOfDay_lt (by omega)

end Dates

/-! ### Numbers of a fixed width -/

namespace Instant

section Digits

variable {m n w k k' : Nat} {u v : List Char} {c mark : Char}

/-- A smaller number comes first, whatever follows. -/
theorem digits_append_lt (less : m < n) (fits : n < 10 ^ w) (u v : List Char) :
    digits w m ++ u < digits w n ++ v := by
  induction w generalizing m n u v with
  | zero => omega
  | succ w ih =>
      rw [Nat.pow_succ] at fits
      simp only [digits, List.append_assoc, List.singleton_append]
      rcases Nat.lt_or_ge (m / 10) (n / 10) with front | front
      · exact ih front (by omega) _ _
      · rw [show m / 10 = n / 10 by omega]
        refine List.append_left_lt (List.cons_lt_cons_iff.mpr (.inl ?_))
        have codes : ∀ i j : Fin 10, i < j → Char.ofNat (48 + i) < Char.ofNat (48 + j) := by decide
        exact codes ⟨m % 10, by omega⟩ ⟨n % 10, by omega⟩ (show m % 10 < n % 10 by omega)

/-- Where a number and what follows it are compared. -/
theorem digits_cons_lt (fits : n < 10 ^ w) (less : m < n ∨ m = n ∧ u < v) :
    digits w m ++ mark :: u < digits w n ++ mark :: v := by
  rcases less with less | ⟨rfl, less⟩
  · exact digits_append_lt less fits _ _
  · exact List.append_left_lt (List.cons_lt_cons_iff.mpr (.inr ⟨rfl, less⟩))

theorem digits_add (w k n : Nat) : digits (w + k) n = digits w (n / 10 ^ k) ++ digits k n := by
  induction k generalizing n with
  | zero => simp [digits]
  | succ k ih =>
      rw [← Nat.add_assoc, digits, ih, digits, Nat.div_div_eq_div_mul, ← Nat.pow_succ',
        List.append_assoc]

theorem zero_le_of_mem_digits (mem : c ∈ digits w n) : '0' ≤ c := by
  induction w generalizing n with
  | zero => cases mem
  | succ w ih =>
      rcases List.mem_append.mp mem with front | last
      · exact ih front
      · have codes : ∀ i : Fin 10, '0' ≤ Char.ofNat (48 + i) := by decide
        rw [List.mem_singleton.mp last]
        exact codes ⟨n % 10, Nat.mod_lt _ (by decide)⟩

theorem length_digits (w n : Nat) : (digits w n).length = w := by
  induction w generalizing n with
  | zero => rfl
  | succ w ih => rw [digits, List.length_append, ih, List.length_singleton]

/-- A decimal that is cut goes on behind the place of an earlier cut. -/
theorem digits_cut {total j : Nat} (le : k + j ≤ total) (n : Nat) :
    digits (k + j) (n / 10 ^ (total - (k + j))) =
      digits k (n / 10 ^ (total - k)) ++ digits j (n / 10 ^ (total - (k + j))) := by
  have places : 10 ^ (total - (k + j)) * 10 ^ j = 10 ^ (total - k) := by
    rw [← Nat.pow_add]
    congr 1
    omega
  rw [digits_add, Nat.div_div_eq_div_mul, places]

/-- Decimals without their last zeros are ordered as they are in full, if what ends them comes
before any digit. -/
theorem decimals_lt {total : Nat} (less : m < n) (fits : n < 10 ^ total) (le : k ≤ total)
    (le' : k' ≤ total) (exact : 10 ^ (total - k) ∣ m) (exact' : 10 ^ (total - k') ∣ n)
    (ends : mark < '0') :
    digits k (m / 10 ^ (total - k)) ++ mark :: u <
      digits k' (n / 10 ^ (total - k')) ++ mark :: v := by
  have narrow {k : Nat} (le : k ≤ total) : n / 10 ^ (total - k) < 10 ^ k := by
    refine Nat.div_lt_of_lt_mul ?_
    rw [← Nat.pow_add, Nat.sub_add_cancel le]
    exact fits
  -- Both are cut to the shorter width. Only there can they agree, and then the longer one goes on.
  rcases Nat.le_total k k' with short | short
  · obtain ⟨j, rfl⟩ := Nat.exists_eq_add_of_le short
    rw [digits_cut le', List.append_assoc]
    have front : m / 10 ^ (total - k) ≤ n / 10 ^ (total - k) := Nat.div_le_div_right less.le
    rcases front.lt_or_eq with before | same
    · exact digits_append_lt before (narrow le) _ _
    · cases j with
      | zero => exact absurd ((Nat.div_left_inj exact exact').mp same) less.ne
      | succ j =>
          obtain ⟨c, rest, more⟩ := List.exists_cons_of_length_eq_add_one
            (length_digits (j + 1) (n / 10 ^ (total - (k + (j + 1)))))
          have digit : '0' ≤ c := zero_le_of_mem_digits (more ▸ List.mem_cons_self)
          rw [same, more]
          exact List.append_left_lt (List.cons_lt_cons_iff.mpr (.inl (ends.trans_le digit)))
  · obtain ⟨j, rfl⟩ := Nat.exists_eq_add_of_le short
    rw [digits_cut le, List.append_assoc]
    exact digits_append_lt (Nat.div_lt_div_of_lt_of_dvd exact' less) (narrow le') _ _

theorem fractionText_of_ne_zero (some : n ≠ 0) :
    ∃ k ≤ 9, 10 ^ (9 - k) ∣ n ∧ fractionText n = '.' :: digits k (n / 10 ^ (9 - k)) := by
  unfold fractionText
  rw [if_neg some]
  split
  · next milli => exact ⟨3, by decide, Nat.dvd_of_mod_eq_zero milli, rfl⟩
  · split
    · next micro => exact ⟨6, by decide, Nat.dvd_of_mod_eq_zero micro, rfl⟩
    · exact ⟨9, by decide, Nat.one_dvd n, by rw [Nat.sub_self, Nat.pow_zero, Nat.div_one]⟩

/-- Fractions of a second are ordered as nanoseconds are, with the sign of the zone behind them. -/
theorem fractionText_append_lt (less : m < n) (fits : n < 1000000000) :
    fractionText m ++ '+' :: u < fractionText n ++ '+' :: v := by
  obtain ⟨k', le', exact', text'⟩ := fractionText_of_ne_zero (Nat.ne_zero_of_lt less)
  rw [text', List.cons_append]
  by_cases whole : m = 0
  · rw [whole]
    exact List.cons_lt_cons_iff.mpr (.inl (by decide))
  · obtain ⟨k, le, exact, text⟩ := fractionText_of_ne_zero whole
    rw [text, List.cons_append]
    refine List.cons_lt_cons_iff.mpr (.inr ⟨rfl, ?_⟩)
    exact decimals_lt less fits le le' exact exact' (by decide)

end Digits

/-! ### Instants -/

/-- An instant of the years 0 to 9999, which have four digits. Only the last second of a minute has
a leap second behind it. -/
structure IsPlain (t : Instant) : Prop where
  since : yearStart 0 ≤ t.seconds
  before : t.seconds < yearStart 10000
  nanos : t.nanos < 1000000000 ∨ t.nanos < 2000000000 ∧ t.seconds % 60 = 59

instance (t : Instant) : Decidable t.IsPlain :=
  decidable_of_iff
    (yearStart 0 ≤ t.seconds ∧ t.seconds < yearStart 10000 ∧
      (t.nanos < 1000000000 ∨ t.nanos < 2000000000 ∧ t.seconds % 60 = 59))
    ⟨fun ⟨since, before, nanos⟩ => ⟨since, before, nanos⟩,
      fun ⟨since, before, nanos⟩ => ⟨since, before, nanos⟩⟩

/-- What a clock shows, from the year down to the nanosecond. -/
def reading (t : Instant) : List Nat :=
  [t.date.year.toNat, t.date.month, t.date.day, t.secondOfDay / 3600, t.secondOfDay / 60 % 60,
    t.secondOfDay % 60 + t.nanos / 1000000000, t.nanos % 1000000000]

variable {t u : Instant}

theorem le_eq_false_iff :
    u.le t = false ↔ t.seconds < u.seconds ∨ t.seconds = u.seconds ∧ t.nanos < u.nanos := by
  rw [Bool.eq_false_iff, ne_eq, le]
  simp only [Bool.or_eq_true, Bool.and_eq_true, decide_eq_true_eq]
  omega

theorem IsPlain.year (plain : t.IsPlain) : 0 ≤ t.date.year ∧ t.date.year ≤ 9999 := by
  have ends : yearStart 0 = 86400 * -719528 ∧ yearStart 10000 = 86400 * (3652425 - 719528) := by
    decide
  have known : yearOfDay 0 = 0 ∧ yearOfDay 3652424 = 9999 := by decide
  have since := plain.since
  have before := plain.before
  have low := yearOfDay_mono (a := 0) (b := t.seconds / 86400 + epochDay) (by
    unfold epochDay
    omega)
  have high := yearOfDay_mono (a := t.seconds / 86400 + epochDay) (b := 3652424) (by
    unfold epochDay
    omega)
  rw [known.1] at low
  rw [known.2] at high
  exact ⟨low, high⟩

theorem timeOfDay_lt {i j : Nat} (less : i < j) :
    i / 3600 < j / 3600 ∨ i / 3600 = j / 3600 ∧
      (i / 60 % 60 < j / 60 % 60 ∨ i / 60 % 60 = j / 60 % 60 ∧ i % 60 < j % 60) := by
  omega

/-- A later instant has a greater reading. -/
theorem reading_lt (plain : t.IsPlain) (plain' : u.IsPlain) (earlier : u.le t = false) :
    t.reading < u.reading := by
  have order := le_eq_false_iff.mp earlier
  have nanos := plain.nanos
  have nanos' := plain'.nanos
  simp only [reading, List.cons_lt_cons_iff]
  rcases lt_trichotomy (t.seconds / 86400) (u.seconds / 86400) with day | day | day
  · have years := plain.year
    have dates : t.date.year < u.date.year ∨ t.date.year = u.date.year ∧
        (t.date.month < u.date.month ∨ t.date.month = u.date.month ∧ t.date.day < u.date.day) :=
      Date.ofDays_lt (by omega)
    omega
  · have dates : t.date = u.date := by rw [date, date, day]
    rw [dates]
    rcases order with earlier | ⟨same, earlier⟩
    · have times := timeOfDay_lt (i := t.secondOfDay) (j := u.secondOfDay) (by
        unfold secondOfDay
        omega)
      -- A leap second is the last one of its minute, so none lies between the two within one.
      have plain : t.secondOfDay % 60 < u.secondOfDay % 60 → t.nanos < 1000000000 := by
        unfold secondOfDay
        omega
      omega
    · have times : t.secondOfDay = u.secondOfDay := by rw [secondOfDay, secondOfDay, same]
      rw [times]
      omega
  · omega

/-- A greater reading has a greater text. -/
theorem storedText_lt_of_reading (plain : t.IsPlain) (plain' : u.IsPlain)
    (less : t.reading < u.reading) : t.storedText < u.storedText := by
  have year := plain.year
  have year' := plain'.year
  have nanos' := plain'.nanos
  obtain ⟨month, day⟩ := Date.ofDays_bounds (u.seconds / 86400 + epochDay)
  rw [← date] at month day
  have second : u.secondOfDay < 86400 := by
    unfold secondOfDay
    omega
  simp only [reading, List.cons_lt_cons_iff, List.not_lt_nil, and_false, or_false] at less
  rw [String.lt_iff_toList_lt, storedText, storedText, String.toList_ofList, String.toList_ofList]
  simp only [clockText, yearText, if_pos year, if_pos year', List.append_assoc, List.cons_append]
  -- Year, month, day, hour and minute, each with the mark behind it; then the second.
  refine digits_cons_lt (by omega) (less.imp_right (And.imp_right fun less => ?_))
  refine digits_cons_lt (by omega) (less.imp_right (And.imp_right fun less => ?_))
  refine digits_cons_lt (by omega) (less.imp_right (And.imp_right fun less => ?_))
  refine digits_cons_lt (by omega) (less.imp_right (And.imp_right fun less => ?_))
  refine digits_cons_lt (by omega) (less.imp_right (And.imp_right fun less => ?_))
  rcases less with less | ⟨same, less⟩
  · exact digits_append_lt less (by omega) _ _
  · rw [same]
    exact List.append_left_lt (fractionText_append_lt less (Nat.mod_lt _ (by decide)))

/-- An earlier instant has a smaller text. -/
theorem storedText_lt (plain : t.IsPlain) (plain' : u.IsPlain) (earlier : u.le t = false) :
    t.storedText < u.storedText :=
  storedText_lt_of_reading plain plain' (reading_lt plain plain' earlier)

theorem le_iff_of_ne (differ : t ≠ u) : t.le u = true ↔ u.le t = false := by
  rw [le_eq_false_iff]
  obtain ⟨seconds, nanos⟩ := t
  obtain ⟨seconds', nanos'⟩ := u
  rw [ne_eq, mk.injEq] at differ
  simp only [le, Bool.or_eq_true, Bool.and_eq_true, decide_eq_true_eq]
  omega

/-- The texts of instants are ordered as the instants are. -/
theorem storedText_le_iff (plain : t.IsPlain) (plain' : u.IsPlain) :
    t.storedText ≤ u.storedText ↔ t.le u = true := by
  constructor
  · intro le
    by_contra later
    have after := storedText_lt plain' plain (Bool.eq_false_iff.mpr later)
    exact absurd le (not_le.mpr after)
  · intro before
    by_cases same : t = u
    · rw [same]
    · exact (storedText_lt plain plain' ((le_iff_of_ne same).mp before)).le

/-- The text tells the instant. -/
theorem storedText_inj (plain : t.IsPlain) (plain' : u.IsPlain)
    (same : t.storedText = u.storedText) : t = u := by
  by_contra differ
  cases before : t.le u with
  | true => exact (storedText_lt plain plain' ((le_iff_of_ne differ).mp before)).ne same
  | false => exact (storedText_lt plain' plain before).ne same.symm

end Instant
end ContentStore.Time
