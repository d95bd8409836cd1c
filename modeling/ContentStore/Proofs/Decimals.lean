import ContentStore.Json.Value
import ContentStore.Text.Integer
import Mathlib.Data.List.Basic

/-!
# Decimal integers

Which texts are read as integers, and as which ones. A text is read exactly if it is a numeral,
perhaps with a sign in front of its digits, whose value has its place in the range: zeros in front
do not count, however many there are, and a digit that leaves the range is never made good by those
behind it, since they only make the number larger (`readMagnitude_eq_ok_iff`).
-/

namespace ContentStore.Text

variable {c : Char} {cs : List Char} {limit m n : Nat} {past : IntegerFault} {text : String}

/-- Decimal digits, at least one. -/
structure IsNumeral (digits : List Char) : Prop where
  ne_nil : digits ≠ []
  digits : ∀ c ∈ digits, c.isDigit = true

instance (digits : List Char) : Decidable (IsNumeral digits) :=
  -- Going through the list, and not through all characters that there are.
  decidable_of_iff (digits ≠ [] ∧ digits.all Char.isDigit) <| by
    rw [List.all_eq_true]
    exact ⟨fun ⟨ne_nil, all⟩ => ⟨ne_nil, all⟩, fun numeral => ⟨numeral.ne_nil, numeral.digits⟩⟩

/-- An integer in decimal digits, with a sign in front of them or without. -/
inductive Decimal : List Char → Int → Prop where
  | unsigned {digits : List Char} : IsNumeral digits →
      Decimal digits (Nat.ofDigitChars 10 digits 0)
  | plus {digits : List Char} : IsNumeral digits →
      Decimal ('+' :: digits) (Nat.ofDigitChars 10 digits 0)
  | minus {digits : List Char} : IsNumeral digits →
      Decimal ('-' :: digits) (-(Nat.ofDigitChars 10 digits 0 : Int))

/-! ### Digits -/

theorem isDigit_iff : c.isDigit = true ↔ 48 ≤ c.toNat ∧ c.toNat ≤ 57 := by
  simp only [Char.isDigit, Bool.and_eq_true, decide_eq_true_eq, ge_iff_le, UInt32.le_iff_toNat_le]
  rfl

theorem digitValue?_of_isDigit (digit : c.isDigit = true) : digitValue? c = some (c.toNat - 48) :=
  if_pos (isDigit_iff.mp digit)

theorem digitValue?_of_not_isDigit (noDigit : c.isDigit = false) : digitValue? c = none := by
  refine if_neg fun range => ?_
  rw [isDigit_iff.mpr range] at noDigit
  cases noDigit

/-- Digits behind a number make it no smaller. -/
theorem le_ofDigitChars (n : Nat) (cs : List Char) : n ≤ Nat.ofDigitChars 10 cs n := by
  rw [Nat.ofDigitChars_eq_ofDigitChars_zero]
  have grows := Nat.le_mul_of_pos_left n (Nat.pow_pos (n := cs.length) (show 0 < 10 by decide))
  omega

/-! ### Reading -/

/-- Digits behind a number are read exactly if the number that they make stays within the limit. -/
theorem readMagnitude_eq_ok_iff (within : n ≤ limit) :
    readMagnitude limit past n cs = .ok m ↔
      (∀ c ∈ cs, c.isDigit = true) ∧ Nat.ofDigitChars 10 cs n = m ∧ m ≤ limit := by
  induction cs generalizing n with
  | nil =>
      simp only [readMagnitude, Except.ok.injEq, List.not_mem_nil, false_implies, implies_true,
        true_and, Nat.ofDigitChars_nil]
      constructor
      · rintro rfl
        exact ⟨rfl, within⟩
      · exact fun read => read.1
  | cons c cs ih =>
      rw [readMagnitude, List.forall_mem_cons, Nat.ofDigitChars_cons]
      cases digit : c.isDigit with
      | false => simp [digitValue?_of_not_isDigit digit]
      | true =>
          rw [digitValue?_of_isDigit digit]
          simp only [true_and]
          by_cases fits : 10 * n + (c.toNat - 48) ≤ limit
          · rw [if_pos fits]
            exact ih fits
          · rw [if_neg fits]
            have large := le_ofDigitChars (10 * n + (c.toNat - '0'.toNat)) cs
            have zero : '0'.toNat = 48 := rfl
            simp only [reduceCtorEq, false_iff, not_and]
            rintro - rfl
            omega

/-- Digits are read as a numeral within the limit, whatever is then made of the number. -/
theorem map_readMagnitude_eq_ok_iff {α : Type} {f : Nat → α} {a : α} (ne_nil : cs ≠ []) :
    (readMagnitude limit past 0 cs).map f = .ok a ↔
      IsNumeral cs ∧ Nat.ofDigitChars 10 cs 0 ≤ limit ∧ f (Nat.ofDigitChars 10 cs 0) = a := by
  have exact (m : Nat) : readMagnitude limit past 0 cs = .ok m ↔
      (∀ c ∈ cs, c.isDigit = true) ∧ Nat.ofDigitChars 10 cs 0 = m ∧ m ≤ limit :=
    readMagnitude_eq_ok_iff (Nat.zero_le limit)
  constructor
  · intro read
    cases ran : readMagnitude limit past 0 cs with
    | error fault =>
        rw [ran] at read
        cases read
    | ok m =>
        rw [ran] at read
        cases read
        obtain ⟨digits, rfl, within⟩ := (exact m).mp ran
        exact ⟨⟨ne_nil, digits⟩, within, rfl⟩
  · rintro ⟨numeral, within, rfl⟩
    rw [(exact _).mpr ⟨numeral.digits, rfl, within⟩]
    rfl

theorem map_bind_pure {ε α β γ : Type} {x : Except ε α} {f : α → β} {g : β → γ} :
    (x >>= fun a => pure (f a)).map g = x.map (g ∘ f) := by
  cases x <;> rfl

theorem not_isNumeral_of_not_isDigit (noDigit : c.isDigit = false) : ¬IsNumeral (c :: cs) := by
  intro numeral
  have digit := numeral.digits c List.mem_cons_self
  rw [noDigit] at digit
  cases digit

theorem decimal_minus_iff {v : Int} :
    Decimal ('-' :: cs) v ↔ IsNumeral cs ∧ -(Nat.ofDigitChars 10 cs 0 : Int) = v := by
  constructor
  · intro decimal
    cases decimal with
    | unsigned numeral => exact absurd numeral (not_isNumeral_of_not_isDigit rfl)
    | minus numeral => exact ⟨numeral, rfl⟩
  · rintro ⟨numeral, rfl⟩
    exact .minus numeral

theorem decimal_plus_iff {v : Int} :
    Decimal ('+' :: cs) v ↔ IsNumeral cs ∧ (Nat.ofDigitChars 10 cs 0 : Int) = v := by
  constructor
  · intro decimal
    cases decimal with
    | unsigned numeral => exact absurd numeral (not_isNumeral_of_not_isDigit rfl)
    | plus numeral => exact ⟨numeral, rfl⟩
  · rintro ⟨numeral, rfl⟩
    exact .plus numeral

theorem decimal_unsigned_iff {v : Int} (noMinus : ∀ digits, cs ≠ '-' :: digits)
    (noPlus : ∀ digits, cs ≠ '+' :: digits) :
    Decimal cs v ↔ IsNumeral cs ∧ (Nat.ofDigitChars 10 cs 0 : Int) = v := by
  constructor
  · intro decimal
    cases decimal with
    | unsigned numeral => exact ⟨numeral, rfl⟩
    | minus numeral => exact absurd rfl (noMinus _)
    | plus numeral => exact absurd rfl (noPlus _)
  · rintro ⟨numeral, rfl⟩
    exact .unsigned numeral

/-- A text is read as an integer of 64 bits exactly if it is one in decimal digits. -/
theorem readInt64_eq_ok_iff {v : Int} :
    readInt64 text = .ok v ↔ Decimal text.toList v ∧ minInt64 ≤ v ∧ v ≤ maxInt64 := by
  have empty : ¬IsNumeral [] := fun numeral => numeral.ne_nil rfl
  have low : minInt64 = -9223372036854775808 := rfl
  have high : maxInt64 = 9223372036854775807 := rfl
  unfold readInt64
  generalize text.toList = cs
  split
  · have noDecimal : ¬Decimal [] v := by
      intro decimal
      cases decimal with
      | unsigned numeral => exact empty numeral
    simp [noDecimal]
  · simp [decimal_plus_iff, empty]
  · simp [decimal_minus_iff, empty]
  · next digits ne_nil =>
      rw [map_bind_pure, map_readMagnitude_eq_ok_iff ne_nil, decimal_minus_iff, and_assoc, low,
        high]
      refine and_congr_right fun _ => ?_
      dsimp only [Function.comp]
      omega
  · next digits ne_nil =>
      rw [map_readMagnitude_eq_ok_iff ne_nil, decimal_plus_iff, and_assoc, low, high]
      refine and_congr_right fun _ => ?_
      rw [Int.ofNat_eq_natCast]
      omega
  · next digits ne_nil _ _ noMinus noPlus =>
      rw [map_readMagnitude_eq_ok_iff ne_nil, decimal_unsigned_iff noMinus noPlus, and_assoc, low,
        high]
      refine and_congr_right fun _ => ?_
      rw [Int.ofNat_eq_natCast]
      omega

/-! ### Writing -/

theorem isNumeral_toDigits (n : Nat) : IsNumeral (Nat.toDigits 10 n) where
  ne_nil := Nat.toDigits_ne_nil
  digits _ mem := Nat.isDigit_of_mem_toDigits (by decide) (by decide) mem

theorem decimal_digitsOf (v : Int) : Decimal (Json.digitsOf v) v := by
  unfold Json.digitsOf
  have value : Nat.ofDigitChars 10 (Nat.toDigits 10 v.natAbs) 0 = v.natAbs :=
    Nat.ofDigitChars_ten_toDigits
  by_cases negative : v < 0
  · rw [if_pos negative, decimal_minus_iff, value]
    exact ⟨isNumeral_toDigits _, by omega⟩
  · rw [if_neg negative]
    have decimal := Decimal.unsigned (isNumeral_toDigits v.natAbs)
    rwa [value, Int.natAbs_of_nonneg (Int.not_lt.mp negative)] at decimal

end ContentStore.Text
