import ContentStore.Proofs.JsonReading
import Mathlib.Data.String.Basic

/-!
# The order of texts

Texts are compared by their characters, and the tables compare them by their bytes. UTF-8 makes the
two orders one: the bytes of a smaller character come before those of a larger one, whatever follows
either of them (`utf8EncodeChar_append_lt`), so the first character in which two texts differ
decides both comparisons (`utf8_lt_iff`).
-/

namespace ContentStore.Text

variable {c d : Char} {cs ds : List Char} {a b : String}

theorem toNat_val_lt (c : Char) : c.val.toNat < 0x110000 := by
  rcases c.valid with low | ⟨-, high⟩
  · exact Nat.lt_trans low (by decide)
  · exact high

/-- The bytes of a smaller character come first, whatever follows. -/
theorem utf8EncodeChar_append_lt (less : c < d) (u v : List UInt8) :
    String.utf8EncodeChar c ++ u < String.utf8EncodeChar d ++ v := by
  have codes : c.val.toNat < d.val.toNat := less
  have bound := toNat_val_lt d
  -- A longer encoding starts with a larger byte; encodings of one length compare digit by digit.
  fun_cases String.utf8EncodeChar c <;> fun_cases String.utf8EncodeChar d <;>
    simp only [List.cons_append, List.nil_append, List.cons_lt_cons_iff, UInt8.lt_iff_toNat_lt,
      ← UInt8.toNat_inj, UInt8.toNat_ofNat']
  case case4.case4 m _ _ _ n _ _ _ =>
    have top : n / 262144 < 8 := by omega
    rcases Nat.lt_trichotomy (m / 262144) (n / 262144) with first | first | first
    · left; omega
    · right
      refine ⟨by omega, ?_⟩
      rcases Nat.lt_trichotomy (m / 4096) (n / 4096) with second | second | second
      · left; omega
      · right; omega
      · omega
    · omega
  all_goals omega

theorem spell_lt_spell (less : cs < ds) : spell cs < spell ds := by
  induction cs generalizing ds with
  | nil =>
      cases ds with
      | nil => exact absurd less (List.not_lt_nil _)
      | cons d ds =>
          obtain ⟨x, xs, starts⟩ : ∃ x xs, String.utf8EncodeChar d = x :: xs :=
            List.exists_cons_of_ne_nil String.utf8EncodeChar_ne_nil
          rw [spell_cons, starts]
          exact List.nil_lt_cons _ _
  | cons c cs ih =>
      cases ds with
      | nil => exact absurd less (List.not_lt_nil _)
      | cons d ds =>
          rw [spell_cons, spell_cons]
          rcases List.cons_lt_cons_iff.mp less with first | ⟨rfl, later⟩
          · exact utf8EncodeChar_append_lt first _ _
          · exact List.append_left_lt (ih later)

/-- Texts are ordered as their bytes are. -/
theorem utf8_lt_iff : utf8 a < utf8 b ↔ a < b := by
  have onward {a b : String} (less : a < b) : utf8 a < utf8 b := by
    rw [← spell_toList, ← spell_toList]
    exact spell_lt_spell (String.lt_iff_toList_lt.mp less)
  constructor
  · intro bytes
    by_contra notLess
    rcases lt_or_eq_of_le (not_lt.mp notLess) with less | rfl
    · exact List.lt_asymm bytes (onward less)
    · exact List.lt_irrefl _ bytes
  · exact onward

end ContentStore.Text
