import ContentStore.Proofs.Keys

/-!
# Spellings of a hash

A hash is read from digits of either case, so the case of a letter is no part of what a text names:
texts that are the same in lower case name the same hash (`ContentHash.parse_of_toLower`). Reading
sees of a digit only its value, and that the number of bytes is even is seen from the digits, which
have one byte each (`Text.Hex.decode_eq_ok_iff`).
-/

namespace ContentStore

namespace Text.Hex

variable {c : Char} {cs cs' : List Char} {bytes : List UInt8} {position position' : Nat}

/-! ### Digits -/

theorem toNat_toLower (c : Char) :
    c.toLower.toNat = if 65 ≤ c.toNat ∧ c.toNat ≤ 90 then c.toNat + 32 else c.toNat := by
  have upper : (c.val ≥ 'A'.val ∧ c.val ≤ 'Z'.val) ↔ 65 ≤ c.toNat ∧ c.toNat ≤ 90 := by
    simp only [ge_iff_le, UInt32.le_iff_toNat_le]
    rfl
  unfold Char.toLower
  by_cases letter : 65 ≤ c.toNat ∧ c.toNat ≤ 90
  · rw [dif_pos (upper.mpr letter), if_pos letter]
    have bound : c.val.toNat ≤ 90 := letter.2
    change (c.val + ('a'.val - 'A'.val)).toNat = c.val.toNat + 32
    rw [UInt32.toNat_add, show ('a'.val - 'A'.val).toNat = 32 from rfl, Nat.mod_eq_of_lt (by omega)]
  · rw [dif_neg (mt upper.mp letter), if_neg letter]

/-- A digit has the same value in either case. -/
theorem value?_toLower (c : Char) : value? c.toLower = value? c := by
  unfold value?
  rw [toNat_toLower]
  grind

theorem utf8Size_of_value? {n : Nat} (read : value? c = some n) : c.utf8Size = 1 := by
  have ascii : c.toNat ≤ 127 := by
    unfold value? at read
    grind
  exact Char.utf8Size_eq_one_iff.mpr (UInt32.le_iff_toNat_le.mpr ascii)

/-! ### Digits in pairs -/

/-- What can be read has two digits for each byte. -/
theorem digits_of_decodeFrom (read : decodeFrom position cs = .ok bytes) :
    cs.length = 2 * bytes.length ∧ ∀ c ∈ cs, ∃ n, value? c = some n := by
  fun_induction decodeFrom position cs generalizing bytes with
  | case1 => cases read; simp
  | case2 => cases read
  | case3 position c d rest high low valueD valueC bytes' ran ih =>
      cases read
      obtain ⟨length, digits⟩ := ih ran
      refine ⟨by simp only [List.length_cons]; omega, ?_⟩
      rintro x (_ | ⟨_, _ | ⟨_, mem⟩⟩)
      · exact ⟨high, valueC⟩
      · exact ⟨low, valueD⟩
      · exact digits x mem
  | case4 => cases read
  | case5 => cases read
  | case6 => cases read

/-- Of each digit only its value is read. -/
theorem decodeFrom_of_values (read : decodeFrom position cs = .ok bytes)
    (same : cs'.map value? = cs.map value?) : decodeFrom position' cs' = .ok bytes := by
  fun_induction decodeFrom position cs generalizing bytes cs' position' with
  | case1 =>
      cases read
      rw [List.map_eq_nil_iff.mp same]
      rfl
  | case2 => cases read
  | case3 position c d rest high low valueD valueC bytes' ran ih =>
      cases read
      obtain ⟨c', tail, rfl, sameC, same⟩ := List.map_eq_cons_iff.mp same
      obtain ⟨d', rest', rfl, sameD, same⟩ := List.map_eq_cons_iff.mp same
      rw [decodeFrom, sameC, sameD, valueC, valueD]
      dsimp only
      rw [ih ran same]
  | case4 => cases read
  | case5 => cases read
  | case6 => cases read

/-- A text is read as its digits are. -/
theorem decode_eq_ok_iff {text : String} :
    decode text = .ok bytes ↔ decodeFrom 0 text.toList = .ok bytes := by
  unfold decode
  constructor
  · intro read
    split at read
    · cases read
    · exact read
  · intro read
    obtain ⟨length, digits⟩ := digits_of_decodeFrom read
    have single : ∀ c ∈ text.toList, c.utf8Size = 1 := by
      intro c mem
      obtain ⟨n, value⟩ := digits c mem
      exact utf8Size_of_value? value
    have size := length_utf8_ofList single
    rw [String.ofList_toList, length_utf8] at size
    rw [if_neg (by omega), read]

end Text.Hex

namespace ContentHash

variable {text text' : String} {hash : ContentHash}

theorem parse_eq_ok_iff :
    parse text = .ok hash ↔ Text.Hex.decodeFrom 0 text.toList = .ok hash.bytes := by
  rw [← Text.Hex.decode_eq_ok_iff]
  unfold parse
  cases read : Text.Hex.decode text with
  | error fault => simp
  | ok bytes =>
      dsimp only
      constructor
      · intro parsed
        split at parsed
        · cases parsed
          rfl
        · cases parsed
      · intro same
        cases same
        exact dif_pos hash.length_eq

/-- Texts that are the same in lower case name the same hash. -/
theorem parse_of_toLower (parsed : parse text = .ok hash) (same : text'.toLower = text.toLower) :
    parse text' = .ok hash := by
  rw [parse_eq_ok_iff] at parsed ⊢
  have lower : text'.toList.map Char.toLower = text.toList.map Char.toLower := by
    have chars : (text'.map Char.toLower).toList = (text.map Char.toLower).toList :=
      congrArg String.toList same
    rwa [String.toList_map, String.toList_map] at chars
  have values (cs : List Char) :
      (cs.map Char.toLower).map Text.Hex.value? = cs.map Text.Hex.value? := by
    rw [List.map_map]
    exact List.map_congr_left fun c _ => Text.Hex.value?_toLower c
  exact Text.Hex.decodeFrom_of_values parsed (by rw [← values, lower, values])

end ContentHash
end ContentStore
