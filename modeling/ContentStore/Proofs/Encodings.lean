import ContentStore.Http.Query

/-!
# What is written is read back

A text is read back from its bytes, and bytes from their base64, which is spelled in an alphabet
that has no full stop. So a token behind which a listing goes on stands for the storage id that it
was made from. Nothing else is read as bytes: reading is strict about the bits left over, so bytes
have one spelling only (`encodeText_of_decode?`).
-/

namespace ContentStore

namespace Text

theorem ofUtf8?_utf8 (s : String) : ofUtf8? (utf8 s) = some s := by
  have bytes : (⟨(utf8 s).toArray⟩ : ByteArray) = s.toByteArray := by
    rw [utf8, Array.toArray_toList]
  rw [ofUtf8?, bytes, String.fromUTF8?, dif_pos (String.isValidUTF8 s)]
  rfl

theorem utf8_of_ofUtf8? {bytes : List UInt8} {s : String} (read : ofUtf8? bytes = some s) :
    utf8 s = bytes := by
  rw [ofUtf8?, String.fromUTF8?] at read
  split at read
  · cases read
    rfl
  · cases read

namespace Base64Url

/-! ### Digits -/

theorem value?_digit {n : Nat} (small : n < 64) : value? (digit n) = some n := by
  have all : ∀ n : Fin 64, value? (digit n) = some n.val := by decide
  exact all ⟨n, small⟩

theorem digit_ne_stop {n : Nat} (small : n < 64) : digit n ≠ '.' := by
  have all : ∀ n : Fin 64, digit n ≠ '.' := by decide
  exact all ⟨n, small⟩

theorem mapM_value?_map_digit {values : List Nat} (small : ∀ v ∈ values, v < 64) :
    (values.map digit).mapM value? = some values := by
  induction values with
  | nil => rfl
  | cons v values ih =>
      rw [List.map_cons, List.mapM_cons, value?_digit (small v List.mem_cons_self),
        ih fun v' mem => small v' (List.mem_cons_of_mem _ mem)]
      rfl

/-- A digit that has a value is the one for that value. -/
theorem digit_of_value? {c : Char} {n : Nat} (read : value? c = some n) : n < 64 ∧ digit n = c := by
  revert read
  fun_cases value? c with
  | case1 _ upper =>
      rintro ⟨⟩
      refine ⟨by omega, ?_⟩
      rw [digit, if_pos (by omega), Nat.add_sub_cancel' upper.1, Char.ofNat_toNat]
  | case2 _ _ lower =>
      rintro ⟨⟩
      refine ⟨by omega, ?_⟩
      rw [digit, if_neg (by omega), if_pos (by omega), Nat.add_sub_cancel' (by omega),
        Char.ofNat_toNat]
  | case3 _ _ _ number =>
      rintro ⟨⟩
      refine ⟨by omega, ?_⟩
      rw [digit, if_neg (by omega), if_neg (by omega), if_pos (by omega), Nat.add_sub_cancel,
        Char.ofNat_toNat]
  | case4 _ _ _ _ minus => rintro ⟨⟩; exact ⟨by decide, minus.symm⟩
  | case5 _ _ _ _ _ low => rintro ⟨⟩; exact ⟨by decide, low.symm⟩
  | case6 => rintro ⟨⟩

theorem map_digit_of_mapM_value? {cs : List Char} {values : List Nat}
    (read : cs.mapM value? = some values) : (∀ v ∈ values, v < 64) ∧ values.map digit = cs := by
  induction cs generalizing values with
  | nil =>
      cases read
      exact ⟨List.forall_mem_nil _, rfl⟩
  | cons c cs ih =>
      rw [List.mapM_cons] at read
      obtain ⟨v, readFirst, later⟩ := Option.bind_eq_some_iff.mp read
      obtain ⟨vs, readRest, same⟩ := Option.bind_eq_some_iff.mp later
      cases same
      obtain ⟨small, digits⟩ := digit_of_value? readFirst
      obtain ⟨smallRest, digitsRest⟩ := ih readRest
      exact ⟨List.forall_mem_cons.mpr ⟨small, smallRest⟩, by rw [List.map_cons, digits, digitsRest]⟩

/-! ### Bytes -/

/-- Base64 is made of the digits of values that hold the bytes. -/
theorem exists_values_encode (bytes : List UInt8) :
    ∃ values, (∀ v ∈ values, v < 64) ∧ encode bytes = values.map digit ∧
      pack values = some bytes := by
  induction bytes using encode.induct with
  | case1 => exact ⟨[], List.forall_mem_nil _, rfl, rfl⟩
  | case2 a =>
      have small := a.toNat_lt
      have whole : a.toNat * 16 / 64 * 64 + a.toNat * 16 % 64 = a.toNat * 16 := by omega
      refine ⟨[a.toNat * 16 / 64, a.toNat * 16 % 64], ?_, rfl, ?_⟩
      · intro v mem
        simp only [List.mem_cons, List.not_mem_nil, or_false] at mem
        omega
      · simp only [pack, whole]
        rw [if_pos (Nat.mul_mod_left _ _), Nat.mul_div_cancel _ (by decide), UInt8.ofNat_toNat]
  | case3 a b =>
      have smallA := a.toNat_lt
      have smallB := b.toNat_lt
      simp only [encode]
      generalize split : (a.toNat * 256 + b.toNat) * 4 = n
      have whole : (n / 4096 * 64 + n / 64 % 64) * 64 + n % 64 = n := by omega
      refine ⟨[n / 4096, n / 64 % 64, n % 64], ?_, rfl, ?_⟩
      · intro v mem
        simp only [List.mem_cons, List.not_mem_nil, or_false] at mem
        omega
      · have first : n / 1024 = a.toNat := by omega
        have second : n / 4 % 256 = b.toNat := by omega
        simp only [pack, whole]
        rw [if_pos (by omega), first, second, UInt8.ofNat_toNat, UInt8.ofNat_toNat]
  | case4 a b c rest ih =>
      have smallA := a.toNat_lt
      have smallB := b.toNat_lt
      have smallC := c.toNat_lt
      obtain ⟨values, small, spelled, packed⟩ := ih
      simp only [encode]
      generalize split : (a.toNat * 256 + b.toNat) * 256 + c.toNat = n
      have whole : ((n / 262144 * 64 + n / 4096 % 64) * 64 + n / 64 % 64) * 64 + n % 64 = n := by
        omega
      refine ⟨n / 262144 :: n / 4096 % 64 :: n / 64 % 64 :: n % 64 :: values, ?_, ?_, ?_⟩
      · simp only [List.forall_mem_cons]
        exact ⟨by omega, by omega, by omega, by omega, small⟩
      · rw [spelled]
        rfl
      · have first : n / 65536 = a.toNat := by omega
        have second : n / 256 % 256 = b.toNat := by omega
        have third : n % 256 = c.toNat := by omega
        simp only [pack, whole, packed, Option.map_some]
        rw [first, second, third, UInt8.ofNat_toNat, UInt8.ofNat_toNat, UInt8.ofNat_toNat]

theorem decode?_encodeText (bytes : List UInt8) : decode? (encodeText bytes) = some bytes := by
  obtain ⟨values, small, spelled, packed⟩ := exists_values_encode bytes
  rw [decode?, encodeText, String.toList_ofList, spelled, mapM_value?_map_digit small]
  exact packed

/-- Bytes are packed from one list of values only. -/
theorem encode_of_pack {values : List Nat} {bytes : List UInt8} (small : ∀ v ∈ values, v < 64)
    (packed : pack values = some bytes) : encode bytes = values.map digit := by
  fun_induction pack values generalizing bytes with
  | case1 => cases packed; rfl
  | case2 => cases packed
  | case3 a b n =>
      cases packed
      simp only [List.forall_mem_cons, List.not_mem_nil, false_implies, implies_true, and_true]
        at small
      have byte : n / 16 % 256 = n / 16 := by omega
      simp only [encode, UInt8.toNat_ofNat', byte, List.map_cons, List.map_nil, List.cons.injEq,
        and_true]
      exact ⟨congrArg digit (by omega), congrArg digit (by omega)⟩
  | case4 => cases packed
  | case5 a b c n =>
      cases packed
      simp only [List.forall_mem_cons, List.not_mem_nil, false_implies, implies_true, and_true]
        at small
      have whole : n / 1024 % 256 * 256 + n / 4 % 256 % 256 = n / 4 := by omega
      simp only [encode, UInt8.toNat_ofNat', whole, List.map_cons, List.map_nil, List.cons.injEq,
        and_true]
      exact ⟨congrArg digit (by omega), congrArg digit (by omega), congrArg digit (by omega)⟩
  | case6 => cases packed
  | @case7 a b c d rest n ih =>
      obtain ⟨bytes', packed', rfl⟩ := Option.map_eq_some_iff.mp packed
      simp only [List.forall_mem_cons] at small
      obtain ⟨smallA, smallB, smallC, smallD, smallRest⟩ := small
      have whole : (n / 65536 % 256 * 256 + n / 256 % 256 % 256) * 256 + n % 256 % 256 = n := by
        omega
      simp only [encode, ih smallRest packed', UInt8.toNat_ofNat', whole, List.map_cons,
        List.cons.injEq, and_true]
      exact ⟨congrArg digit (by omega), congrArg digit (by omega), congrArg digit (by omega),
        congrArg digit (by omega)⟩

/-- Only the base64 of bytes is read as them. -/
theorem encodeText_of_decode? {s : String} {bytes : List UInt8} (read : decode? s = some bytes) :
    encodeText bytes = s := by
  obtain ⟨values, digits, packed⟩ := Option.bind_eq_some_iff.mp read
  obtain ⟨small, spelled⟩ := map_digit_of_mapM_value? digits
  rw [encodeText, encode_of_pack small packed, spelled, String.ofList_toList]

/-- Three bytes take four digits. -/
theorem length_encode (bytes : List UInt8) :
    (encode bytes).length = (4 * bytes.length + 2) / 3 := by
  induction bytes using encode.induct with
  | case1 => rfl
  | case2 => simp [encode]
  | case3 => simp [encode]
  | case4 a b c rest ih =>
      simp only [encode, List.length_cons, ih]
      omega

/-- No full stop is among the characters of base64. -/
theorem stop_notMem_encode (bytes : List UInt8) : '.' ∉ encode bytes := by
  obtain ⟨values, small, spelled, -⟩ := exists_values_encode bytes
  rw [spelled, List.mem_map]
  rintro ⟨v, mem, stop⟩
  exact digit_ne_stop (small v mem) stop

end Base64Url
end Text

/-- A token for going on stands for the storage id that it was made from. -/
theorem Http.decodeContinuation_encodeContinuation (storageId : String) :
    decodeContinuation (encodeContinuation storageId) = storageId := by
  rw [decodeContinuation, encodeContinuation, Text.Base64Url.decode?_encodeText, Option.bind_some,
    Text.ofUtf8?_utf8, Option.getD_some]

end ContentStore
