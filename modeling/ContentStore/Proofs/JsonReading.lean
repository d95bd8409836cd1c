import ContentStore.Json.Shape
import ContentStore.Proofs.Encodings

/-!
# JSON that was written

What is written as JSON is read back: a string with all its escapes (`Reader.quotedRest_spell`), a
number that is not negative (`Reader.number_spells`), and an object whose members are read one by
one (`Shape.parse_obj`).
-/

namespace ContentStore

/-! ### Characters as bytes -/

namespace Text

/-- The bytes of characters. -/
def spell (cs : List Char) : List UInt8 :=
  cs.flatMap String.utf8EncodeChar

theorem utf8_ofList (cs : List Char) : utf8 (String.ofList cs) = spell cs := by
  rw [utf8, String.toByteArray_ofList, List.utf8Encode, List.toList_data_toByteArray]
  rfl

theorem spell_toList (s : String) : spell s.toList = utf8 s := by
  rw [← utf8_ofList, String.ofList_toList]

theorem spell_append (cs ds : List Char) : spell (cs ++ ds) = spell cs ++ spell ds :=
  List.flatMap_append

theorem spell_cons (c : Char) (cs : List Char) :
    spell (c :: cs) = String.utf8EncodeChar c ++ spell cs :=
  List.flatMap_cons

theorem utf8EncodeChar_of_ascii {c : Char} (small : c.toNat < 128) :
    String.utf8EncodeChar c = [Json.ascii c] := by
  rw [String.utf8EncodeChar]
  exact if_pos (Nat.lt_succ_iff.mp small)

/-- Every byte of a character outside ASCII is outside ASCII. -/
theorem le_of_mem_utf8EncodeChar {c : Char} (large : 128 ≤ c.toNat) {b : UInt8}
    (mem : b ∈ String.utf8EncodeChar c) : 128 ≤ b.toNat := by
  have large' : ¬c.val.toNat ≤ 127 := Nat.not_le.mpr large
  simp only [String.utf8EncodeChar, if_neg large'] at mem
  split at mem
  · simp only [List.mem_cons, List.not_mem_nil, or_false] at mem
    rcases mem with rfl | rfl <;> simp only [UInt8.toNat_ofNat'] <;> omega
  · split at mem
    · simp only [List.mem_cons, List.not_mem_nil, or_false] at mem
      rcases mem with rfl | rfl | rfl <;> simp only [UInt8.toNat_ofNat'] <;> omega
    · simp only [List.mem_cons, List.not_mem_nil, or_false] at mem
      rcases mem with rfl | rfl | rfl | rfl <;> simp only [UInt8.toNat_ofNat'] <;> omega

end Text

namespace Json

open Text (spell)

/-! ### Strings -/

section Strings

variable {care : Care} {b e plain : UInt8} {rest : List UInt8}

theorem prepend_nil (read : Except Fault (List UInt8 × List UInt8)) : prepend [] read = read := by
  cases read <;> rfl

theorem prepend_prepend (front back : List UInt8) (read : Except Fault (List UInt8 × List UInt8)) :
    prepend front (prepend back read) = prepend (front ++ back) read := by
  cases read with
  | ok found => simp only [prepend, List.append_assoc]
  | error fault => rfl

theorem stringBytes_closed : stringBytes care none (ascii '"' :: rest) = .ok ([], rest) := by
  rw [stringBytes.eq_def]
  exact if_pos rfl

theorem stringBytes_plain (noQuote : b ≠ ascii '"') (noEscape : b ≠ ascii '\\')
    (visible : ¬b < 0x20) :
    stringBytes care none (b :: rest) = prepend [b] (stringBytes care none rest) := by
  rw [stringBytes.eq_def]
  dsimp only
  rw [if_neg noQuote, if_neg noEscape, if_neg visible]

theorem stringBytes_short (noUnit : e ≠ ascii 'u') (known : unescape? e = some plain) :
    stringBytes care none (ascii '\\' :: e :: rest) =
      prepend [plain] (stringBytes care none rest) := by
  rw [stringBytes.eq_def]
  dsimp only
  rw [if_neg (by decide), if_pos rfl, if_neg noUnit, known]

theorem stringBytes_unit {d₁ d₂ d₃ d₄ : UInt8} {unit : Nat}
    (valued : fourDigits? d₁ d₂ d₃ d₄ = some unit) (small : unit < 0xD800) :
    stringBytes care none (ascii '\\' :: ascii 'u' :: d₁ :: d₂ :: d₃ :: d₄ :: rest) =
      prepend (if care = .full then bytesOf unit else []) (stringBytes care none rest) := by
  rw [stringBytes.eq_def]
  dsimp only
  rw [if_neg (by decide), if_pos rfl, if_pos rfl, valued]
  dsimp only
  cases care with
  | grammar => rw [if_pos rfl, if_neg (by decide), prepend_nil]
  | full =>
      have noHalf : isSecondHalf unit = false ∧ isFirstHalf unit = false := by
        simp only [isSecondHalf, isFirstHalf, Bool.and_eq_false_iff, decide_eq_false_iff_not]
        omega
      rw [if_neg (by decide), noHalf.1, noHalf.2]
      rfl

/-- Bytes that are neither quotes nor backslashes nor controls stand for themselves. -/
theorem stringBytes_append {bytes : List UInt8}
    (plain : ∀ b ∈ bytes, b ≠ ascii '"' ∧ b ≠ ascii '\\' ∧ ¬b < 0x20) :
    stringBytes care none (bytes ++ rest) = prepend bytes (stringBytes care none rest) := by
  induction bytes with
  | nil => rw [prepend_nil, List.nil_append]
  | cons b bytes ih =>
      obtain ⟨noQuote, noEscape, visible⟩ := plain b List.mem_cons_self
      rw [List.cons_append, stringBytes_plain noQuote noEscape visible,
        ih fun b' mem => plain b' (List.mem_cons_of_mem _ mem), prepend_prepend]
      rfl

/-- The characters that are escaped by one other. -/
def shortEscapes : List Char :=
  ['"', '\\', '\n', '\x0d', '\t', '\x08', '\x0c']

theorem escape_of_short {c : Char} (short : c ∈ shortEscapes) :
    ∃ e, spell (escape c) = [ascii '\\', e] ∧ e ≠ ascii 'u' ∧ unescape? e = some (ascii c) ∧
      String.utf8EncodeChar c = [ascii c] := by
  have all : shortEscapes.all (fun c => ['"', '\\', 'n', 'r', 't', 'b', 'f'].any fun e =>
      spell (escape c) = [ascii '\\', ascii e] ∧ ascii e ≠ ascii 'u' ∧
        unescape? (ascii e) = some (ascii c) ∧ String.utf8EncodeChar c = [ascii c]) = true := by
    decide
  obtain ⟨e, -, escaped⟩ := List.any_eq_true.mp (List.all_eq_true.mp all c short)
  exact ⟨ascii e, of_decide_eq_true escaped⟩

theorem escape_of_not_short {c : Char} (notShort : c ∉ shortEscapes) :
    escape c =
      if c.toNat < 0x20 then
        ['\\', 'u', '0', '0', Text.Hex.digit (c.toNat / 16), Text.Hex.digit (c.toNat % 16)]
      else [c] := by
  simp only [shortEscapes, List.mem_cons, List.not_mem_nil, or_false, not_or] at notShort
  obtain ⟨h₁, h₂, h₃, h₄, h₅, h₆, h₇⟩ := notShort
  rw [escape, if_neg h₁, if_neg h₂, if_neg h₃, if_neg h₄, if_neg h₅, if_neg h₆, if_neg h₇]

/-- The bytes of an escaped control character, and the unit that they stand for. -/
theorem spell_control {n : Nat} (small : n < 0x20) :
    ∃ d₁ d₂ d₃ d₄, spell ['\\', 'u', '0', '0', Text.Hex.digit (n / 16), Text.Hex.digit (n % 16)] =
        [ascii '\\', ascii 'u', d₁, d₂, d₃, d₄] ∧ fourDigits? d₁ d₂ d₃ d₄ = some n := by
  have all : ∀ n : Fin 0x20,
      spell ['\\', 'u', '0', '0', Text.Hex.digit (n / 16), Text.Hex.digit (n % 16)] =
        [ascii '\\', ascii 'u', ascii '0', ascii '0', ascii (Text.Hex.digit (n / 16)),
          ascii (Text.Hex.digit (n % 16))] ∧
      fourDigits? (ascii '0') (ascii '0') (ascii (Text.Hex.digit (n / 16)))
        (ascii (Text.Hex.digit (n % 16))) = some n.val := by
    decide
  exact ⟨_, _, _, _, all ⟨n, small⟩⟩

/-- The bytes of a character that is not escaped stand for themselves. -/
theorem plain_of_mem_utf8EncodeChar {c : Char} (notShort : c ∉ shortEscapes)
    (visible : ¬c.toNat < 0x20) (mem : b ∈ String.utf8EncodeChar c) :
    b ≠ ascii '"' ∧ b ≠ ascii '\\' ∧ ¬b < 0x20 := by
  by_cases small : c.toNat < 128
  · rw [Text.utf8EncodeChar_of_ascii small, List.mem_singleton] at mem
    have value : b.toNat = c.toNat := by
      rw [mem, ascii, UInt8.toNat_ofNat']
      omega
    have differs : ∀ d ∈ shortEscapes, b ≠ ascii d := by
      rintro d short rfl
      have all : shortEscapes.all (fun d => (ascii d).toNat = d.toNat) = true := by decide
      rw [of_decide_eq_true (List.all_eq_true.mp all d short)] at value
      exact notShort (Char.toNat_inj.mp value ▸ short)
    refine ⟨differs '"' (by decide), differs '\\' (by decide), ?_⟩
    rw [UInt8.lt_iff_toNat_lt, value]
    exact visible
  · have large := Text.le_of_mem_utf8EncodeChar (Nat.not_lt.mp small) mem
    refine ⟨?_, ?_, ?_⟩
    · rintro rfl
      exact absurd large (by decide)
    · rintro rfl
      exact absurd large (by decide)
    · rw [UInt8.lt_iff_toNat_lt]
      exact Nat.not_lt.mpr (Nat.le_trans (by decide) large)

/-- An escaped character is read as its bytes; the grammar alone loses those of some controls. -/
theorem exists_stringBytes_escape (care : Care) (c : Char) :
    ∃ found, (care = .full → found = String.utf8EncodeChar c) ∧
      ∀ rest, stringBytes care none (spell (escape c) ++ rest) =
        prepend found (stringBytes care none rest) := by
  by_cases short : c ∈ shortEscapes
  · obtain ⟨e, escaped, noUnit, known, bytes⟩ := escape_of_short short
    refine ⟨[ascii c], fun _ => bytes.symm, fun rest => ?_⟩
    rw [escaped]
    exact stringBytes_short noUnit known
  · rw [escape_of_not_short short]
    by_cases control : c.toNat < 0x20
    · rw [if_pos control]
      obtain ⟨d₁, d₂, d₃, d₄, escaped, valued⟩ := spell_control control
      refine ⟨if care = .full then bytesOf c.toNat else [], fun full => ?_, fun rest => ?_⟩
      · rw [if_pos full, bytesOf, Char.ofNat_toNat]
      · rw [escaped]
        exact stringBytes_unit valued (by omega)
    · rw [if_neg control]
      refine ⟨String.utf8EncodeChar c, fun _ => rfl, fun rest => ?_⟩
      rw [Text.spell_cons, spell, List.flatMap_nil, List.append_nil]
      exact stringBytes_append fun b mem => plain_of_mem_utf8EncodeChar short control mem

/-- A string is read up to its closing quote; with full care it gives back its bytes. -/
theorem exists_stringBytes_eq (care : Care) (cs : List Char) :
    ∃ found, (care = .full → found = spell cs) ∧
      ∀ rest, stringBytes care none (spell (cs.flatMap escape) ++ ascii '"' :: rest) =
        .ok (found, rest) := by
  induction cs with
  | nil => exact ⟨[], fun _ => rfl, fun rest => stringBytes_closed⟩
  | cons c cs ih =>
      obtain ⟨found, full, reads⟩ := ih
      obtain ⟨first, full', reads'⟩ := exists_stringBytes_escape care c
      refine ⟨first ++ found, fun isFull => ?_, fun rest => ?_⟩
      · rw [full isFull, full' isFull, Text.spell_cons]
      · rw [List.flatMap_cons, Text.spell_append, List.append_assoc, reads', reads]
        rfl

/-- A string that was written, without its opening quote. -/
theorem spell_quoted (s : String) :
    spell (quoted s) = ascii '"' :: (spell (s.toList.flatMap escape) ++ [ascii '"']) := by
  rw [quoted, List.cons_append, Text.spell_cons, Text.spell_append]
  rfl

namespace Reader

theorem quotedRest_spell (s : String) (rest : List UInt8) :
    quotedRest (spell (s.toList.flatMap escape) ++ ascii '"' :: rest) = .ok (s, rest) := by
  obtain ⟨found, full, reads⟩ := exists_stringBytes_eq .full s.toList
  rw [quotedRest, reads]
  dsimp only
  rw [full rfl, Text.spell_toList, Text.ofUtf8?_utf8]

theorem passQuoted_spell (care : Care) (s : String) (rest : List UInt8) :
    passQuoted care (spell (s.toList.flatMap escape) ++ ascii '"' :: rest) = .ok ((), rest) := by
  obtain ⟨found, -, reads⟩ := exists_stringBytes_eq care s.toList
  cases care with
  | full =>
      rw [passQuoted, bind_run, quotedRest_spell]
      rfl
  | grammar =>
      rw [passQuoted]
      dsimp only
      rw [reads]

end Reader
end Strings

/-! ### Numbers -/

section Numbers

variable {care : Care} {b : UInt8} {rest : List UInt8} {n : Nat}

/-- What stands behind a member. A number ends there, since neither of the two goes on with it. -/
def Delimited (rest : List UInt8) : Prop :=
  rest.head? = some (ascii ',') ∨ rest.head? = some (ascii '\x7d')

/-- The byte of a decimal digit. -/
def digitByte (d : Nat) : UInt8 :=
  ascii (Nat.digitChar d)

theorem digit?_digitByte {d : Nat} (small : d < 10) : digit? (digitByte d) = some d := by
  have all : ∀ d : Fin 10, digit? (digitByte d) = some d.val := by decide
  exact all ⟨d, small⟩

theorem digitByte_spec {d : Nat} (small : d < 10) :
    Reader.isBlank (digitByte d) = false ∧ digitByte d ≠ ascii '-' ∧
      String.utf8EncodeChar (Nat.digitChar d) = [digitByte d] := by
  have all : ∀ d : Fin 10, Reader.isBlank (digitByte d) = false ∧ digitByte d ≠ ascii '-' ∧
      String.utf8EncodeChar (Nat.digitChar d) = [digitByte d] := by decide
  exact all ⟨d, small⟩

/-- The digits of a number as it is written: they have its value, and no zero stands in front of
others. -/
structure Spells (ds : List Nat) (n : Nat) : Prop where
  spelled : Nat.toDigits 10 n = ds.map Nat.digitChar
  small : ∀ d ∈ ds, d < 10
  value : Numeral.value ds = n
  ne_nil : ds ≠ []
  noZero : ds.head? = some 0 → n = 0
  alone : n < 10 → ds.length = 1

theorem exists_spells (n : Nat) : ∃ ds, Spells ds n := by
  induction n using Nat.strongRecOn with
  | _ n ih =>
  by_cases small : n < 10
  · refine ⟨[n], Nat.toDigits_of_lt_base small, ?_, ?_, List.cons_ne_nil _ _, ?_, fun _ => rfl⟩
    · intro d mem
      rwa [List.mem_singleton.mp mem]
    · simp [Numeral.value]
    · simp
  · obtain ⟨ds, front⟩ := ih (n / 10) (by omega)
    refine ⟨ds ++ [n % 10], ?_, ?_, ?_, ?_, ?_, fun few => absurd few small⟩
    · rw [Nat.toDigits_of_base_le (by decide) (by omega), front.spelled, List.map_append]
      rfl
    · intro d mem
      rcases List.mem_append.mp mem with old | last
      · exact front.small d old
      · rw [List.mem_singleton.mp last]
        exact Nat.mod_lt _ (by decide)
    · have value := front.value
      rw [Numeral.value] at value ⊢
      rw [List.foldl_append, value]
      exact Nat.div_add_mod n 10
    · simp
    · intro zero
      obtain ⟨d, ds, rfl⟩ := List.exists_cons_of_ne_nil front.ne_nil
      have none := front.noZero zero
      omega

theorem Spells.bytes {ds : List Nat} (spells : Spells ds n) :
    spell (Nat.toDigits 10 n) = ds.map digitByte := by
  rw [spells.spelled, spell, List.flatMap_map]
  have small := spells.small
  clear spells
  induction ds with
  | nil => rfl
  | cons d ds ih =>
      rw [List.flatMap_cons, (digitByte_spec (small d List.mem_cons_self)).2.2,
        ih fun d' mem => small d' (List.mem_cons_of_mem _ mem)]
      rfl

namespace Reader

theorem digits_of_delimited (delimited : Delimited rest) : digits rest = ([], rest) := by
  cases rest with
  | nil => rfl
  | cons b rest =>
      have none : digit? b = none := by
        rcases delimited with comma | brace
        · cases comma
          rfl
        · cases brace
          rfl
      rw [digits, none]

theorem digits_append {ds : List Nat} (small : ∀ d ∈ ds, d < 10) (delimited : Delimited rest) :
    digits (ds.map digitByte ++ rest) = (ds, rest) := by
  induction ds with
  | nil => exact digits_of_delimited delimited
  | cons d ds ih =>
      rw [List.map_cons, List.cons_append, digits, digit?_digitByte (small d List.mem_cons_self),
        ih fun d' mem => small d' (List.mem_cons_of_mem _ mem)]

theorem takesOne_of_delimited {options : List Char} (delimited : Delimited rest)
    (noComma : options.find? (fun c => ascii c = ascii ',') = none)
    (noBrace : options.find? (fun c => ascii c = ascii '\x7d') = none) :
    takesOne options rest = .ok (none, rest) := by
  cases rest with
  | nil => rfl
  | cons b rest =>
      rcases delimited with comma | brace
      · cases comma
        rw [takesOne, noComma]
      · cases brace
        rw [takesOne, noBrace]

/-- A number is read up to what may stand behind a member. -/
theorem numeral_spells {ds : List Nat} (care : Care) (spells : Spells ds n)
    (delimited : Delimited rest) :
    numeral care (ds.map digitByte ++ rest) = .ok (⟨false, ds, none, none⟩, rest) := by
  obtain ⟨d, more, rfl⟩ := List.exists_cons_of_ne_nil spells.ne_nil
  have read := digits_append spells.small delimited
  have noSign : takesOne ['-'] ((d :: more).map digitByte ++ rest) =
      .ok (none, (d :: more).map digitByte ++ rest) := by
    have differs := (digitByte_spec (spells.small d List.mem_cons_self)).2.1
    rw [List.map_cons, List.cons_append, takesOne,
      List.find?_cons_of_neg (by simpa using differs.symm)]
    rfl
  have whole : wholeDigits care ((d :: more).map digitByte ++ rest) = .ok (d :: more, rest) := by
    have alone : ¬((d :: more).length > 1 ∧ (d :: more).head? = some 0) := by
      rintro ⟨longer, zero⟩
      have only := spells.alone (by rw [spells.noZero zero]; decide)
      omega
    rw [wholeDigits, bind_run, someDigits, read]
    dsimp only
    rw [if_neg alone]
    rfl
  have fraction : fractionDigits care rest = .ok (none, rest) := by
    rw [fractionDigits, bind_run, takesOne_of_delimited delimited rfl rfl]
    rfl
  have exponent : exponentPart care rest = .ok (none, rest) := by
    rw [exponentPart, bind_run, takesOne_of_delimited delimited rfl rfl]
    rfl
  rw [numeral, bind_run, noSign]
  dsimp only
  rw [bind_run, whole]
  dsimp only
  rw [bind_run, fraction]
  dsimp only
  rw [bind_run, exponent]
  rfl

theorem number_spells {ds : List Nat} (spells : Spells ds n) (delimited : Delimited rest)
    (fits : n ≤ Text.maxNat64) :
    number (ds.map digitByte ++ rest) = .ok (.integer n, rest) := by
  have stands : (Numeral.mk false ds none none).number? = some (.integer n) := by
    simp only [Numeral.number?, Numeral.integer?, spells.value]
    rw [if_neg Bool.false_ne_true, if_pos fits]
  rw [number, bind_run, numeral_spells .full spells delimited]
  dsimp only
  rw [stands]
  rfl

end Reader
end Numbers

/-! ### Values -/

section Values

variable {α : Type} {accepts : String → Bool} {s : String} {n : Int}

/-- The reader takes this value, as it is written, for `a`. -/
def Reader.Takes (r : Reader α) (v : Json) (a : α) : Prop :=
  ∀ rest, Delimited rest → r (spell v.chars ++ rest) = .ok (a, rest)

/-- A string as it is written, and what stands behind it. -/
theorem spell_str (s : String) (rest : List UInt8) :
    spell (str s).chars ++ rest =
      ascii '"' :: (spell (s.toList.flatMap escape) ++ ascii '"' :: rest) := by
  rw [chars, spell_quoted, List.cons_append, List.append_assoc]
  rfl

/-- A number that is not negative, as it is written. -/
theorem exists_spell_int (nonneg : 0 ≤ n) :
    ∃ ds, Spells ds n.toNat ∧ spell (int n).chars = ds.map digitByte := by
  obtain ⟨ds, spells⟩ := exists_spells n.toNat
  refine ⟨ds, spells, ?_⟩
  have abs : n.natAbs = n.toNat := by omega
  rw [chars, digitsOf, if_neg (Int.not_lt.mpr nonneg), abs, spells.bytes]

namespace Reader

theorem takes_textOf (accepted : accepts s = true) : (textOf accepts).Takes (.str s) (.str s) := by
  intro rest _
  rw [spell_str, textOf, bind_run, peek_cons _ rfl]
  dsimp only
  rw [if_pos rfl, bind_run, advance]
  dsimp only
  rw [List.drop_one, List.tail_cons, bind_run, quotedRest_spell]
  dsimp only
  rw [if_pos accepted]
  rfl

theorem takes_text : text.Takes (.str s) (.str s) :=
  takes_textOf rfl

theorem takes_oneOf (accepted : accepts s = true) : (oneOf accepts).Takes (.str s) (.str s) := by
  intro rest delimited
  have taken := takes_textOf accepted rest delimited
  rw [spell_str] at taken ⊢
  rw [oneOf, oneOfHolding, bind_run, peek_cons _ rfl]
  dsimp only
  rw [if_pos rfl, taken]

theorem takes_int64 (nonneg : 0 ≤ n) (fits : n ≤ Text.maxInt64) :
    int64.Takes (.int n) (.int n) := by
  intro rest delimited
  obtain ⟨ds, spells, written⟩ := exists_spell_int nonneg
  have inRange : n.toNat ≤ Text.maxNat64 := by
    rw [Text.maxInt64] at fits
    rw [Text.maxNat64]
    omega
  have read := number_spells spells delimited inRange
  obtain ⟨d, more, rfl⟩ := List.exists_cons_of_ne_nil spells.ne_nil
  have small := spells.small d List.mem_cons_self
  rw [written]
  rw [List.map_cons, List.cons_append] at read ⊢
  rw [int64, bind_run, peek_cons _ (digitByte_spec small).1]
  dsimp only
  rw [if_pos (.inr (by rw [digit?_digitByte small]; rfl)), bind_run, read]
  dsimp only
  rw [Int.toNat_of_nonneg nonneg, if_pos fits]
  rfl

/-- A value without parts is passed over once its kind is known. -/
theorem pass_cons {care : Care} {b : UInt8} {bytes rest : List UInt8} {outside : Nat}
    (noBlank : isBlank b = false) (noList : b ≠ ascii '[') (noObject : b ≠ ascii '\x7b')
    (passed : passScalar care b (b :: bytes) = .ok ((), rest)) :
    pass care outside (b :: bytes) = .ok ((), rest) := by
  rw [pass, passOn, bind_run, peek_cons _ noBlank]
  dsimp only
  rw [if_neg (not_or.mpr ⟨noList, noObject⟩), bind_run, passed]
  rfl

theorem takes_pass_str (care : Care) (outside : Nat) (s : String) :
    (pass care outside).Takes (.str s) () := by
  intro rest _
  rw [spell_str]
  refine pass_cons rfl (by decide) (by decide) ?_
  rw [passScalar.eq_def, if_neg (by decide), if_neg (by decide), if_neg (by decide), if_pos rfl,
    bind_run, advance]
  dsimp only
  rw [List.drop_one, List.tail_cons, passQuoted_spell]

theorem takes_pass_int (outside : Nat) (nonneg : 0 ≤ n) :
    (pass .grammar outside).Takes (.int n) () := by
  intro rest delimited
  obtain ⟨ds, spells, written⟩ := exists_spell_int nonneg
  have read := numeral_spells .grammar spells delimited
  obtain ⟨d, more, rfl⟩ := List.exists_cons_of_ne_nil spells.ne_nil
  have small := spells.small d List.mem_cons_self
  have isDigit : (digit? (digitByte d)).isSome = true := by
    rw [digit?_digitByte small]
    rfl
  have differs : ∀ c ∈ ['n', 't', 'f', '"', '[', '\x7b'], digitByte d ≠ ascii c := by
    rintro c mem same
    have all : ['n', 't', 'f', '"', '[', '\x7b'].all (fun c => digit? (ascii c) = none) = true := by
      decide
    rw [same, of_decide_eq_true (List.all_eq_true.mp all c mem)] at isDigit
    cases isDigit
  rw [written]
  rw [List.map_cons, List.cons_append] at read ⊢
  refine pass_cons (digitByte_spec small).1 (differs _ (by decide)) (differs _ (by decide)) ?_
  rw [passScalar.eq_def, if_neg (differs _ (by decide)), if_neg (differs _ (by decide)),
    if_neg (differs _ (by decide)), if_neg (differs _ (by decide)), if_pos (.inr isDigit)]
  change (numeral .grammar >>= fun _ => pure ()) _ = _
  rw [bind_run, read]
  rfl

theorem takes_pass_bool (care : Care) (outside : Nat) (b : Bool) :
    (pass care outside).Takes (.bool b) () := by
  intro rest _
  cases b with
  | false => exact pass_cons rfl (by decide) (by decide) rfl
  | true => exact pass_cons rfl (by decide) (by decide) rfl

/-- A value that does not start as null does is taken where null may stand as well. -/
theorem takes_optional {r : Reader Json} {v a : Json} {b : UInt8} {bytes : List UInt8}
    (starts : spell v.chars = b :: bytes) (noBlank : isBlank b = false) (noNull : b ≠ ascii 'n')
    (takes : r.Takes v a) : (optional r).Takes v a := by
  intro rest delimited
  have taken := takes rest delimited
  rw [starts, List.cons_append] at taken ⊢
  rw [optional, bind_run, peek_cons _ noBlank]
  dsimp only
  rw [if_neg noNull, taken]

theorem takes_optional_text : (optional text).Takes (.str s) (.str s) :=
  takes_optional (by rw [chars, spell_quoted]) rfl (by decide) takes_text

theorem takes_optional_int64 (nonneg : 0 ≤ n) (fits : n ≤ Text.maxInt64) :
    (optional int64).Takes (.int n) (.int n) := by
  obtain ⟨ds, spells, written⟩ := exists_spell_int nonneg
  obtain ⟨d, more, rfl⟩ := List.exists_cons_of_ne_nil spells.ne_nil
  have small := spells.small d List.mem_cons_self
  have noNull : digitByte d ≠ ascii 'n' := by
    intro same
    have value := digit?_digitByte small
    rw [same] at value
    cases value
  exact takes_optional written (digitByte_spec small).1 noNull (takes_int64 nonneg fits)

end Reader
end Values

/-! ### Objects -/

section Objects

variable {α : Type} {s : Shape} {c c' : Collected} {name : String} {v : Json} {f : Field}
  {rest : List UInt8} {m : String × Json} {ms : List (String × Json)}

/-- A member as it is written. -/
def memberBytes (m : String × Json) : List UInt8 :=
  spell (quoted m.1) ++ ascii ':' :: spell m.2.chars

/-- Members as they are written behind another one. -/
def moreBytes (ms : List (String × Json)) : List UInt8 :=
  ms.flatMap fun m => ascii ',' :: memberBytes m

theorem memberBytes_append (m : String × Json) (rest : List UInt8) :
    memberBytes m ++ rest =
      ascii '"' :: (spell (m.1.toList.flatMap escape) ++
        ascii '"' :: ascii ':' :: (spell m.2.chars ++ rest)) := by
  rw [memberBytes, spell_quoted]
  simp only [List.cons_append, List.append_assoc, List.nil_append]

theorem spell_memberChars (m : String × Json) (ms : List (String × Json)) :
    spell (memberChars (m :: ms)) = memberBytes m ++ moreBytes ms := by
  induction ms generalizing m with
  | nil =>
      obtain ⟨name, v⟩ := m
      rw [memberChars, Text.spell_append, Text.spell_cons, moreBytes, List.flatMap_nil,
        List.append_nil]
      rfl
  | cons m' ms ih =>
      obtain ⟨name, v⟩ := m
      have written : memberChars ((name, v) :: m' :: ms) =
          (quoted name ++ ':' :: v.chars) ++ ',' :: memberChars (m' :: ms) := by
        rw [memberChars]
        exact fun h => List.cons_ne_nil _ _ h
      rw [written, Text.spell_append, Text.spell_append, Text.spell_cons, Text.spell_cons, ih]
      rfl

theorem delimited_moreBytes (ms : List (String × Json)) (rest : List UInt8) :
    Delimited (moreBytes ms ++ ascii '\x7d' :: rest) := by
  cases ms with
  | nil => exact .inr rfl
  | cons m ms => exact .inl rfl

namespace Shape

/-- With this member, as it is written, more is collected. -/
def Adds (s : Shape) (c : Collected) (m : String × Json) (c' : Collected) : Prop :=
  ∀ rest, Delimited rest →
    s.memberValue c m.1 (ascii ':' :: (spell m.2.chars ++ rest)) = .ok (c', rest)

/-- With these members, as they are written, more is collected. -/
inductive Collects (s : Shape) : Collected → List (String × Json) → Collected → Prop where
  | nil {c : Collected} : Collects s c [] c
  | cons {c c' c'' : Collected} {m : String × Json} {ms : List (String × Json)} :
      s.Adds c m c' → Collects s c' ms c'' → Collects s c (m :: ms) c''

theorem colon_cons (rest : List UInt8) : Reader.colon (ascii ':' :: rest) = .ok ((), rest) := by
  rw [Reader.colon, Reader.bind_run, Reader.peek_cons _ rfl]
  rfl

/-- A member of a field is kept. -/
theorem adds_field (found : s.field? name = some f) (timely : f.isLate = false)
    (fresh : c.has name = false) (takes : f.read.Takes v v) :
    s.Adds c (name, v) (c.add name v) := by
  intro rest delimited
  rw [memberValue, found]
  dsimp only
  rw [timely, if_neg Bool.false_ne_true, fresh, if_neg Bool.false_ne_true, Reader.bind_run,
    colon_cons]
  dsimp only
  rw [Reader.bind_run, takes rest delimited]
  rfl

/-- A member of no field is passed over. -/
theorem adds_other (none : s.field? name = none) (takes : (Reader.pass s.others 1).Takes v ()) :
    s.Adds c (name, v) c := by
  intro rest delimited
  rw [memberValue, none]
  dsimp only
  rw [Reader.bind_run, colon_cons]
  dsimp only
  rw [Reader.bind_run, takes rest delimited]
  rfl

theorem members_closed (fuel : Nat) (isFirst : Bool) :
    s.members (fuel + 1) isFirst c (ascii '\x7d' :: rest) = .ok (c, ascii '\x7d' :: rest) := by
  rw [members, Reader.bind_run, Reader.peek_cons _ rfl]
  rfl

/-- A member from its name on, and what is read behind it. -/
def memberThen (s : Shape) (c : Collected) (more : Collected → Reader Collected) :
    Reader Collected := do
  if (← Reader.peek) = ascii '"' then
    Reader.advance
    let name ← Reader.quotedRest
    more (← s.memberValue c name)
  else Reader.fail .malformed

theorem memberThen_memberBytes (more : Collected → Reader Collected) (adds : s.Adds c m c')
    (delimited : Delimited rest) : s.memberThen c more (memberBytes m ++ rest) = more c' rest := by
  rw [memberBytes_append, memberThen, Reader.bind_run, Reader.peek_cons _ rfl]
  dsimp only
  rw [if_pos rfl, Reader.bind_run, Reader.advance]
  dsimp only
  rw [List.drop_one, List.tail_cons, Reader.bind_run, Reader.quotedRest_spell]
  dsimp only
  rw [Reader.bind_run, adds rest delimited]

theorem members_first (fuel : Nat) (adds : s.Adds c m c') (delimited : Delimited rest) :
    s.members (fuel + 1) true c (memberBytes m ++ rest) = s.members fuel false c' rest := by
  rw [members, Reader.bind_run, memberBytes_append, Reader.peek_cons _ rfl]
  dsimp only
  rw [if_neg (by decide), if_neg (by decide), ← memberBytes_append]
  exact memberThen_memberBytes _ adds delimited

theorem members_next (fuel : Nat) (adds : s.Adds c m c') (delimited : Delimited rest) :
    s.members (fuel + 1) false c (ascii ',' :: (memberBytes m ++ rest)) =
      s.members fuel false c' rest := by
  rw [members, Reader.bind_run, Reader.peek_cons _ rfl]
  dsimp only
  rw [if_neg (by decide), if_pos rfl, if_pos (by decide), Reader.bind_run, Reader.advance]
  exact memberThen_memberBytes _ adds delimited

/-- The members behind the first one are collected in their order. -/
theorem members_more {fuel : Nat} (collects : s.Collects c ms c') (fuelled : ms.length < fuel)
    (rest : List UInt8) :
    s.members fuel false c (moreBytes ms ++ ascii '\x7d' :: rest) =
      .ok (c', ascii '\x7d' :: rest) := by
  induction collects generalizing fuel with
  | nil =>
      obtain ⟨fuel, rfl⟩ := Nat.exists_eq_add_one.mpr fuelled
      exact members_closed fuel false
  | @cons c c' c'' m ms adds _ ih =>
      obtain ⟨fuel, rfl⟩ : ∃ n, fuel = n + 1 := ⟨fuel - 1, by omega⟩
      have written : moreBytes (m :: ms) ++ ascii '\x7d' :: rest =
          ascii ',' :: (memberBytes m ++ (moreBytes ms ++ ascii '\x7d' :: rest)) := by
        simp only [moreBytes, List.flatMap_cons, List.cons_append, List.append_assoc]
      rw [written, members_next fuel adds (delimited_moreBytes ms rest)]
      exact ih (Nat.lt_of_succ_lt_succ fuelled)

theorem length_le_moreBytes (ms : List (String × Json)) : ms.length ≤ (moreBytes ms).length := by
  induction ms with
  | nil => exact Nat.le_refl _
  | cons m ms ih =>
      rw [moreBytes, List.flatMap_cons, List.length_append, List.length_cons, List.length_cons]
      rw [moreBytes] at ih
      omega

/-- All members of an object that was written are collected. -/
theorem members_spell (collects : s.Collects c ms c') (rest : List UInt8) :
    s.members ((spell (memberChars ms) ++ ascii '\x7d' :: rest).length + 1) true c
        (spell (memberChars ms) ++ ascii '\x7d' :: rest) =
      .ok (c', ascii '\x7d' :: rest) := by
  cases collects with
  | nil => exact members_closed _ true
  | @cons _ c₁ _ m ms adds collects =>
      rw [spell_memberChars, List.append_assoc, members_first _ adds (delimited_moreBytes ms rest)]
      refine members_more collects ?_ rest
      have enough := length_le_moreBytes ms
      simp only [List.length_append, List.length_cons]
      omega

/-- **An object is read as it was written**, if its members are collected one by one and the value
can be built of them. -/
theorem parse_obj {build : List (String × Json) → Option α} {a : α}
    (collects : s.Collects .empty ms c) (sound : c.isSpoiled = false)
    (built : build c.members = some a) :
    s.parse build (Text.utf8 (obj ms).text) = .ok a := by
  have written : Text.utf8 (obj ms).text =
      ascii '\x7b' :: (spell (memberChars ms) ++ ascii '\x7d' :: []) := by
    rw [text, Text.utf8_ofList, chars, List.cons_append, Text.spell_cons, Text.spell_append]
    rfl
  have read : s.read build (ascii '\x7b' :: (spell (memberChars ms) ++ ascii '\x7d' :: [])) =
      .ok (a, []) := by
    rw [Shape.read, Reader.bind_run, Reader.peek_cons _ rfl]
    dsimp only
    rw [if_pos rfl, Reader.bind_run, Reader.advance]
    dsimp only
    rw [List.drop_one, List.tail_cons]
    refine (Reader.bind_run _ _ _).trans ?_
    rw [members_spell collects]
    dsimp only
    rw [Reader.bind_run, Shape.built, sound, built]
    rfl
  rw [parse, Reader.run, Reader.bind_run, written, read]
  rfl

end Shape
end Objects
end Json
end ContentStore
