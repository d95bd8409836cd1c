import ContentStore.Metadata
import ContentStore.Proofs.Decimals
import ContentStore.Proofs.JsonReading
import ContentStore.Wire.Body
import ContentStore.Wire.Record
import Mathlib.Data.List.TakeWhile

/-!
# Sizes

A size comes as a number, as a text, or as both. `StatesSize` says which size that is, if it is one,
without a word on how texts are trimmed and read: a number other than zero counts before the text,
and in the text an integer of 64 bits may stand with blanks around it. Making one size of the two
forms finds exactly these sizes, as far as they are not negative, and refuses everything else as a
mistake of the caller. So the two forms in which a record shows its size, and each of them alone,
give that size again (`sizes_normalized_exactly`).
-/

namespace ContentStore

/-! ### Blanks around a text -/

namespace Text

variable {before core after cs : List Char}

theorem trimStart_of_blank (blank : ∀ c ∈ cs, isBlank c = true) : trimStart cs = [] :=
  List.dropWhile_eq_nil_iff.mpr blank

theorem trimStart_append (blank : ∀ c ∈ before, isBlank c = true) :
    trimStart (before ++ cs) = trimStart cs :=
  List.dropWhile_append_of_pos blank

theorem trimStart_of_solid (solid : ∀ c ∈ cs, isBlank c = false) : trimStart cs = cs := by
  cases cs with
  | nil => rfl
  | cons c cs => exact trimStart_cons cs (solid c List.mem_cons_self)

/-- What stands between blanks is left, if there are none in it. -/
theorem trimChars_between (front : ∀ c ∈ before, isBlank c = true)
    (back : ∀ c ∈ after, isBlank c = true) (solid : ∀ c ∈ core, isBlank c = false) :
    trimChars (before ++ core ++ after) = core := by
  rw [trimChars, List.append_assoc, trimStart_append front]
  cases core with
  | nil => rw [List.nil_append, trimStart_of_blank back]; rfl
  | cons c core =>
      have back' : ∀ c ∈ after.reverse, isBlank c = true := fun c mem =>
        back c (List.mem_reverse.mp mem)
      have solid' : ∀ x ∈ (c :: core).reverse, isBlank x = false := fun x mem =>
        solid x (List.mem_reverse.mp mem)
      rw [List.cons_append, trimStart_cons _ (solid c List.mem_cons_self), ← List.cons_append,
        List.reverse_append, trimStart_append back', trimStart_of_solid solid',
        List.reverse_reverse]

/-- What trimming takes away are blanks at both ends. -/
theorem exists_trimChars (cs : List Char) :
    ∃ before after, cs = before ++ trimChars cs ++ after ∧
      (∀ c ∈ before, isBlank c = true) ∧ ∀ c ∈ after, isBlank c = true := by
  have blank (cs : List Char) : ∀ c ∈ cs.takeWhile isBlank, isBlank c = true := fun c mem =>
    List.mem_takeWhile_imp mem
  refine ⟨cs.takeWhile isBlank, ((trimStart cs).reverse.takeWhile isBlank).reverse, ?_, blank cs,
    fun c mem => blank _ c (List.mem_reverse.mp mem)⟩
  calc
    cs = cs.takeWhile isBlank ++ trimStart cs := List.takeWhile_append_dropWhile.symm
    _ = cs.takeWhile isBlank ++ ((trimStart cs).reverse.takeWhile isBlank ++
          trimStart (trimStart cs).reverse).reverse := by
        rw [trimStart.eq_def (trimStart cs).reverse, List.takeWhile_append_dropWhile,
          List.reverse_reverse]
    _ = _ := by rw [List.reverse_append, ← List.append_assoc, trimChars]

end Text

/-! ### Texts of sizes -/

/-- The size that a text states: zero if there is nothing but blanks in it, and otherwise the
integer of 64 bits that stands between them. -/
inductive SizeText (text : String) : Int → Prop where
  | blank : (∀ c ∈ text.toList, Text.isBlank c = true) → SizeText text 0
  | decimal {before core after : List Char} {v : Int} : text.toList = before ++ core ++ after →
      (∀ c ∈ before, Text.isBlank c = true) → (∀ c ∈ after, Text.isBlank c = true) →
      Text.Decimal core v → Text.minInt64 ≤ v → v ≤ Text.maxInt64 → SizeText text v

section Sizes

variable {core : List Char} {text : String} {text? : Option String} {number : Option Int} {v : Int}

/-- Neither a sign nor a digit is a blank, and there is one of them. -/
theorem Text.Decimal.solid (decimal : Decimal core v) :
    core ≠ [] ∧ ∀ c ∈ core, isBlank c = false := by
  have digits {cs : List Char} (numeral : IsNumeral cs) : ∀ c ∈ cs, isBlank c = false := by
    intro c mem
    have range := isDigit_iff.mp (numeral.digits c mem)
    unfold isBlank
    grind
  cases decimal with
  | unsigned numeral => exact ⟨numeral.ne_nil, digits numeral⟩
  | plus numeral =>
      exact ⟨List.cons_ne_nil _ _, List.forall_mem_cons.mpr ⟨rfl, digits numeral⟩⟩
  | minus numeral =>
      exact ⟨List.cons_ne_nil _ _, List.forall_mem_cons.mpr ⟨rfl, digits numeral⟩⟩

theorem sizeOfText_eq_ok_iff : sizeOfText text = .ok v ↔ SizeText text v := by
  have trimmed : (Text.trim text).toList = Text.trimChars text.toList := String.toList_ofList
  unfold sizeOfText
  dsimp only
  constructor
  · obtain ⟨before, after, whole, front, back⟩ := Text.exists_trimChars text.toList
    intro given
    split at given
    · next empty =>
        cases given
        have nothing : Text.trimChars text.toList = [] := by
          rw [← trimmed, empty]
          rfl
        refine .blank ?_
        rw [whole, nothing, List.append_nil]
        intro c mem
        exact (List.mem_append.mp mem).elim (front c) (back c)
    · split at given
      · next n read =>
          cases given
          obtain ⟨decimal, low, high⟩ := Text.readInt64_eq_ok_iff.mp read
          rw [trimmed] at decimal
          exact .decimal whole front back decimal low high
      · cases given
  · intro states
    cases states with
    | blank blank =>
        have nothing : Text.trimChars (text.toList ++ [] ++ []) = [] :=
          Text.trimChars_between blank (List.forall_mem_nil _) (List.forall_mem_nil _)
        rw [List.append_nil, List.append_nil, ← trimmed] at nothing
        rw [if_pos (String.toList_inj.mp nothing)]
    | @decimal before core after v whole front back decimal low high =>
        obtain ⟨ne_nil, solid⟩ := decimal.solid
        have left := Text.trimChars_between front back solid
        rw [← whole, ← trimmed] at left
        have filled : Text.trim text ≠ "" := by
          intro empty
          rw [empty] at left
          exact ne_nil left.symm
        rw [← left] at decimal
        rw [if_neg filled, Text.readInt64_eq_ok_iff.mpr ⟨decimal, low, high⟩]

/-! ### Both forms -/

/-- The size that a text and a number state together: a number other than zero, or else the text,
and zero if there is none. -/
inductive StatesSize (text : Option String) (number : Option Int) : Int → Prop where
  | number {n : Int} : number = some n → n ≠ 0 → StatesSize text number n
  | text {s : String} {v : Int} : number.getD 0 = 0 → text = some s → SizeText s v →
      StatesSize text number v
  | neither : number.getD 0 = 0 → text = none → StatesSize text number 0

theorem givenSize_eq_ok_iff : givenSize text? number = .ok v ↔ StatesSize text? number v := by
  unfold givenSize
  by_cases zero : number.getD 0 = 0
  · rw [if_neg (not_not_intro zero)]
    cases text? with
    | none =>
        constructor
        · rintro ⟨⟩
          exact .neither zero rfl
        · rintro (⟨rfl, nonzero⟩ | ⟨-, ⟨⟩, -⟩ | -)
          · exact absurd zero nonzero
          · rfl
    | some text =>
        dsimp only
        rw [sizeOfText_eq_ok_iff]
        constructor
        · exact .text zero rfl
        · rintro (⟨rfl, nonzero⟩ | ⟨-, ⟨⟩, states⟩ | ⟨-, ⟨⟩⟩)
          · exact absurd zero nonzero
          · exact states
  · rw [if_pos zero]
    constructor
    · rintro ⟨⟩
      cases number with
      | none => exact absurd rfl zero
      | some n => exact .number rfl zero
    · rintro (⟨rfl, -⟩ | ⟨zero', -, -⟩ | ⟨zero', -⟩)
      · rfl
      · exact absurd zero' zero
      · exact absurd zero' zero

theorem normalizeSize_eq_ok_iff :
    normalizeSize text? number = .ok v ↔ 0 ≤ v ∧ StatesSize text? number v := by
  rw [← givenSize_eq_ok_iff, normalizeSize]
  cases givenSize text? number with
  | error refusal => simp
  | ok size =>
      by_cases negative : size < 0
      · simp only [if_pos negative, reduceCtorEq, Except.ok.injEq, false_iff, not_and]
        rintro nonneg rfl
        omega
      · simp only [if_neg negative, Except.ok.injEq]
        constructor
        · rintro rfl
          exact ⟨by omega, rfl⟩
        · exact fun given => given.2

/-- A size is refused as a mistake of the caller only. -/
theorem invalid_of_normalizeSize {refusal : Refusal}
    (refused : normalizeSize text? number = .error refusal) : ∃ why, refusal = .invalid why := by
  unfold normalizeSize at refused
  split at refused
  · next given =>
      cases refused
      unfold givenSize sizeOfText at given
      grind
  · split at refused
    · cases refused
      exact ⟨_, rfl⟩
    · cases refused

/-! ### Sizes of records -/

theorem sizeText_stated {r : Record} (nonneg : 0 ≤ r.size) (fits : r.size ≤ Text.maxInt64) :
    SizeText r.sizeText r.size := by
  have low : Text.minInt64 ≤ r.size := Int.le_trans (by decide : Text.minInt64 ≤ 0) nonneg
  have digits : r.sizeText.toList = [] ++ Json.digitsOf r.size ++ [] := by
    rw [Record.sizeText, String.toList_ofList, List.nil_append, List.append_nil]
  exact .decimal digits (List.forall_mem_nil _) (List.forall_mem_nil _)
    (Text.decimal_digitsOf r.size) low fits

/-- Both forms in which a record shows its size state it, and so does each of them alone. -/
theorem Record.statesSize {r : Record} (nonneg : 0 ≤ r.size) (fits : r.size ≤ Text.maxInt64) :
    StatesSize (some r.sizeText) (some r.size) r.size ∧ StatesSize (some r.sizeText) none r.size ∧
      StatesSize none (some r.size) r.size := by
  have stated := sizeText_stated nonneg fits
  by_cases zero : r.size = 0
  · exact ⟨.text zero rfl stated, .text rfl rfl stated, by rw [zero]; exact .neither rfl rfl⟩
  · exact ⟨.number rfl zero, .text rfl rfl stated, .number rfl zero⟩

/-- The view of a record is read as metadata. -/
theorem Record.parse_view {r : Record} (nonneg : 0 ≤ r.size) (fits : r.size ≤ Text.maxInt64) :
    Metadata.parse (Text.utf8 r.view.text) =
      .ok ⟨some r.objectName, some r.sizeText, some r.size, some r.mimeType⟩ := by
  open Json Json.Shape Json.Reader in
  exact parse_obj (.cons (adds_other rfl (takes_pass_str _ _ _)) <|
    .cons (adds_other rfl (takes_pass_str _ _ _)) <|
    .cons (adds_other rfl (takes_pass_str _ _ _)) <|
    .cons (adds_field rfl rfl rfl takes_optional_text) <|
    .cons (adds_other rfl (takes_pass_str _ _ _)) <|
    .cons (adds_field rfl rfl rfl takes_optional_text) <|
    .cons (adds_field rfl rfl rfl (takes_optional_int64 nonneg fits)) <|
    .cons (adds_field rfl rfl rfl takes_optional_text) <|
    .cons (adds_other rfl (takes_pass_str _ _ _)) <|
    .cons (adds_other rfl (takes_pass_bool _ _ _)) .nil) rfl rfl

/-- **Sizes are normalized exactly, and records give theirs back.** A text and a number make a size
exactly if they state it and it is not negative, and otherwise they are refused as a mistake. A
record of a size that is not negative shows it in two forms, both of which together make that size
again, and so does each of them alone, and all of the view when it is sent back as metadata. -/
theorem sizes_normalized_exactly :
    (∀ text number v, normalizeSize text number = .ok v ↔ 0 ≤ v ∧ StatesSize text number v) ∧
    (∀ text number refusal, normalizeSize text number = .error refusal →
      ∃ why, refusal = .invalid why) ∧
    ∀ r : Record, 0 ≤ r.size → r.size ≤ Text.maxInt64 →
      (∃ text number, ("size", .str text) ∈ r.viewMembers ∧
        ("size-int", .int number) ∈ r.viewMembers ∧
        normalizeSize (some text) (some number) = .ok r.size ∧
        normalizeSize (some text) none = .ok r.size ∧
        normalizeSize none (some number) = .ok r.size) ∧
      ∃ m, Metadata.parse (Text.utf8 r.view.text) = .ok m ∧ m.size = .ok r.size := by
  refine ⟨fun text number v => normalizeSize_eq_ok_iff,
    fun text number refusal => invalid_of_normalizeSize, fun r nonneg fits => ?_⟩
  obtain ⟨both, text, number⟩ := r.statesSize nonneg fits
  have sized {text : Option String} {number : Option Int} (states : StatesSize text number r.size) :
      normalizeSize text number = .ok r.size :=
    normalizeSize_eq_ok_iff.mpr ⟨nonneg, states⟩
  refine ⟨⟨r.sizeText, r.size, ?_, ?_, sized both, sized text, sized number⟩, ?_⟩
  · simp [Record.viewMembers]
  · simp [Record.viewMembers]
  · exact ⟨_, Record.parse_view nonneg fits, sized both⟩

/-- Ann's record of a size. -/
def Record.annSized (size : Int) : Record where
  id := Uuid.numbered 0
  storageId := ""
  owner := "ann"
  sha256 := ""
  objectName := "log"
  size := size
  mimeType := "text/plain"
  linkedObject := ""
  garbage := false
  createdAt := ⟨0, 0⟩
  updatedAt := ⟨0, 0⟩

theorem sizes_normalized_exactly_largest :
    normalizeSize (some "\t+007 ") (some 0) = .ok 7 ∧
      ∃ m, Metadata.parse (Text.utf8 (Record.annSized Text.maxInt64).view.text) = .ok m ∧
        m.size = .ok Text.maxInt64 := by
  obtain ⟨exact, -, back⟩ := sizes_normalized_exactly
  obtain ⟨-, m, read, size⟩ := back (.annSized Text.maxInt64) (by decide) (Int.le_refl _)
  refine ⟨(exact (some "\t+007 ") (some 0) 7).mpr ⟨by decide, .text rfl rfl ?_⟩, m, read, size⟩
  have seven : Text.Decimal ['+', '0', '0', '7'] 7 := .plus (by decide)
  have between : "\t+007 ".toList = ['\t'] ++ ['+', '0', '0', '7'] ++ [' '] := by decide
  exact .decimal between (List.forall_mem_singleton.mpr (by decide))
    (List.forall_mem_singleton.mpr (by decide)) seven (by decide) (by decide)

end Sizes
end ContentStore
