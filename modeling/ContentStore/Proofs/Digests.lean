import ContentStore.Proofs.Filters
import ContentStore.Service

/-!
# Digests in letters of either case

A text is read as a hash exactly if it is a digest: 64 hexadecimal digits, each letter in either
case (`ContentHash.exists_parse_iff`). The digits of the hash are then those of the text in lower
case, so that two digests name one hash exactly if they differ in the case of letters only.

Nothing behind the reading sees the text again. Every action that names a hash is the same
operation for each spelling of it, in all surroundings and on every store
(`digests_read_in_either_case`).
-/

namespace ContentStore

/-- A hexadecimal digit, with a letter of either case. -/
def Text.IsHexDigit (c : Char) : Prop :=
  ('0' ≤ c ∧ c ≤ '9') ∨ ('a' ≤ c ∧ c ≤ 'f') ∨ ('A' ≤ c ∧ c ≤ 'F')

instance (c : Char) : Decidable (Text.IsHexDigit c) :=
  inferInstanceAs (Decidable (_ ∨ _))

/-- The form of a digest: 64 hexadecimal digits, with letters of either case. -/
def IsDigest (text : String) : Prop :=
  text.length = 64 ∧ ∀ c ∈ text.toList, Text.IsHexDigit c

/-- The second text spells the digest that the first one is, with letters in any case. -/
def Respells (text text' : String) : Prop :=
  IsDigest text ∧ text'.toLower = text.toLower

/-! ### Digits -/

namespace Text.Hex

variable {c : Char} {cs : List Char}

/-- The digits are the characters that have a value. -/
theorem isSome_value?_iff : (value? c).isSome ↔ IsHexDigit c := by
  have lies (low high : Char) :
      (low ≤ c ∧ c ≤ high) ↔ low.toNat ≤ c.toNat ∧ c.toNat ≤ high.toNat := by
    simp only [Char.le_def, UInt32.le_iff_toNat_le, Char.toNat_val]
  simp only [IsHexDigit, lies]
  fun_cases value? c with
  | case1 _ number => exact iff_of_true rfl (.inl number)
  | case2 _ _ lower => exact iff_of_true rfl (.inr (.inl lower))
  | case3 _ _ _ upper => exact iff_of_true rfl (.inr (.inr upper))
  | case4 _ noNumber noLower noUpper =>
      refine iff_of_false Bool.false_ne_true ?_
      rintro (number | lower | upper)
      · exact noNumber number
      · exact noLower lower
      · exact noUpper upper

/-- Digits in pairs are read. -/
theorem exists_decodeFrom (position : Nat) (even : cs.length % 2 = 0)
    (digits : ∀ c ∈ cs, IsHexDigit c) :
    ∃ bytes, decodeFrom position cs = .ok bytes := by
  fun_induction decodeFrom position cs with
  | case1 => exact ⟨[], rfl⟩
  | case2 => simp at even
  | case3 position c d rest high low valueD valueC bytes' ran ih => exact ⟨_, rfl⟩
  | case4 position c d rest high low valueD valueC fault ran ih =>
      simp only [List.length_cons] at even
      obtain ⟨bytes, read⟩ := ih (by omega) fun x mem => digits x (by simp [mem])
      rw [ran] at read
      cases read
  | case5 position c d rest noValue =>
      have value := isSome_value?_iff.mpr (digits c (by simp))
      simp [noValue] at value
  | case6 position c d rest high noValue valueC =>
      have value := isSome_value?_iff.mpr (digits d (by simp))
      simp [noValue] at value

end Text.Hex

/-! ### Hashes -/

theorem lowerCase_eq_toLower (s : String) : lowerCase s = s.toLower := by
  rw [lowerCase, ← String.toList_inj, String.toList_ofList]
  exact String.toList_map.symm

namespace ContentHash

variable {text text' : String} {hash hash' : ContentHash}

/-- The texts that are read as hashes are the digests. -/
theorem exists_parse_iff : (∃ hash, parse text = .ok hash) ↔ IsDigest text := by
  constructor
  · rintro ⟨hash, parsed⟩
    obtain ⟨length, digits⟩ := Text.Hex.digits_of_decodeFrom (parse_eq_ok_iff.mp parsed)
    rw [hash.length_eq, String.length_toList] at length
    refine ⟨length, fun c mem => ?_⟩
    exact Text.Hex.isSome_value?_iff.mp (Option.isSome_iff_exists.mpr (digits c mem))
  · rintro ⟨length, digits⟩
    rw [← String.length_toList] at length
    obtain ⟨bytes, read⟩ := Text.Hex.exists_decodeFrom 0 (by omega) digits
    have count := (Text.Hex.digits_of_decodeFrom read).1
    exact ⟨⟨bytes, by omega⟩, parse_eq_ok_iff.mpr read⟩

/-- The digits of a hash are those of the text that it was read from, in lower case. -/
theorem hex_of_parse (parsed : parse text = .ok hash) : hash.hex = text.toLower := by
  rw [hex_eq_lowerCase_iff.mpr parsed, lowerCase_eq_toLower]

/-- Two digests name one hash exactly if they differ in the case of letters only. -/
theorem eq_iff_of_parse (parsed : parse text = .ok hash) (parsed' : parse text' = .ok hash') :
    hash = hash' ↔ text.toLower = text'.toLower := by
  rw [← hex_of_parse parsed, ← hex_of_parse parsed']
  exact hex_injective.eq_iff.symm

end ContentHash

/-! ### Actions -/

section Actions

variable {text text' : String}

theorem Respells.require_eq (respells : Respells text text') :
    ContentHash.require text' = ContentHash.require text := by
  obtain ⟨hash, parsed⟩ := ContentHash.exists_parse_iff.mpr respells.1
  rw [ContentHash.require, ContentHash.require, parsed,
    ContentHash.parse_of_toLower parsed respells.2]

/-- The request, asking for the rows of this hash. -/
def ListRequest.asking (q : ListRequest) (text : String) : ListRequest :=
  { q with filter := { q.filter with sha256 := some text } }

theorem ListRequest.effectiveFilter_asking (q : ListRequest) (respells : Respells text text') :
    (q.asking text').effectiveFilter = (q.asking text).effectiveFilter := by
  unfold effectiveFilter asking
  dsimp only
  rw [respells.require_eq]

theorem Operation.update_respelled (caller : Caller) (m : Metadata) {new new' : Option String}
    (respells : Respells text text') (respellsNew : Option.Rel Respells new new') :
    update caller text' ⟨m, new'⟩ = update caller text ⟨m, new⟩ := by
  unfold update
  cases respellsNew with
  | none => rw [respells.require_eq]
  | some respellsNew => dsimp only; rw [respells.require_eq, respellsNew.require_eq]

/-- **Hashes are read from the digests, in letters of either case.** A text is read as a hash
exactly if it is a digest, and the hash is written as the text in lower case; a hash is read from
its own digits; and two texts that are read name the same hash exactly if they differ in the case of
letters only. Every action on a hash is the same operation for each spelling of it: it answers
alike and leaves the same store, whatever the surroundings and the store. -/
theorem digests_read_in_either_case :
    (∀ text, (∃ hash, ContentHash.parse text = .ok hash) ↔ IsDigest text) ∧
    (∀ text hash, ContentHash.parse text = .ok hash → hash.hex = text.toLower) ∧
    (∀ hash : ContentHash, ContentHash.parse hash.hex = .ok hash) ∧
    (∀ text text' hash hash', ContentHash.parse text = .ok hash →
      ContentHash.parse text' = .ok hash' → (hash = hash' ↔ text.toLower = text'.toLower)) ∧
    ∀ text text', Respells text text' → ∀ caller : Caller,
      (∀ m autoLink, Operation.register caller text' m autoLink =
        Operation.register caller text m autoLink) ∧
      (∀ autoLink, Operation.fetch caller text' autoLink = Operation.fetch caller text autoLink) ∧
      (∀ m new new', Option.Rel Respells new new' →
        Operation.update caller text' ⟨m, new'⟩ = Operation.update caller text ⟨m, new⟩) ∧
      Operation.delete caller text' = Operation.delete caller text ∧
      ∀ q : ListRequest,
        Operation.listPage caller (q.asking text') = Operation.listPage caller (q.asking text) := by
  refine ⟨fun text => ContentHash.exists_parse_iff, fun text hash => ContentHash.hex_of_parse,
    ContentHash.parse_hex, fun text text' hash hash' => ContentHash.eq_iff_of_parse, ?_⟩
  intro text text' respells caller
  have same := respells.require_eq
  refine ⟨?_, ?_, ?_, ?_, ?_⟩
  · intro m autoLink
    rw [Operation.register, Operation.register, same]
  · intro autoLink
    rw [Operation.fetch, Operation.fetch, same]
  · intro m new new' respellsNew
    exact Operation.update_respelled caller m respells respellsNew
  · rw [Operation.delete, Operation.delete, same]
  · intro q
    rw [Operation.listPage, Operation.listPage, q.effectiveFilter_asking respells]
    rfl

theorem digests_read_in_either_case_capitals :
    let capitals := String.ofList (List.replicate 64 'A')
    let smalls := String.ofList (List.replicate 64 'a')
    Respells capitals smalls ∧
      (∃ hash, ContentHash.parse capitals = .ok hash ∧ hash.hex = smalls) ∧
      Operation.delete .ann smalls = Operation.delete .ann capitals := by
  intro capitals smalls
  have isDigest : IsDigest capitals := by
    refine ⟨by decide, fun c mem => ?_⟩
    rw [String.toList_ofList] at mem
    rw [List.eq_of_mem_replicate mem]
    decide
  have lower : capitals.toLower = smalls := by
    rw [← lowerCase_eq_toLower]
    decide
  have same : smalls.toLower = smalls := by
    rw [← lowerCase_eq_toLower]
    decide
  have respells : Respells capitals smalls := ⟨isDigest, same.trans lower.symm⟩
  obtain ⟨isHash, hex, -, -, actions⟩ := digests_read_in_either_case
  obtain ⟨hash, parsed⟩ := (isHash capitals).mpr isDigest
  obtain ⟨-, -, -, deleted, -⟩ := actions capitals smalls respells .ann
  exact ⟨respells, ⟨hash, parsed, (hex capitals hash parsed).trans lower⟩, deleted⟩

end Actions
end ContentStore
