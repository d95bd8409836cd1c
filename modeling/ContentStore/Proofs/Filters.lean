import ContentStore.Proofs.ByteOrder
import ContentStore.Proofs.Paging
import ContentStore.Proofs.Spelling
import Mathlib.Data.List.TakeWhile

/-!
# Filters and what they list

A filter asks for rows by their texts: a name, what a name starts with, a type, a hash in letters of
either case, links or not, and storage ids behind a given one. `ListFilter.Wants` says that without
a word on how the tables compare texts, and a listing with room for all rows is compared with it.

All conditions but one are answered exactly. The start of a name is cut off at its first NUL when it
is measured, and is compared in full: a start with a NUL in it is the start of no name, not even of
its own (`startsAs_iff`).
-/

namespace ContentStore

/-- What a filter asks of a row. -/
structure ListFilter.Wants (f : ListFilter) (r : Record) : Prop where
  named : ∀ name ∈ f.objectName, r.objectName = name
  starts : ∀ start ∈ f.nameStart, start.toList <+: r.objectName.toList
  typed : ∀ mime ∈ f.mimeType, r.mimeType = mime
  hashed : ∀ text ∈ f.sha256, ∃ hash, ContentHash.parse text = .ok hash ∧ r.sha256 = hash.hex
  linked : ∀ linked ∈ f.linked, r.isLink = linked
  behind : ∀ after ∈ f.after, Text.utf8 after < Text.utf8 r.storageId

/-- The start asked for, if there is one, has no NUL. -/
def ListFilter.PlainStart (f : ListFilter) : Prop :=
  ∀ start ∈ f.nameStart, '\x00' ∉ start.toList

/-- The row is a live one of the owner, and the filter asks for it. -/
def Store.Wanted (s : Store) (owner : String) (f : ListFilter) (r : Record) : Prop :=
  r ∈ s.rows ∧ r.owner = owner ∧ r.garbage = false ∧ f.Wants r

/-! ### Hashes in either case -/

/-- A digit in lower case is the one that is written for its value. -/
theorem Text.Hex.toLower_of_value? {c : Char} {n : Nat} (read : value? c = some n) :
    n < 16 ∧ c.toLower = digit n := by
  have ranges : (48 ≤ c.toNat ∧ c.toNat ≤ 57 ∧ n = c.toNat - 48) ∨
      (97 ≤ c.toNat ∧ c.toNat ≤ 102 ∧ n = c.toNat - 87) ∨
      (65 ≤ c.toNat ∧ c.toNat ≤ 70 ∧ n = c.toNat - 55) := by
    unfold value? at read
    grind
  have small : n < 16 := by omega
  have written : ∀ n : Fin 16, (digit n).toNat = if n.val < 10 then 48 + n.val else 87 + n.val := by
    decide
  refine ⟨small, Char.toNat_inj.mp ?_⟩
  rw [toNat_toLower, written ⟨n, small⟩]
  dsimp only
  split <;> split <;> omega

/-- The digits of bytes, in lower case, are the ones that are written for them. -/
theorem Text.Hex.map_toLower_of_decodeFrom {position : Nat} {cs : List Char} {bytes : List UInt8}
    (read : decodeFrom position cs = .ok bytes) : cs.map Char.toLower = encode bytes := by
  fun_induction decodeFrom position cs generalizing bytes with
  | case1 => cases read; rfl
  | case2 => cases read
  | case3 position c d rest high low valueD valueC bytes' ran ih =>
      cases read
      obtain ⟨smallC, lowerC⟩ := toLower_of_value? valueC
      obtain ⟨smallD, lowerD⟩ := toLower_of_value? valueD
      have byte : (UInt8.ofNat (16 * high + low)).toNat = 16 * high + low := by
        rw [UInt8.toNat_ofNat']
        omega
      rw [encode, List.flatMap_cons, pair, byte, show (16 * high + low) / 16 = high by omega,
        show (16 * high + low) % 16 = low by omega, List.map_cons, List.map_cons, ih ran, lowerC,
        lowerD]
      rfl
  | case4 => cases read
  | case5 => cases read
  | case6 => cases read

/-- A text is the digits of a hash, but for the case of letters, exactly if it names it. -/
theorem ContentHash.hex_eq_lowerCase_iff {text : String} {hash : ContentHash} :
    hash.hex = lowerCase text ↔ parse text = .ok hash := by
  constructor
  · intro same
    refine parse_of_toLower hash.parse_hex ?_
    have digits : ∀ c ∈ hash.hex.toList, c.toLower = c := by
      intro c mem
      rw [hex, String.toList_ofList] at mem
      have all : ∀ n : Fin 16, (Text.Hex.digit n).toLower = Text.Hex.digit n := by decide
      obtain ⟨n, rfl⟩ := Text.Hex.exists_digit_of_mem_encode mem
      exact all n
    have lower (t : String) : t.toLower.toList = t.toList.map Char.toLower := String.toList_map
    rw [← String.toList_inj, lower, lower, List.map_congr_left digits, List.map_id', same,
      lowerCase, String.toList_ofList]
  · intro parsed
    rw [lowerCase, Text.Hex.map_toLower_of_decodeFrom (parse_eq_ok_iff.mp parsed), hex]

/-! ### Starts of names -/

/-- A start without NUL is the start of the names that it is; one with a NUL is that of none. -/
theorem startsAs_iff {name start : String} :
    startsAs name start = true ↔ start.toList <+: name.toList ∧ '\x00' ∉ start.toList := by
  rw [startsAs, decide_eq_true_eq]
  constructor
  · intro same
    have plain : '\x00' ∉ start.toList := by
      intro mem
      -- As many characters as stand in front of the NUL are fewer than the start has.
      have cut := (List.takeWhile_prefix (· ≠ '\x00') (l := start.toList)).length_le
      have count := congrArg List.length same
      rw [List.length_take] at count
      have all := (List.takeWhile_prefix (· ≠ '\x00') (l := start.toList)).eq_of_length (by omega)
      simpa using List.takeWhile_eq_self_iff.mp all _ mem
    refine ⟨?_, plain⟩
    rw [← same]
    exact List.take_prefix _ _
  · rintro ⟨starts, plain⟩
    have whole : start.toList.takeWhile (· ≠ '\x00') = start.toList := by
      refine List.takeWhile_eq_self_iff.mpr fun c mem => decide_eq_true ?_
      rintro rfl
      exact plain mem
    rw [whole]
    exact (List.prefix_iff_eq_take.mp starts).symm

/-! ### Whole filters -/

theorem meets_iff {α : Type} {given : Option α} {condition : α → Bool} :
    meets given condition = true ↔ ∀ a ∈ given, condition a = true := by
  cases given with
  | none => simp [meets]
  | some a => simp [meets]

/-- A row of some content is admitted exactly if it is asked for, and by no start with a NUL. -/
theorem ListFilter.admits_iff {f : ListFilter} {r : Record} {hash : ContentHash}
    (content : r.sha256 = hash.hex) : f.admits r = true ↔ f.Wants r ∧ f.PlainStart := by
  have sameHash (text : String) : r.sha256 = lowerCase text ↔
      ∃ hash, ContentHash.parse text = .ok hash ∧ r.sha256 = hash.hex := by
    constructor
    · intro same
      exact ⟨hash, ContentHash.hex_eq_lowerCase_iff.mp (content.symm.trans same), content⟩
    · rintro ⟨hash', parsed, content'⟩
      exact content'.trans (ContentHash.hex_eq_lowerCase_iff.mpr parsed)
  simp only [admits, Bool.and_eq_true, meets_iff, decide_eq_true_eq, startsAs_iff, sameHash,
    ← Text.utf8_lt_iff]
  constructor
  · rintro ⟨⟨⟨⟨⟨named, starts⟩, typed⟩, hashed⟩, linked⟩, behind⟩
    exact ⟨⟨named, fun start asked => (starts start asked).1, typed, hashed, linked, behind⟩,
      fun start asked => (starts start asked).2⟩
  · rintro ⟨⟨named, starts, typed, hashed, linked, behind⟩, plain⟩
    exact ⟨⟨⟨⟨⟨named, fun start asked => ⟨starts start asked, plain start asked⟩⟩, typed⟩, hashed⟩,
      linked⟩, behind⟩

section Listings

variable {s : Store} {e : Surroundings} {owner : String} {f : ListFilter} {n : Journal}
  {limit : Nat}

/-- What matches is what is wanted, unless the start has a NUL. -/
theorem Store.mem_matching_iff_wanted {used : Set (String × ContentHash)} {r : Record}
    (wellFormed : s.WellFormed used) :
    r ∈ s.matching owner f ↔ s.Wanted owner f r ∧ f.PlainStart := by
  rw [mem_matching, Wanted]
  constructor
  · rintro ⟨row, owned, live, admitted⟩
    obtain ⟨hash, -, content, -⟩ := wellFormed.keyed r row
    obtain ⟨wants, plain⟩ := (ListFilter.admits_iff content).mp admitted
    exact ⟨⟨row, owned, live, wants⟩, plain⟩
  · rintro ⟨⟨row, owned, live, wants⟩, plain⟩
    obtain ⟨hash, -, content, -⟩ := wellFormed.keyed r row
    exact ⟨row, owned, live, (ListFilter.admits_iff content).mpr ⟨wants, plain⟩⟩

/-- A listing with room for every row has all that matches. -/
theorem Store.list_of_room (room : s.rows.length ≤ limit) (small : limit < 2 ^ 63) :
    s.list owner f limit = s.matching owner f := by
  have most : (s.matching owner f).length ≤ limit := by
    rw [matching, List.length_mergeSort]
    exact (List.length_filter_le _ _).trans room
  have counts : limit ≤ Text.maxInt64.toNat := by
    have : Text.maxInt64.toNat = 2 ^ 63 - 1 := by decide
    omega
  rw [list, if_pos counts, List.take_of_length_le most]

/-- **Listings are exact but for starts with a NUL.** In every store that a run leads to, a listing
with room for every row is answered, its rows stand in the order of the bytes of their storage ids,
and each of them is a live row of the owner that the filter asks for. It has all of these exactly
unless the filter asks for some of them by a start with a NUL in it. -/
theorem listing_exact_iff (reached : Store.empty.LeadsTo s)
    (carries : e.Carries n.calls (.listing owner)) (room : s.rows.length ≤ limit)
    (small : limit < 2 ^ 63) :
    ∃ rows, Operation.list owner f limit e ⟨s, n⟩ = (.ok rows, ⟨s, n.calling 1⟩) ∧
      (rows.Pairwise fun a b => Text.utf8 a.storageId < Text.utf8 b.storageId) ∧
      (∀ r ∈ rows, s.Wanted owner f r) ∧
      ((∀ r, s.Wanted owner f r → r ∈ rows) ↔ (f.PlainStart ∨ ∀ r, ¬s.Wanted owner f r)) := by
  have wellFormed := reached.wellFormed .empty
  have mem (r : Record) : r ∈ s.matching owner f ↔ s.Wanted owner f r ∧ f.PlainStart :=
    Store.mem_matching_iff_wanted wellFormed
  refine ⟨s.matching owner f, ?_, ?_, ?_, ?_⟩
  · rcases Operation.list_run e s n owner f limit with ⟨-, ran⟩ | ⟨hit, -⟩
    · rw [ran, Store.list_of_room room small]
    · exact absurd carries hit
  · exact wellFormed.distinct.matching_pairwise.imp fun before => Text.utf8_lt_iff.mpr before
  · intro r listed
    exact ((mem r).mp listed).1
  · constructor
    · intro complete
      by_cases any : ∃ r, s.Wanted owner f r
      · obtain ⟨r, wanted⟩ := any
        exact .inl ((mem r).mp (complete r wanted)).2
      · exact .inr (not_exists.mp any)
    · rintro (plain | none) r wanted
      · exact (mem r).mpr ⟨wanted, plain⟩
      · exact absurd wanted (none r)

end Listings

/-- A filter for names with a given start. -/
def ListFilter.starting (start : String) : ListFilter :=
  { ListFilter.all with nameStart := some start }

/-- Ann's record of the hash of zeros, under a name. -/
def Record.annNamed (name : String) : Record :=
  (ownDraft "ann" .zeros ⟨some name, none, none, none⟩ 0).fresh (Uuid.numbered 0) ⟨0, 0⟩

/-- Ann has registered the hash of zeros under a name. -/
def Store.annNamed (name : String) : Store :=
  (Action.register ContentHash.zeros.hex ⟨some name, none, none, none⟩ false).after .ann
    (.calm .empty) .empty

theorem Store.rows_annNamed (name : String) : (annNamed name).rows = [.annNamed name] := by
  rw [annNamed, after_first _ rfl]
  rfl

/-- What a name starts with finds the record. -/
theorem Store.wanted_annNamed {name start : String} (starts : start.toList <+: name.toList) :
    (annNamed name).Wanted "ann" (.starting start) (.annNamed name) := by
  refine ⟨?_, rfl, rfl, ⟨?_, ?_, ?_, ?_, ?_, ?_⟩⟩
  · rw [rows_annNamed]
    exact List.mem_cons_self
  case refine_3 =>
    intro start' asked
    cases asked
    exact starts
  all_goals exact fun _ asked => nomatch asked

theorem listing_exact_iff_named :
    ∃ rows, Operation.list "ann" (.starting "a") 1 (.calm .empty) ⟨.annNamed "ab", 0⟩ =
        (.ok rows, ⟨.annNamed "ab", .calling 0 1⟩) ∧ Record.annNamed "ab" ∈ rows := by
  have room : (Store.annNamed "ab").rows.length ≤ 1 := by
    rw [Store.rows_annNamed]
    exact Nat.le_refl _
  have carries : (Surroundings.calm .empty).Carries (0 : Journal).calls (.listing "ann") :=
    ⟨rfl, fun _ => rfl⟩
  have reached : Store.empty.LeadsTo (.annNamed "ab") := .act .here
  obtain ⟨rows, listed, -, -, complete⟩ :=
    listing_exact_iff (f := .starting "a") reached carries room (by decide)
  have plain : (ListFilter.starting "a").PlainStart := by
    intro start asked
    cases asked
    decide
  exact ⟨rows, listed, complete.mpr (.inl plain) _ (Store.wanted_annNamed (by decide))⟩

/-- A listing with room for every row can leave a row out that the filter asks for: a record with a
NUL in its name is not listed by what its name starts with. -/
theorem not_listing_exact :
    ¬∀ (s : Store) (e : Surroundings) (owner : String) (f : ListFilter) (n : Journal)
      (limit : Nat) (rows : List Record), Store.empty.LeadsTo s →
      e.Carries n.calls (.listing owner) → s.rows.length ≤ limit → limit < 2 ^ 63 →
      (Operation.list owner f limit e ⟨s, n⟩).1 = .ok rows →
      ∀ r, s.Wanted owner f r → r ∈ rows := by
  intro exact
  have reached : Store.empty.LeadsTo (.annNamed "a\x00b") := .act .here
  have room : (Store.annNamed "a\x00b").rows.length ≤ 1 := by
    rw [Store.rows_annNamed]
    exact Nat.le_refl _
  have listed := exact (.annNamed "a\x00b") (.calm .empty) "ann" (.starting "a\x00") 0 1 _ reached
    ⟨rfl, fun _ => rfl⟩ room (by decide) rfl _ (Store.wanted_annNamed (by decide))
  rw [Store.list_of_room room (by decide),
    Store.mem_matching_iff_wanted (reached.wellFormed .empty)] at listed
  exact listed.2 "a\x00" rfl (by decide)

end ContentStore
