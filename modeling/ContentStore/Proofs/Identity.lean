import ContentStore.Proofs.Writes

/-!
# Rows and their identity

What identifies a row is set when it is first written and never changes: its identifier, key,
owner, content and time of creation. In every store that a run leads to, each row stands under the
key of its owner and its content, no two rows have both in common, and no later action makes a row
disappear or another one of it (`identities_kept`).

None of this needs SHA-256 to be free of collisions. If two keys were the same, the row that came
first would stay the row of its owner and content, and the second owner would get that row. So the
invariant is the one of `Store.WellFormed` with nothing said of what is used.
-/

namespace ContentStore

/-! ### Digits -/

/-- A digit of a hash in the form in which hashes are written. -/
def Text.IsLowerHex (c : Char) : Prop :=
  ('0' ≤ c ∧ c ≤ '9') ∨ ('a' ≤ c ∧ c ≤ 'f')

instance (c : Char) : Decidable (Text.IsLowerHex c) :=
  inferInstanceAs (Decidable (_ ∨ _))

theorem Text.Hex.isLowerHex_of_mem_encode {bytes : List UInt8} {c : Char}
    (mem : c ∈ Hex.encode bytes) : IsLowerHex c := by
  have all : ∀ n : Fin 16, IsLowerHex (Hex.digit n) := by decide
  obtain ⟨n, rfl⟩ := Hex.exists_digit_of_mem_encode mem
  exact all n

theorem Text.toNat_of_isLowerHex {c : Char} (digit : IsLowerHex c) : c.toNat < 128 := by
  have high : c.val ≤ 'f'.val := by
    rcases digit with ⟨-, high⟩ | ⟨-, high⟩
    · exact UInt32.le_trans high (by decide)
    · exact high
  exact Nat.lt_of_le_of_lt (UInt32.le_iff_toNat_le.mp high) (by decide)

theorem Text.utf8Size_of_isLowerHex {c : Char} (digit : IsLowerHex c) : c.utf8Size = 1 :=
  Char.utf8Size_eq_one_iff.mpr
    (UInt32.le_iff_toNat_le.mpr (Nat.lt_succ_iff.mp (toNat_of_isLowerHex digit)))

/-- The form of a storage id: 64 digits in lower case. -/
def IsStorageId (id : String) : Prop :=
  id.length = 64 ∧ ∀ c ∈ id.toList, Text.IsLowerHex c

instance (id : String) : Decidable (IsStorageId id) :=
  -- Going through the list, and not through all characters that there are.
  decidable_of_iff (id.length = 64 ∧ id.toList.all fun c => decide (Text.IsLowerHex c)) <| by
    simp only [IsStorageId, List.all_eq_true, decide_eq_true_eq]

theorem ContentHash.isStorageId_hex (hash : ContentHash) : IsStorageId hash.hex := by
  refine ⟨hash.length_hex, fun c mem => ?_⟩
  rw [hex, String.toList_ofList] at mem
  exact Text.Hex.isLowerHex_of_mem_encode mem

theorem isStorageId_storageId (owner : String) (hash : ContentHash) :
    IsStorageId (storageId owner hash) :=
  ContentHash.isStorageId_hex _

/-! ### Identities -/

/-- What identifies a row. -/
structure Identity where
  id : Uuid
  storageId : String
  owner : String
  sha256 : String
  createdAt : Time.Instant
  deriving DecidableEq, Repr

/-- What identifies this row. -/
def Record.identity (r : Record) : Identity :=
  ⟨r.id, r.storageId, r.owner, r.sha256, r.createdAt⟩

theorem Record.storageId_of_identity {r r' : Record} (same : r'.identity = r.identity) :
    r'.storageId = r.storageId :=
  congrArg Identity.storageId same

/-- The row has the digits of a hash for its content, the key of its owner and that hash, and a
size. -/
structure Record.Identified (r : Record) : Prop where
  length : r.sha256.length = 64
  digits : ∀ c ∈ r.sha256.toList, Text.IsLowerHex c
  keyed : ∃ hash : ContentHash, ContentHash.parse r.sha256 = .ok hash ∧ r.sha256 = hash.hex ∧
    r.storageId = ContentStore.storageId r.owner hash
  sized : 0 ≤ r.size

/-- Every row of the one store is identified as before in the other. -/
def Store.Keeps (s t : Store) : Prop :=
  ∀ r ∈ s.rows, ∃ r' ∈ t.rows, r'.identity = r.identity

section Rows

variable {e : Surroundings} {s s' t : Store} {owner : String} {names : ContentHash → Prop}
  {used : Set (String × ContentHash)} {d : Draft} {now : Time.Instant} {key : String} {r : Record}

theorem Store.Keeps.refl (s : Store) : s.Keeps s :=
  fun r row => ⟨r, row, rfl⟩

theorem Store.Keeps.trans {u : Store} (first : s.Keeps t) (later : t.Keeps u) : s.Keeps u := by
  intro r row
  obtain ⟨r', row', same⟩ := first r row
  obtain ⟨r'', row'', same'⟩ := later r' row'
  exact ⟨r'', row'', same'.trans same⟩

/-- A row of the later store with the key of an earlier one has its identity. -/
theorem Store.Keeps.identity_eq (keeps : s.Keeps t) (distinct : t.Distinct) (row : r ∈ s.rows)
    {r' : Record} (row' : r' ∈ t.rows) (same : r'.storageId = r.storageId) :
    r'.identity = r.identity := by
  obtain ⟨r'', row'', kept⟩ := keeps r row
  have sameKey : r'.storageId = r''.storageId :=
    same.trans (Record.storageId_of_identity kept).symm
  have one : r' = r'' := distinct.eq_of_key row' row'' sameKey
  rw [one, kept]

/-- The written row is the row of its key, if there was one. -/
theorem Store.Distinct.identity_written (distinct : s.Distinct) (row : r ∈ s.rows)
    (hasKey : r.storageId = d.storageId) : (s.written d now).identity = r.identity := by
  rcases written_cases s d now with ⟨absent, -⟩ | ⟨row', mem', hasKey', eq⟩
  · exact absurd hasKey (row?_eq_none_iff.mp absent r row)
  · have one : row' = r := distinct.eq_of_key mem' row (hasKey'.trans hasKey.symm)
    rw [eq, one]
    rfl

theorem Store.Distinct.keeps_put (distinct : s.Distinct) : s.Keeps (s.put d now) := by
  intro r row
  by_cases hasKey : r.storageId = d.storageId
  · exact ⟨_, mem_put_iff.mpr (.inl rfl), distinct.identity_written row hasKey⟩
  · exact ⟨r, mem_put_iff.mpr (.inr ⟨row, hasKey⟩), rfl⟩

theorem Store.keeps_markGarbage : s.Keeps (s.markGarbage key now) := by
  intro r row
  by_cases hit : r.storageId = key ∧ r.garbage = false
  · exact ⟨_, mem_markGarbage_iff.mpr (.inl ⟨r, row, hit.1, hit.2, rfl⟩), rfl⟩
  · exact ⟨r, mem_markGarbage_iff.mpr (.inr ⟨row, hit⟩), rfl⟩

/-! ### One action -/

/-- Whoever asks for it, what is written is written as the row of some owner for some content. -/
theorem Draft.Due.isFor (due : d.Due e s owner names) (wellFormed : s.WellFormed used) :
    ∃ owner hash, d.IsFor owner hash := by
  cases due with
  | @own hash m size _ sized => exact ⟨owner, hash, rfl, rfl, rfl, Metadata.size_nonneg sized⟩
  | @revised _ row m size _ found sized =>
      obtain ⟨old, -, -⟩ := Store.find?_some found
      obtain ⟨hash, -, content, keyed⟩ := wellFormed.keyed row old
      have nonneg := Metadata.sizeFor_nonneg sized (wellFormed.sized row old)
      exact ⟨row.owner, hash, keyed, rfl, content, nonneg⟩
  | @renamed _ row m _ found =>
      obtain ⟨old, -, -⟩ := Store.find?_some found
      obtain ⟨hash, -, content, keyed⟩ := wellFormed.keyed row old
      exact ⟨row.owner, hash, keyed, rfl, content, wellFormed.sized row old⟩
  | @moved _ newHash row m size _ found sized =>
      obtain ⟨old, -, -⟩ := Store.find?_some found
      have nonneg := Metadata.sizeFor_nonneg sized (wellFormed.sized row old)
      exact ⟨owner, newHash, rfl, rfl, rfl, nonneg⟩
  | @linked hash given target _ source =>
      exact ⟨owner, hash, wellFormed.isFor_linkTo given source⟩

theorem Writes.wellFormed (writes : Writes e s owner names s')
    (wellFormed : s.WellFormed Set.univ) : s'.WellFormed Set.univ := by
  refine writes.keeps wellFormed ?_ ?_
  · intro d due
    obtain ⟨owner, hash, drafted⟩ := due.isFor wellFormed
    exact wellFormed.put (Set.mem_univ _) drafted
  · intro t key wellFormed
    exact wellFormed.markGarbage

theorem Writes.keeps_rows (writes : Writes e s owner names s') (distinct : s.Distinct) :
    s.Keeps s' := by
  refine writes.keeps (Store.Keeps.refl s) ?_ ?_
  · intro d due
    exact distinct.keeps_put
  · intro t key keeps
    exact keeps.trans Store.keeps_markGarbage

/-! ### Runs -/

/-- Some sequence of actions of any callers, in any surroundings, leads from the one store to the
other. -/
inductive Store.LeadsTo (s : Store) : Store → Prop where
  | here : LeadsTo s s
  | act {t : Store} {e : Surroundings} {caller : Caller} {a : Action} :
      LeadsTo s t → LeadsTo s (a.after caller e t)
  | plan {t : Store} {owner : String} {plan : Plan} :
      LeadsTo s t → LeadsTo s (t.setPlan owner plan)

theorem Store.LeadsTo.wellFormed (leads : s.LeadsTo t) (wellFormed : s.WellFormed Set.univ) :
    t.WellFormed Set.univ := by
  induction leads with
  | here => exact wellFormed
  | act _ ih => exact (Action.writes _ _ _ _).wellFormed ih
  | plan _ ih => exact ih.setPlan

theorem Store.LeadsTo.keeps (leads : s.LeadsTo t) (wellFormed : s.WellFormed Set.univ) :
    s.Keeps t := by
  induction leads with
  | here => exact .refl s
  | act leads ih =>
      have distinct := (leads.wellFormed wellFormed).distinct
      exact ih.trans ((Action.writes _ _ _ _).keeps_rows distinct)
  | plan _ ih => exact ih

theorem Store.WellFormed.identified (wellFormed : s.WellFormed used) (row : r ∈ s.rows) :
    r.Identified := by
  obtain ⟨hash, -, content, keyed⟩ := wellFormed.keyed r row
  have sized := wellFormed.sized r row
  have form : IsStorageId r.sha256 := content ▸ hash.isStorageId_hex
  have parsed : ContentHash.parse r.sha256 = .ok hash := content ▸ hash.parse_hex
  exact ⟨form.1, form.2, ⟨hash, parsed, content, keyed⟩, sized⟩

/-- No two rows have both the owner and the content in common. -/
theorem Store.WellFormed.nodup_contents (wellFormed : s.WellFormed used) :
    (s.rows.map fun r => (r.owner, r.sha256)).Nodup := by
  refine List.Nodup.map_on ?_ (List.Nodup.of_map _ wellFormed.distinct)
  intro r row r' row' same
  obtain ⟨sameOwner, sameContent⟩ := Prod.mk.inj same
  obtain ⟨hash, -, content, keyed⟩ := wellFormed.keyed r row
  obtain ⟨-, keyed'⟩ := wellFormed.key_of_content row' (sameContent.symm.trans content)
  refine wellFormed.distinct.eq_of_key row row' ?_
  rw [keyed, keyed', sameOwner]

/-- **Rows keep their identity.** In every store that a run leads to, each row, garbage or not, has
the digits of a hash for its content and the key of its owner and that hash, its size is not
negative, and no two rows have owner and content in common. Whatever is done after that, no row
disappears, and the row of a key keeps its identifier, owner, content and time of creation. -/
theorem identities_kept (reached : Store.empty.LeadsTo s) :
    (∀ r ∈ s.rows, r.Identified) ∧ (s.rows.map fun r => (r.owner, r.sha256)).Nodup ∧
      ∀ t, s.LeadsTo t → ∀ r ∈ s.rows,
        (∃ r' ∈ t.rows, r'.storageId = r.storageId) ∧
        ∀ r' ∈ t.rows, r'.storageId = r.storageId → r'.identity = r.identity := by
  have wellFormed := reached.wellFormed .empty
  refine ⟨fun r row => wellFormed.identified row, wellFormed.nodup_contents, ?_⟩
  intro t leads r row
  have keeps := leads.keeps wellFormed
  have distinct := (leads.wellFormed wellFormed).distinct
  constructor
  · obtain ⟨r', row', same⟩ := keeps r row
    exact ⟨r', row', Record.storageId_of_identity same⟩
  · intro r' row' same
    exact keeps.identity_eq distinct row row' same

end Rows

theorem identities_kept_reviving :
    let s := (Action.register ContentHash.zeros.hex .empty false).after .ann (.calm .empty) .empty
    let t := (Action.register ContentHash.zeros.hex .empty false).after .ann (.calm .empty) <|
      (Action.delete ContentHash.zeros.hex).after .ann (.calm .empty) s
    ∃ r ∈ s.rows, r.Identified ∧ ∃ r' ∈ t.rows, r'.identity = r.identity := by
  intro s t
  have row : (ownDraft "ann" .zeros .empty 0).fresh (Uuid.numbered 0) ⟨0, 0⟩ ∈ s.rows := by
    dsimp only [s]
    rw [after_first .empty rfl]
    exact List.mem_cons_self
  obtain ⟨identified, -, kept⟩ := identities_kept (s := s) (.act .here)
  obtain ⟨⟨r', row', same⟩, identity⟩ := kept t (.act (.act .here)) _ row
  exact ⟨_, row, identified _ row, r', row', identity r' row' same⟩

end ContentStore
