import ContentStore.Proofs.Reachable
import ContentStore.Proofs.Totals

/-!
# Stores that are alike for an owner

Two stores are alike for an owner if they have the owner's rows in common, garbage or not, and the
rows that these name as those of their bytes, besides the owner's plan and the supply of
identifiers (`Store.Alike`). All other rows may differ. Whatever is read for the owner is then the
same in both: what stands under the owner's keys and under those that links name, the total, and
every listing. And what is written for the owner leaves them alike (`Paired.put`,
`Paired.markGarbage`).
-/

namespace ContentStore

/-- One of the owner's rows names this key as that of its bytes. -/
def Store.Names (s : Store) (owner key : String) : Prop :=
  ∃ r ∈ s.rows, r.owner = owner ∧ r.linkedObject = key

/-- The two stores have in common whatever is the owner's. -/
structure Store.Alike (owner : String) (s t : Store) : Prop where
  own : ∀ r, r.owner = owner → (r ∈ s.rows ↔ r ∈ t.rows)
  named : ∀ r, s.Names owner r.storageId → (r ∈ s.rows ↔ r ∈ t.rows)
  plan : s.plan? owner = t.plan? owner
  supply : s.nextId = t.nextId

/-- Two well-formed stores that are alike for an owner. -/
structure Store.Paired (used : Set (String × ContentHash)) (owner : String) (s t : Store) :
    Prop where
  alike : Alike owner s t
  left : s.WellFormed used
  right : t.WellFormed used

/-- The two stores differ at most in the rows of this key. -/
def Store.DifferAt (s s' : Store) (key : String) : Prop :=
  ∀ r, r.storageId ≠ key → (r ∈ s'.rows ↔ r ∈ s.rows)

namespace Store

variable {used : Set (String × ContentHash)} {s s' t t' : Store} {owner key : String}
  {hash : ContentHash} {r : Record} {d : Draft} {now : Time.Instant}

/-! ### What is read -/

theorem matching_sorted (s : Store) {f : ListFilter} :
    (s.matching owner f).Pairwise fun a b => listingOrder a b = true := by
  refine List.pairwise_mergeSort (fun a b c first later => ?_) (fun a b => ?_) _
  · simp only [listingOrder, decide_eq_true_eq] at first later ⊢
    exact String.le_trans first later
  · simp only [listingOrder, Bool.or_eq_true, decide_eq_true_eq]
    exact String.le_total _ _

namespace Paired

/-- The rows under the owner's keys are the owner's. -/
theorem mem_of_key (paired : Paired used owner s t) (free : CollisionFree used)
    (mem : (owner, hash) ∈ used) (hasKey : r.storageId = storageId owner hash) :
    r ∈ s.rows ↔ r ∈ t.rows := by
  constructor
  · intro row
    have owned := (paired.left.of_key free mem row hasKey).1
    exact (paired.alike.own r owned).mp row
  · intro row
    have owned := (paired.right.of_key free mem row hasKey).1
    exact (paired.alike.own r owned).mpr row

theorem find?_eq (paired : Paired used owner s t) (free : CollisionFree used)
    (mem : (owner, hash) ∈ used) :
    s.find? (storageId owner hash) = t.find? (storageId owner hash) :=
  paired.left.distinct.find?_congr paired.right.distinct fun _ hasKey =>
    paired.mem_of_key free mem hasKey

theorem written_eq (paired : Paired used owner s t) (free : CollisionFree used)
    (mem : (owner, hash) ∈ used) (hasKey : d.storageId = storageId owner hash) :
    s.written d now = t.written d now := by
  have same : s.row? d.storageId = t.row? d.storageId := by
    refine paired.left.distinct.row?_congr paired.right.distinct fun r same => ?_
    exact paired.mem_of_key free mem (same.trans hasKey)
  rw [written, written, same, paired.alike.supply]

/-- What the owner's links name is the same in both. -/
theorem find?_eq_of_names (paired : Paired used owner s t) (names : s.Names owner key) :
    s.find? key = t.find? key := by
  refine paired.left.distinct.find?_congr paired.right.distinct fun r hasKey => ?_
  exact paired.alike.named r (hasKey ▸ names)

/-- What a row found under the owner's key names is the same in both. -/
theorem find?_linkedObject (paired : Paired used owner s t) (free : CollisionFree used)
    (mem : (owner, hash) ∈ used) (found : s.find? (storageId owner hash) = some r) :
    s.find? r.linkedObject = t.find? r.linkedObject := by
  obtain ⟨old, hasKey, -⟩ := find?_some found
  have owned := (paired.left.of_key free mem old hasKey).1
  exact paired.find?_eq_of_names ⟨r, old, owned, rfl⟩

/-- What is kept of the owner's rows is the same in both, up to order. -/
theorem filter_perm (paired : Paired used owner s t) {keep : Record → Bool}
    (owned : ∀ r, keep r = true → r.owner = owner) :
    (s.rows.filter keep).Perm (t.rows.filter keep) := by
  have nodup := (List.Nodup.of_map _ paired.left.distinct).filter keep
  have nodup' := (List.Nodup.of_map _ paired.right.distinct).filter keep
  refine (List.perm_ext_iff_of_nodup nodup nodup').mpr fun r => ?_
  rw [List.mem_filter, List.mem_filter]
  exact and_congr_left fun kept => paired.alike.own r (owned r kept)

theorem usage?_eq (paired : Paired used owner s t) (excluding : List String) :
    s.usage? owner excluding = t.usage? owner excluding := by
  have perm : (s.counted owner excluding).Perm (t.counted owner excluding) := by
    refine paired.filter_perm fun r counts => ?_
    simp only [Bool.and_eq_true, decide_eq_true_eq] at counts
    exact counts.1.1
  exact sumInt64_perm (perm.map _) (paired.left.counted_nonneg excluding)

/-- A listing is in order of keys, so that it does not depend on that of the rows. -/
theorem matching_eq (paired : Paired used owner s t) (f : ListFilter) :
    s.matching owner f = t.matching owner f := by
  have perm : (s.matching owner f).Perm (t.matching owner f) := by
    refine (List.mergeSort_perm _ _).trans (.trans ?_ (List.mergeSort_perm _ _).symm)
    refine paired.filter_perm fun r admitted => ?_
    simp only [Bool.and_eq_true, decide_eq_true_eq] at admitted
    exact admitted.1.1
  refine List.Perm.eq_of_pairwise (fun a b memA memB before after => ?_) s.matching_sorted
    t.matching_sorted perm
  simp only [listingOrder, decide_eq_true_eq] at before after
  have rowA := (mem_matching.mp memA).1
  have rowB := (mem_matching.mp (perm.mem_iff.mpr memB)).1
  exact paired.left.distinct.eq_of_key rowA rowB (String.le_antisymm before after)

theorem list_eq (paired : Paired used owner s t) (f : ListFilter) (limit : Nat) :
    s.list owner f limit = t.list owner f limit := by
  rw [list, list, paired.matching_eq]

end Paired

/-! ### What is written -/

theorem differAt_put : s.DifferAt (s.put d now) d.storageId := by
  intro r other
  rw [mem_put_iff]
  constructor
  · rintro (rfl | ⟨row, -⟩)
    · exact absurd (storageId_written s d now) other
    · exact row
  · exact fun row => .inr ⟨row, other⟩

theorem differAt_markGarbage : s.DifferAt (s.markGarbage key now) key := by
  intro r other
  rw [mem_markGarbage_iff]
  constructor
  · rintro (⟨r', -, hasKey, -, rfl⟩ | ⟨row, -⟩)
    · exact absurd hasKey other
    · exact row
  · exact fun row => .inr ⟨row, fun hit => other hit.1⟩

/-- Two stores that are written at one key stay alike, if the row written is the same and names what
was named before. -/
theorem Alike.of_differAt (alike : Alike owner s t) (left : s.DifferAt s' key)
    (right : t.DifferAt t' key) (same : ∀ r, r.storageId = key → (r ∈ s'.rows ↔ r ∈ t'.rows))
    (aims : ∀ r ∈ s'.rows, r.storageId = key → r.owner = owner → s.Names owner r.linkedObject ∨
      ∀ r' : Record, r'.storageId = r.linkedObject → (r' ∈ s'.rows ↔ r' ∈ t'.rows))
    (plan : s'.plan? owner = t'.plan? owner) (supply : s'.nextId = t'.nextId) :
    Alike owner s' t' := by
  have elsewhere : ∀ r, r.storageId ≠ key → (r ∈ s.rows ↔ r ∈ t.rows) →
      (r ∈ s'.rows ↔ r ∈ t'.rows) := by
    intro r other before
    rw [left r other, right r other]
    exact before
  refine ⟨fun r owned => ?_, fun r names => ?_, plan, supply⟩
  · by_cases hasKey : r.storageId = key
    · exact same r hasKey
    · exact elsewhere r hasKey (alike.own r owned)
  · by_cases hasKey : r.storageId = key
    · exact same r hasKey
    · -- The row that names this one may have been written just now.
      obtain ⟨link, row, owned, aim⟩ := names
      by_cases written : link.storageId = key
      · rcases aims link row written owned with named | nothing
        · exact elsewhere r hasKey (alike.named r (aim ▸ named))
        · exact nothing r aim.symm
      · have before : s.Names owner r.storageId := ⟨link, (left link written).mp row, owned, aim⟩
        exact elsewhere r hasKey (alike.named r before)

namespace Paired

/-- No row stands under the empty key, which rows name that own their bytes. -/
theorem mem_of_empty (left : s.WellFormed used) (right : t.WellFormed used)
    (none : r.storageId = "") : r ∈ s.rows ↔ r ∈ t.rows := by
  have absent : ∀ u : Store, u.WellFormed used → r ∉ u.rows := by
    intro u wellFormed row
    obtain ⟨hash, -, -, keyed⟩ := wellFormed.keyed r row
    exact storageId_ne_empty _ _ (keyed.symm.trans none)
  exact iff_of_false (absent s left) (absent t right)

/-- Writing the same row of the owner's leaves both alike, unless it names something new. -/
theorem put (paired : Paired used owner s t) (free : CollisionFree used)
    (mem : (owner, hash) ∈ used) (drafted : d.IsFor owner hash)
    (aims : d.linkedObject = "" ∨ s.Names owner d.linkedObject) :
    Paired used owner (s.put d now) (t.put d now) := by
  have left : (s.put d now).WellFormed used := paired.left.put mem drafted
  have right : (t.put d now).WellFormed used := paired.right.put mem drafted
  refine ⟨paired.alike.of_differAt differAt_put differAt_put ?_ ?_ ?_ ?_, left, right⟩
  · intro r hasKey
    rw [mem_put_iff, mem_put_iff, paired.written_eq free mem drafted.key]
    exact or_congr_right (iff_of_false (fun row => row.2 hasKey) fun row => row.2 hasKey)
  · intro r row hasKey _
    rcases mem_put_iff.mp row with rfl | ⟨-, other⟩
    · rw [linkedObject_written]
      rcases aims with own | named
      · exact .inr fun r' none => mem_of_empty left right (none.trans own)
      · exact .inl named
    · exact absurd hasKey other
  · exact paired.alike.plan
  · exact congrArg (· + 1) paired.alike.supply

/-- Turning the same row of the owner's into garbage leaves both alike. -/
theorem markGarbage (paired : Paired used owner s t) (free : CollisionFree used)
    (mem : (owner, hash) ∈ used) :
    Paired used owner (s.markGarbage (storageId owner hash) now)
      (t.markGarbage (storageId owner hash) now) := by
  refine ⟨paired.alike.of_differAt differAt_markGarbage differAt_markGarbage ?_ ?_ ?_ ?_,
    paired.left.markGarbage, paired.right.markGarbage⟩
  · intro r hasKey
    rw [mem_markGarbage_iff, mem_markGarbage_iff]
    refine or_congr ?_ (and_congr_left' (paired.mem_of_key free mem hasKey))
    refine exists_congr fun r' => ?_
    exact and_congr_left fun hit => paired.mem_of_key free mem hit.1
  · intro r row hasKey owned
    rcases mem_markGarbage_iff.mp row with ⟨r', old, -, -, rfl⟩ | ⟨old, -⟩
    · exact .inl ⟨r', old, owned, rfl⟩
    · exact .inl ⟨r, old, owned, rfl⟩
  · exact paired.alike.plan
  · exact paired.alike.supply

end Paired
end Store
end ContentStore
