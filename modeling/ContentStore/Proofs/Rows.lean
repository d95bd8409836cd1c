import ContentStore.Store.Basic
import Mathlib.Data.List.Nodup
import Mathlib.Data.List.Perm.Basic

/-!
# Rows under writes

What the two writes, `put` and `markGarbage`, do to the rows: which rows there are afterwards
(`mem_put_iff`, `rows_put_perm`) and what is found under each key (`find?_put`,
`find?_markGarbage`). Where keys are distinct, a key has at most one row, and `find?` and
membership say the same (`find?_eq_some_iff`).
-/

namespace ContentStore.Store

variable {s : Store} {d : Draft} {now : Time.Instant} {key : String} {r : Record}

/-- No two rows have the same key. -/
def Distinct (s : Store) : Prop :=
  (s.rows.map (·.storageId)).Nodup

/-- The rows of every other key. -/
def others (s : Store) (key : String) : List Record :=
  s.rows.filter (·.storageId ≠ key)

/-! ### Looking a key up -/

theorem row?_eq_none_iff : s.row? key = none ↔ ∀ r ∈ s.rows, r.storageId ≠ key := by
  simp [row?]

theorem find?_eq_none_iff :
    s.find? key = none ↔ ∀ r ∈ s.rows, r.storageId = key → r.garbage = true := by
  simp [find?]

theorem Distinct.eq_of_key (distinct : s.Distinct) {r' : Record} (mem : r ∈ s.rows)
    (mem' : r' ∈ s.rows) (same : r.storageId = r'.storageId) : r = r' :=
  List.inj_on_of_nodup_map distinct mem mem' same

/-- Where keys are distinct, what is found under a key is the live row that has it. -/
theorem Distinct.find?_eq_some_iff (distinct : s.Distinct) :
    s.find? key = some r ↔ r ∈ s.rows ∧ r.storageId = key ∧ r.garbage = false := by
  constructor
  · exact find?_some
  · rintro ⟨mem, rfl, live⟩
    cases found : s.find? r.storageId with
    | none =>
        have garbage := find?_eq_none_iff.mp found r mem rfl
        rw [live] at garbage
        cases garbage
    | some r' =>
        obtain ⟨mem', same, -⟩ := find?_some found
        rw [distinct.eq_of_key mem' mem same]

/-- Where keys are distinct, the row of a key is the one that has it. -/
theorem Distinct.row?_eq_some_iff (distinct : s.Distinct) :
    s.row? key = some r ↔ r ∈ s.rows ∧ r.storageId = key := by
  constructor
  · exact row?_some
  · rintro ⟨mem, rfl⟩
    cases found : s.row? r.storageId with
    | none => exact absurd rfl (row?_eq_none_iff.mp found r mem)
    | some r' =>
        obtain ⟨mem', same⟩ := row?_some found
        rw [distinct.eq_of_key mem' mem same]

/-- A garbage row is not found. -/
theorem Distinct.find?_of_garbage (distinct : s.Distinct) (stands : s.row? key = some r)
    (garbage : r.garbage = true) : s.find? key = none := by
  obtain ⟨mem, hasKey⟩ := row?_some stands
  rw [find?_eq_none_iff]
  intro r' mem' hasKey'
  rw [distinct.eq_of_key mem' mem (hasKey'.trans hasKey.symm)]
  exact garbage

/-- Two stores with the same rows of a key find the same under it. -/
theorem Distinct.find?_congr {t : Store} (distinct : s.Distinct) (distinct' : t.Distinct)
    (same : ∀ r, r.storageId = key → (r ∈ s.rows ↔ r ∈ t.rows)) : s.find? key = t.find? key := by
  ext r
  rw [distinct.find?_eq_some_iff, distinct'.find?_eq_some_iff]
  exact and_congr_left fun hasKey => same r hasKey.1

theorem Distinct.row?_congr {t : Store} (distinct : s.Distinct) (distinct' : t.Distinct)
    (same : ∀ r, r.storageId = key → (r ∈ s.rows ↔ r ∈ t.rows)) : s.row? key = t.row? key := by
  ext r
  rw [distinct.row?_eq_some_iff, distinct'.row?_eq_some_iff]
  exact and_congr_left fun hasKey => same r hasKey

/-! ### The written row -/

theorem linkedObject_written : (s.written d now).linkedObject = d.linkedObject := by
  unfold written
  split <;> rfl

theorem size_written : (s.written d now).size = d.size := by
  unfold written
  split <;> rfl

theorem objectName_written : (s.written d now).objectName = d.objectName := by
  unfold written
  split <;> rfl

theorem mimeType_written : (s.written d now).mimeType = d.mimeType := by
  unfold written
  split <;> rfl

theorem updatedAt_written : (s.written d now).updatedAt = now := by
  unfold written
  split <;> rfl

theorem isLink_written : (s.written d now).isLink = decide (d.linkedObject ≠ "") := by
  rw [Record.isLink, linkedObject_written]

theorem realStorageId_written :
    (s.written d now).realStorageId =
      if d.linkedObject = "" then d.storageId else d.linkedObject := by
  unfold Record.realStorageId
  rw [isLink_written, linkedObject_written, storageId_written]
  by_cases own : d.linkedObject = "" <;> simp [own]

/-- The written row is a new one from the draft, or it keeps what identifies the old one. -/
theorem written_cases (s : Store) (d : Draft) (now : Time.Instant) :
    (s.row? d.storageId = none ∧
        s.written d now = d.fresh (Uuid.numbered s.nextId) now) ∨
      ∃ row ∈ s.rows, row.storageId = d.storageId ∧ s.written d now = d.over row now := by
  unfold written
  split
  · next row any =>
      obtain ⟨mem, hasKey⟩ := row?_some any
      exact Or.inr ⟨row, mem, hasKey, rfl⟩
  · next absent => exact Or.inl ⟨absent, rfl⟩

/-- What is written over a live row keeps what identifies it. -/
theorem Distinct.written_of_find? (distinct : s.Distinct) (found : s.find? d.storageId = some r) :
    s.written d now = d.over r now := by
  obtain ⟨mem, hasKey, -⟩ := find?_some found
  rw [written, distinct.row?_eq_some_iff.mpr ⟨mem, hasKey⟩]

/-- If all rows of its key agree with the draft on the owner, the written row has that owner. -/
theorem owner_written (agree : ∀ r ∈ s.rows, r.storageId = d.storageId → r.owner = d.owner) :
    (s.written d now).owner = d.owner := by
  rcases written_cases s d now with ⟨-, eq⟩ | ⟨row, mem, hasKey, eq⟩
  · rw [eq]
    rfl
  · rw [eq]
    exact agree row mem hasKey

/-! ### Writing a row -/

theorem rows_put_of_none (absent : s.row? d.storageId = none) :
    (s.put d now).rows = s.rows ++ [s.written d now] := by
  simp [put, absent]

theorem rows_put_of_some {row : Record} (any : s.row? d.storageId = some row) :
    (s.put d now).rows =
      s.rows.map fun r => if r.storageId = d.storageId then s.written d now else r := by
  simp [put, any]

theorem mem_put_iff :
    r ∈ (s.put d now).rows ↔
      r = s.written d now ∨ (r ∈ s.rows ∧ r.storageId ≠ d.storageId) := by
  cases any : s.row? d.storageId with
  | none =>
      have absent := row?_eq_none_iff.mp any
      rw [rows_put_of_none any, List.mem_append, List.mem_singleton]
      constructor
      · rintro (mem | eq)
        · exact Or.inr ⟨mem, absent r mem⟩
        · exact Or.inl eq
      · rintro (eq | ⟨mem, -⟩)
        · exact Or.inr eq
        · exact Or.inl mem
  | some row =>
      obtain ⟨rowMem, rowKey⟩ := row?_some any
      rw [rows_put_of_some any, List.mem_map]
      constructor
      · rintro ⟨r', mem, rfl⟩
        by_cases hasKey : r'.storageId = d.storageId
        · exact Or.inl (if_pos hasKey)
        · rw [if_neg hasKey]
          exact Or.inr ⟨mem, hasKey⟩
      · rintro (rfl | ⟨mem, otherKey⟩)
        · exact ⟨row, rowMem, if_pos rowKey⟩
        · exact ⟨r, mem, if_neg otherKey⟩

theorem map_eq_self {rows : List Record} {f : Record → Record} (kept : ∀ r ∈ rows, f r = r) :
    rows.map f = rows :=
  (List.map_congr_left kept).trans (List.map_id' rows)

/-- Writing over the one row of a key puts the written row in front of the rest, up to order. -/
theorem map_over_perm {rows : List Record} {w row : Record}
    (distinct : (rows.map (·.storageId)).Nodup) (mem : row ∈ rows) (hasKey : row.storageId = key) :
    (rows.map fun r => if r.storageId = key then w else r).Perm
      (w :: rows.filter (·.storageId ≠ key)) := by
  induction rows with
  | nil => cases mem
  | cons r rest ih =>
      obtain ⟨fresh, distinct⟩ := List.nodup_cons.mp distinct
      by_cases here : r.storageId = key
      · -- No later row has the key, so the rest is neither written over nor left out.
        have away : ∀ r' ∈ rest, r'.storageId ≠ key := fun r' mem' same =>
          fresh (List.mem_map.mpr ⟨r', mem', same.trans here.symm⟩)
        have kept : (rest.map fun r' => if r'.storageId = key then w else r') = rest :=
          map_eq_self fun r' mem' => if_neg (away r' mem')
        rw [List.map_cons, if_pos here, kept, List.filter_cons_of_neg (by simpa using here),
          List.filter_eq_self.mpr fun r' mem' => by simpa using away r' mem']
      · rw [List.map_cons, if_neg here, List.filter_cons_of_pos (by simpa using here)]
        rcases List.mem_cons.mp mem with rfl | later
        · exact absurd hasKey here
        · exact ((ih distinct later).cons r).trans (.swap w r _)

/-- A write puts one row in front of the rows of other keys, up to order. -/
theorem Distinct.rows_put_perm (distinct : s.Distinct) :
    (s.put d now).rows.Perm (s.written d now :: s.others d.storageId) := by
  cases any : s.row? d.storageId with
  | none =>
      have all : s.others d.storageId = s.rows :=
        List.filter_eq_self.mpr fun r mem => by simpa using row?_eq_none_iff.mp any r mem
      rw [rows_put_of_none any, all]
      exact List.perm_append_singleton _ _
  | some row =>
      obtain ⟨mem, hasKey⟩ := row?_some any
      rw [rows_put_of_some any]
      exact map_over_perm distinct mem hasKey

/-- A live row stands in front of the rows of other keys, up to order. -/
theorem Distinct.rows_perm (distinct : s.Distinct) (found : s.find? key = some r) :
    s.rows.Perm (r :: s.others key) := by
  obtain ⟨mem, hasKey, -⟩ := find?_some found
  have unchanged : (s.rows.map fun r' => if r'.storageId = key then r else r') = s.rows := by
    refine map_eq_self fun r' mem' => ?_
    by_cases here : r'.storageId = key
    · rw [if_pos here, distinct.eq_of_key mem mem' (hasKey.trans here.symm)]
    · exact if_neg here
  have perm := map_over_perm (w := r) distinct mem hasKey
  rwa [unchanged] at perm

theorem find?_put :
    (s.put d now).find? key =
      if key = d.storageId then some (s.written d now) else s.find? key := by
  have writtenKey := storageId_written s d now
  have writtenLive := garbage_written s d now
  cases any : s.row? d.storageId with
  | none =>
      have absent := row?_eq_none_iff.mp any
      rw [find?, rows_put_of_none any, List.find?_append, List.find?_singleton]
      by_cases here : key = d.storageId
      · have missed : s.rows.find? (fun r => r.storageId = key && !r.garbage) = none := by
          simp only [List.find?_eq_none]
          intro r mem
          simp [here, absent r mem]
        rw [missed, if_pos here]
        simp [here, writtenKey, writtenLive]
      · simp [here, writtenKey, Ne.symm here, find?]
  | some row =>
      rw [find?, rows_put_of_some any, List.find?_map]
      by_cases here : key = d.storageId
      · have sees : ((fun r : Record => r.storageId = key && !r.garbage) ∘ fun r =>
            if r.storageId = d.storageId then s.written d now else r) =
            fun r => decide (r.storageId = d.storageId) := by
          funext r
          by_cases hasKey : r.storageId = d.storageId <;>
            simp [hasKey, here, writtenKey, writtenLive]
        have first : s.rows.find? (fun r => decide (r.storageId = d.storageId)) = some row := any
        rw [sees, first, if_pos here, Option.map_some, if_pos (row?_some any).2]
      · have sees : ((fun r : Record => r.storageId = key && !r.garbage) ∘ fun r =>
            if r.storageId = d.storageId then s.written d now else r) =
            fun r => decide (r.storageId = key) && !r.garbage := by
          funext r
          by_cases hasKey : r.storageId = d.storageId
          · simp [hasKey, writtenKey, Ne.symm here]
          · simp [hasKey]
        rw [sees, if_neg here]
        cases found : s.find? key with
        | none =>
            rw [find?] at found
            rw [found, Option.map_none]
        | some r =>
            have otherKey : r.storageId ≠ d.storageId := by
              rw [(find?_some found).2.1]
              exact here
            rw [find?] at found
            rw [found, Option.map_some, if_neg otherKey]

/-- What is written is found under its key. -/
theorem find?_put_self (hasKey : d.storageId = key) :
    (s.put d now).find? key = some (s.written d now) := by
  rw [find?_put]
  exact if_pos hasKey.symm

/-- A write does not show where neither the old row of its key is kept nor the new one. -/
theorem filter_rows_put {keep : Record → Bool} (new : keep (s.written d now) = false)
    (old : ∀ r ∈ s.rows, r.storageId = d.storageId → keep r = false) :
    (s.put d now).rows.filter keep = s.rows.filter keep := by
  cases any : s.row? d.storageId with
  | none => rw [rows_put_of_none any, List.filter_append, List.filter_singleton, new]; simp
  | some row =>
      rw [rows_put_of_some any]
      generalize s.rows = rows at old
      induction rows with
      | nil => rfl
      | cons r rest ih =>
          obtain ⟨first, later⟩ := List.forall_mem_cons.mp old
          by_cases hasKey : r.storageId = d.storageId
          · rw [List.map_cons, if_pos hasKey, List.filter_cons_of_neg (by simp [new]),
              List.filter_cons_of_neg (by simp [first hasKey]), ih later]
          · rw [List.map_cons, if_neg hasKey, List.filter_cons, List.filter_cons, ih later]

theorem Distinct.put (distinct : s.Distinct) : (s.put d now).Distinct := by
  have perm : (s.put d now).rows.Perm (s.written d now :: s.others d.storageId) :=
    distinct.rows_put_perm
  refine (perm.map (·.storageId)).nodup_iff.mpr (List.nodup_cons.mpr ⟨?_, ?_⟩)
  · intro mem
    obtain ⟨r, mem, same⟩ := List.mem_map.mp mem
    have otherKey : r.storageId ≠ d.storageId := by simpa using (List.mem_filter.mp mem).2
    exact otherKey (same.trans (storageId_written s d now))
  · exact List.Nodup.sublist (List.filter_sublist.map _) distinct

/-! ### Turning a row into garbage -/

theorem mem_markGarbage_iff :
    r ∈ (s.markGarbage key now).rows ↔
      (∃ r' ∈ s.rows, r'.storageId = key ∧ r'.garbage = false ∧
          r = { r' with garbage := true, updatedAt := now }) ∨
        (r ∈ s.rows ∧ ¬(r.storageId = key ∧ r.garbage = false)) := by
  simp only [markGarbage, List.mem_map]
  constructor
  · rintro ⟨r', mem, rfl⟩
    by_cases hit : r'.storageId = key ∧ r'.garbage = false
    · exact Or.inl ⟨r', mem, hit.1, hit.2, if_pos hit⟩
    · rw [if_neg hit]
      exact Or.inr ⟨mem, hit⟩
  · rintro (⟨r', mem, hasKey, live, rfl⟩ | ⟨mem, miss⟩)
    · exact ⟨r', mem, if_pos ⟨hasKey, live⟩⟩
    · exact ⟨r, mem, if_neg miss⟩

theorem find?_markGarbage {id : String} :
    (s.markGarbage key now).find? id = if id = key then none else s.find? id := by
  by_cases here : id = key
  · rw [if_pos here, find?_eq_none_iff]
    intro r mem hasId
    rcases mem_markGarbage_iff.mp mem with ⟨r', -, -, -, rfl⟩ | ⟨-, miss⟩
    · rfl
    · by_contra live
      exact miss ⟨hasId.trans here, by simpa using live⟩
  · rw [if_neg here, find?, markGarbage, List.find?_map]
    have sees : ((fun r : Record => r.storageId = id && !r.garbage) ∘ fun r =>
        if r.storageId = key ∧ r.garbage = false then
          { r with garbage := true, updatedAt := now } else r) =
        fun r => decide (r.storageId = id) && !r.garbage := by
      funext r
      by_cases hit : r.storageId = key ∧ r.garbage = false
      · simp [hit.1, hit.2, Ne.symm here]
      · simp [hit]
    rw [sees]
    cases found : s.find? id with
    | none =>
        rw [find?] at found
        rw [found, Option.map_none]
    | some r =>
        have miss : ¬(r.storageId = key ∧ r.garbage = false) := fun hit =>
          here ((find?_some found).2.1.symm.trans hit.1)
        rw [find?] at found
        rw [found, Option.map_some, if_neg miss]

/-- There is nothing to turn into garbage where no live row is. -/
theorem markGarbage_of_absent (absent : s.find? key = none) : s.markGarbage key now = s := by
  have kept : (s.rows.map fun r => if r.storageId = key ∧ r.garbage = false then
      { r with garbage := true, updatedAt := now } else r) = s.rows := by
    refine map_eq_self fun r mem => if_neg ?_
    rintro ⟨hasKey, live⟩
    rw [find?_eq_none_iff.mp absent r mem hasKey] at live
    cases live
  rw [markGarbage, kept]

/-- Turning a row into garbage does not show where no row of its key is kept. -/
theorem filter_rows_markGarbage {keep : Record → Bool}
    (out : ∀ r : Record, r.storageId = key → keep r = false) :
    (s.markGarbage key now).rows.filter keep = s.rows.filter keep := by
  have sees : (keep ∘ fun r : Record => if r.storageId = key ∧ r.garbage = false then
      { r with garbage := true, updatedAt := now } else r) = keep := by
    funext r
    by_cases hit : r.storageId = key ∧ r.garbage = false
    · rw [Function.comp_apply, if_pos hit, out r hit.1]
      exact out _ hit.1
    · rw [Function.comp_apply, if_neg hit]
  rw [markGarbage, List.filter_map, sees]
  refine map_eq_self fun r mem => if_neg fun hit => ?_
  have kept := (List.mem_filter.mp mem).2
  rw [out r hit.1] at kept
  cases kept

/-- A store in which a live row has become garbage is another one, whatever else was written. -/
theorem rows_markGarbage_put_ne (live : s.find? key = some r) :
    ((s.put d now).markGarbage r.storageId now).rows ≠ s.rows := by
  intro same
  have gone : ((s.put d now).markGarbage r.storageId now).find? r.storageId = none :=
    find?_markGarbage.trans (if_pos rfl)
  rw [find?, same] at gone
  obtain ⟨-, hasKey, -⟩ := find?_some live
  rw [hasKey] at gone
  rw [find?, gone] at live
  cases live

theorem map_storageId_markGarbage :
    (s.markGarbage key now).rows.map (·.storageId) = s.rows.map (·.storageId) := by
  rw [markGarbage, List.map_map]
  refine List.map_congr_left fun r _ => ?_
  by_cases hit : r.storageId = key ∧ r.garbage = false <;> simp [hit]

theorem Distinct.markGarbage (distinct : s.Distinct) : (s.markGarbage key now).Distinct := by
  unfold Distinct
  rw [map_storageId_markGarbage]
  exact distinct

theorem Distinct.row?_markGarbage (distinct : s.Distinct) (live : s.find? key = some r)
    (now : Time.Instant) :
    (s.markGarbage key now).row? key = some { r with garbage := true, updatedAt := now } := by
  obtain ⟨mem, hasKey, fresh⟩ := find?_some live
  rw [distinct.markGarbage.row?_eq_some_iff]
  exact ⟨mem_markGarbage_iff.mpr (.inl ⟨r, mem, hasKey, fresh, rfl⟩), hasKey⟩

end ContentStore.Store
