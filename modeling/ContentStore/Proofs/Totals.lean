import ContentStore.Proofs.Ensures
import ContentStore.Proofs.Rows
import Mathlib.Algebra.Order.BigOperators.Group.List
import Mathlib.Algebra.Order.Ring.Int

/-!
# Owners' totals

`Store.total` is the exact sum of the sizes of an owner's live rows, without the rows of some
keys. The service never sees it: `usage?` adds in 64 bits and the check of the quota saturates.
`usage?_eq_total` and `total_add_le_of_admits` lead from what the service computes to the exact
sum, and the other lemmas say how a write changes it.
-/

namespace ContentStore.Store

variable {s : Store} {d : Draft} {now : Time.Instant} {key owner : String}
  {excluding : List String} {r : Record}

/-- The exact sum of the sizes of the owner's live rows, `excluding` some keys. -/
def total (s : Store) (owner : String) (excluding : List String) : Int :=
  ((s.counted owner excluding).map (·.size)).sum

/-- What one row adds to an owner's total. -/
def weight (owner : String) (excluding : List String) (r : Record) : Int :=
  if r.owner = owner ∧ r.garbage = false ∧ r.storageId ∉ excluding then r.size else 0

/-! ### From 64 bits to the exact sum -/

/-- Once a partial sum is out of range there is no sum at all. -/
theorem foldl_none (sizes : List Int) :
    sizes.foldl (fun sum? n => sum?.bind fun sum =>
      if Text.minInt64 ≤ sum + n ∧ sum + n ≤ Text.maxInt64 then some (sum + n) else none) none =
      none := by
  induction sizes with
  | nil => rfl
  | cons _ _ ih => exact ih

theorem sum_of_foldl {sizes : List Int} {start result : Int}
    (fits : sizes.foldl (fun sum? n => sum?.bind fun sum =>
      if Text.minInt64 ≤ sum + n ∧ sum + n ≤ Text.maxInt64 then some (sum + n) else none)
      (some start) = some result) : result = start + sizes.sum := by
  induction sizes generalizing start with
  | nil =>
      cases fits
      simp
  | cons n rest ih =>
      rw [List.foldl_cons, Option.bind_some] at fits
      split at fits
      · rw [ih fits, List.sum_cons, add_assoc]
      · rw [foldl_none] at fits
        cases fits

/-- Where nothing is negative, a sum that fits has only partial sums that fit. -/
theorem foldl_of_nonneg {sizes : List Int} {start : Int} (nonneg : ∀ n ∈ sizes, 0 ≤ n)
    (low : 0 ≤ start) (high : start ≤ Text.maxInt64) :
    sizes.foldl (fun sum? n => sum?.bind fun sum =>
      if Text.minInt64 ≤ sum + n ∧ sum + n ≤ Text.maxInt64 then some (sum + n) else none)
      (some start) =
      if start + sizes.sum ≤ Text.maxInt64 then some (start + sizes.sum) else none := by
  induction sizes generalizing start with
  | nil => simp [high]
  | cons n rest ih =>
      obtain ⟨first, later⟩ := List.forall_mem_cons.mp nonneg
      have tail : 0 ≤ rest.sum := List.sum_nonneg later
      have bottom : Text.minInt64 ≤ start + n := by
        have negative : Text.minInt64 ≤ 0 := by decide
        omega
      rw [List.foldl_cons, Option.bind_some, List.sum_cons, ← add_assoc]
      by_cases fits : start + n ≤ Text.maxInt64
      · rw [if_pos ⟨bottom, fits⟩, ih later (by omega) fits]
      · rw [if_neg fun within => fits within.2, foldl_none, if_neg (by omega)]

/-- Sums of sizes do not depend on the order, although they are added in order. -/
theorem sumInt64_perm {sizes sizes' : List Int} (perm : sizes.Perm sizes')
    (nonneg : ∀ n ∈ sizes, 0 ≤ n) : sumInt64 sizes = sumInt64 sizes' := by
  have nonneg' : ∀ n ∈ sizes', 0 ≤ n := fun n mem => nonneg n (perm.mem_iff.mpr mem)
  have high : 0 ≤ Text.maxInt64 := by decide
  have one := foldl_of_nonneg nonneg (Int.le_refl 0) high
  have other := foldl_of_nonneg nonneg' (Int.le_refl 0) high
  rw [perm.sum_eq] at one
  exact one.trans other.symm

/-- A total that the service computes is the exact one. -/
theorem usage?_eq_total {sum : Int} (computed : s.usage? owner excluding = some sum) :
    sum = s.total owner excluding := by
  rw [sum_of_foldl computed, zero_add]
  rfl

/-- A write that passes the check of a quota below the largest number keeps the exact total within
the quota: what saturates is larger than the quota. -/
theorem total_add_le_of_admits {e : Surroundings} {size : Int}
    (admits : e.Admits s owner excluding size) (small : e.quotaOf s owner < Text.maxInt64) :
    s.total owner excluding + size ≤ e.quotaOf s owner := by
  obtain ⟨sum, computed, within⟩ := admits
  rw [usage?_eq_total computed] at within
  unfold saturatingAdd at within
  omega

/-! ### Totals as sums over all rows -/

theorem total_eq_sum_weight :
    s.total owner excluding = (s.rows.map (weight owner excluding)).sum := by
  unfold total counted
  induction s.rows with
  | nil => rfl
  | cons r rest ih =>
      rw [List.map_cons, List.sum_cons, ← ih]
      by_cases counts : r.owner = owner ∧ r.garbage = false ∧ r.storageId ∉ excluding
      · rw [List.filter_cons_of_pos (by simpa [and_assoc] using counts), List.map_cons,
          List.sum_cons, weight, if_pos counts]
      · rw [List.filter_cons_of_neg (by simpa [and_assoc] using counts), weight, if_neg counts,
          zero_add]

theorem counted_congr {excluding' : List String}
    (same : ∀ id, id ∈ excluding ↔ id ∈ excluding') :
    s.counted owner excluding = s.counted owner excluding' := by
  refine List.filter_congr fun r _ => ?_
  simp only [List.contains_eq_mem, same]

theorem total_congr {excluding' : List String}
    (same : ∀ id, id ∈ excluding ↔ id ∈ excluding') :
    s.total owner excluding = s.total owner excluding' := by
  rw [total, total, counted_congr same]

theorem usage?_congr {excluding' : List String}
    (same : ∀ id, id ∈ excluding ↔ id ∈ excluding') :
    s.usage? owner excluding = s.usage? owner excluding' := by
  rw [usage?, usage?, counted_congr same]

/-- Leaving a key out of a total leaves the rows of the other keys. -/
theorem sum_weight_others :
    ((s.others key).map (weight owner excluding)).sum = s.total owner (key :: excluding) := by
  rw [total_eq_sum_weight, others]
  induction s.rows with
  | nil => rfl
  | cons r rest ih =>
      rw [List.map_cons, List.sum_cons, ← ih]
      by_cases hasKey : r.storageId = key
      · rw [List.filter_cons_of_neg (by simpa using hasKey)]
        simp [weight, hasKey]
      · rw [List.filter_cons_of_pos (by simpa using hasKey), List.map_cons, List.sum_cons]
        simp [weight, hasKey]

/-- Leaving out a key of which the owner has no row changes nothing. -/
theorem total_cons_of_foreign (foreign : ∀ r ∈ s.rows, r.storageId = key → r.owner ≠ owner) :
    s.total owner (key :: excluding) = s.total owner excluding := by
  rw [total_eq_sum_weight, total_eq_sum_weight]
  refine congrArg List.sum (List.map_congr_left fun r mem => ?_)
  by_cases hasKey : r.storageId = key
  · simp [weight, foreign r mem hasKey]
  · simp [weight, hasKey]

/-- A live row counts with its size towards the total of its owner. -/
theorem Distinct.total_of_find? (distinct : s.Distinct) (found : s.find? key = some r)
    (owned : r.owner = owner) (counts : key ∉ excluding) :
    s.total owner excluding = s.total owner (key :: excluding) + r.size := by
  obtain ⟨-, rfl, live⟩ := find?_some found
  rw [total_eq_sum_weight, ((distinct.rows_perm found).map _).sum_eq, List.map_cons,
    List.sum_cons, sum_weight_others, weight, if_pos ⟨owned, live, counts⟩, add_comm]

/-- Where no live row is, nothing that counts is left out. -/
theorem counted_of_absent (absent : s.find? key = none) :
    s.counted owner (key :: excluding) = s.counted owner excluding := by
  refine List.filter_congr fun r mem => ?_
  by_cases hasKey : r.storageId = key
  · simp [find?_eq_none_iff.mp absent r mem hasKey]
  · simp [hasKey]

theorem usage?_of_absent (absent : s.find? key = none) :
    s.usage? owner (key :: excluding) = s.usage? owner excluding := by
  rw [usage?, usage?, counted_of_absent absent]

theorem total_of_absent (absent : s.find? key = none) :
    s.total owner (key :: excluding) = s.total owner excluding := by
  rw [total, total, counted_of_absent absent]

/-! ### Totals under writes -/

/-- A write replaces the row of its key by one of the draft's size. -/
theorem Distinct.total_put (distinct : s.Distinct)
    (owned : (s.written d now).owner = owner) (counts : d.storageId ∉ excluding) :
    (s.put d now).total owner excluding =
      s.total owner (d.storageId :: excluding) + d.size := by
  have counted : (s.written d now).owner = owner ∧ (s.written d now).garbage = false ∧
      (s.written d now).storageId ∉ excluding := by
    rw [garbage_written, storageId_written]
    exact ⟨owned, rfl, counts⟩
  rw [total_eq_sum_weight, (distinct.rows_put_perm.map _).sum_eq, List.map_cons, List.sum_cons,
    sum_weight_others, weight, if_pos counted, size_written, add_comm]

/-- What a write leaves out of a total is not changed by it. -/
theorem usage?_put_of_excluded (excluded : d.storageId ∈ excluding) :
    (s.put d now).usage? owner excluding = s.usage? owner excluding := by
  have kept : (s.put d now).counted owner excluding = s.counted owner excluding := by
    refine filter_rows_put ?_ fun r _ hasKey => ?_
    · simp [storageId_written, excluded]
    · simp [hasKey, excluded]
  rw [usage?, usage?, kept]

theorem usage?_markGarbage_of_excluded (excluded : key ∈ excluding) :
    (s.markGarbage key now).usage? owner excluding = s.usage? owner excluding := by
  have kept : (s.markGarbage key now).counted owner excluding = s.counted owner excluding :=
    filter_rows_markGarbage fun r hasKey => by simp [hasKey, excluded]
  rw [usage?, usage?, kept]

/-- A live row that is written anew with its size and its owner counts as before. -/
theorem Distinct.usage?_put_of_size (distinct : s.Distinct) (found : s.find? d.storageId = some r)
    (sized : d.size = r.size) :
    (s.put d now).usage? owner excluding = s.usage? owner excluding := by
  obtain ⟨mem, hasKey, live⟩ := find?_some found
  have row : s.row? d.storageId = some r := distinct.row?_eq_some_iff.mpr ⟨mem, hasKey⟩
  have new : s.written d now = d.over r now := distinct.written_of_find? found
  unfold usage? counted
  rw [rows_put_of_some row, List.filter_map, List.map_map, new]
  have sees : ∀ r' ∈ s.rows, ((fun r : Record =>
      r.owner = owner && !r.garbage && !excluding.contains r.storageId) ∘ fun r' =>
        if r'.storageId = d.storageId then d.over r now else r') r' =
      (r'.owner = owner && !r'.garbage && !excluding.contains r'.storageId) := by
    intro r' mem'
    by_cases here : r'.storageId = d.storageId
    · have one : r' = r := distinct.eq_of_key mem' mem (here.trans hasKey.symm)
      simp [one, hasKey, Draft.over, live]
    · simp [here]
  rw [List.filter_congr sees]
  refine congrArg _ (List.map_congr_left fun r' mem' => ?_)
  by_cases here : r'.storageId = d.storageId
  · have one : r' = r :=
      distinct.eq_of_key (List.mem_filter.mp mem').1 mem (here.trans hasKey.symm)
    rw [Function.comp_apply, if_pos here, one, ← sized]
    rfl
  · rw [Function.comp_apply, if_neg here]

/-- A write for one owner, under a key of which no other owner has a row, keeps the totals of all
other owners. -/
theorem Distinct.total_put_of_ne (distinct : s.Distinct)
    (agree : ∀ r ∈ s.rows, r.storageId = d.storageId → r.owner = d.owner)
    (other : owner ≠ d.owner) :
    (s.put d now).total owner excluding = s.total owner excluding := by
  have uncounted : ¬((s.written d now).owner = owner ∧ (s.written d now).garbage = false ∧
      (s.written d now).storageId ∉ excluding) := by
    rw [owner_written agree]
    exact fun counts => other counts.1.symm
  rw [total_eq_sum_weight, (distinct.rows_put_perm.map _).sum_eq, List.map_cons, List.sum_cons,
    sum_weight_others, weight, if_neg uncounted, zero_add]
  exact total_cons_of_foreign fun r mem hasKey owned =>
    other (owned.symm.trans (agree r mem hasKey))

/-- Garbage does not count. -/
theorem total_markGarbage :
    (s.markGarbage key now).total owner excluding = s.total owner (key :: excluding) := by
  rw [total_eq_sum_weight, total_eq_sum_weight, markGarbage, List.map_map]
  refine congrArg List.sum (List.map_congr_left fun r _ => ?_)
  by_cases hit : r.storageId = key ∧ r.garbage = false
  · simp [weight, hit]
  · rw [Function.comp_apply, if_neg hit]
    by_cases hasKey : r.storageId = key
    · have garbage : r.garbage = true := by simpa [hasKey] using hit
      simp [weight, garbage]
    · simp [weight, hasKey]

end ContentStore.Store
