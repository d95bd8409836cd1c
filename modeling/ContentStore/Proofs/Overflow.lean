import ContentStore.Proofs.FailedUpdates
import ContentStore.Proofs.QuotaLaw

/-!
# Totals past 64 bits

The check of the quota adds the new size to the total in 64 bits and keeps the sum within them, so
that no sum comes out small because it was too large. What it compares with the quota is then at
most the largest number, which is never *more* than a quota of the largest number. Under such a
quota every write passes, also one that takes the exact total past 64 bits, and from then on the
total cannot be added up: every check that has to count those rows ends in a failure of the store.

Under all smaller quotas the totals fit, whatever is done and in whichever order
(`usages_fit_iff`).
-/

namespace ContentStore

/-- The database has a total for the owner, whichever rows are left out, and it is the exact
one. -/
def Store.Adds (s : Store) (owner : String) : Prop :=
  s.total owner [] ≤ Text.maxInt64 ∧
    ∀ excluding, s.usage? owner excluding = some (s.total owner excluding)

/-- The runs in which rows can be asked all through each action or not at all, and in which no
quota is larger than the bound when an action starts. -/
def ReachableWithin (bound : Int) : Set (String × ContentHash) → Store → Prop :=
  ReachableUnder fun e s => e.Steady ∧ ∀ owner, e.quotaOf s owner ≤ bound

section Totals

variable {used : Set (String × ContentHash)} {e : Surroundings} {s s' : Store} {owner : String}
  {names : ContentHash → Prop} {bound : Int}

/-! ### Quotas below the largest number -/

namespace Store.WellFormed

theorem total_le (wellFormed : s.WellFormed used) (excluding : List String) :
    s.total owner excluding ≤ s.total owner [] := by
  induction excluding with
  | nil => exact le_refl _
  | cons key rest ih => exact wellFormed.total_cons_le.trans ih

/-- The database has a total exactly if the exact one fits in 64 bits. -/
theorem usage?_eq (wellFormed : s.WellFormed used) (excluding : List String) :
    s.usage? owner excluding =
      if s.total owner excluding ≤ Text.maxInt64 then some (s.total owner excluding) else none := by
  have nonneg : ∀ n ∈ (s.counted owner excluding).map (·.size), 0 ≤ n :=
    wellFormed.counted_nonneg excluding
  have added := foldl_of_nonneg nonneg (le_refl 0) (by decide)
  rw [zero_add] at added
  exact added

theorem usage?_eq_some_iff (wellFormed : s.WellFormed used) {excluding : List String}
    {total : Int} :
    s.usage? owner excluding = some total ↔
      total = s.total owner excluding ∧ total ≤ Text.maxInt64 := by
  rw [wellFormed.usage?_eq]
  split
  · next fits => exact ⟨fun same => by cases same; exact ⟨rfl, fits⟩, fun h => by rw [h.1]⟩
  · next large => exact ⟨nofun, fun h => absurd (h.1 ▸ h.2) large⟩

theorem total_nonneg (wellFormed : s.WellFormed used) (excluding : List String) :
    0 ≤ s.total owner excluding :=
  List.sum_nonneg (wellFormed.counted_nonneg excluding)

/-- Of an exact total, the check of the quota sees as much as can be counted. -/
theorem saturatingAdd_total (wellFormed : s.WellFormed used) {excluding : List String}
    {size : Int} (nonneg : 0 ≤ size) :
    saturatingAdd (s.total owner excluding) size =
      min Text.maxInt64 (s.total owner excluding + size) := by
  have low : Text.minInt64 ≤ 0 := by decide
  have high : 0 ≤ Text.maxInt64 := by decide
  have added : 0 ≤ s.total owner excluding + size :=
    add_nonneg (wellFormed.total_nonneg excluding) nonneg
  unfold saturatingAdd
  exact max_eq_right (low.trans (le_min high added))

theorem adds_iff (wellFormed : s.WellFormed used) :
    s.Adds owner ↔ s.total owner [] ≤ Text.maxInt64 := by
  refine ⟨And.left, fun fits => ⟨fits, fun excluding => ?_⟩⟩
  rw [wellFormed.usage?_eq, if_pos ((wellFormed.total_le excluding).trans fits)]

end Store.WellFormed

/-- With quotas that change as they like below the bound, all totals stay within it. -/
theorem ReachableWithin.total_le (reachable : ReachableWithin bound used s)
    (free : CollisionFree used) (below : bound < Text.maxInt64) (owner : String) :
    s.total owner [] ≤ max 0 bound := by
  induction reachable with
  | empty => exact le_max_left _ _
  | plan _ ih => exact ih
  | @act s e caller a reachable allowed within ih =>
      have wellFormed := reachable.wellFormed free
      have effect := Action.effect (e := e) wellFormed free within
      obtain ⟨steady, bounded⟩ := allowed
      by_cases own : owner = caller.owner
      · have small := (bounded caller.owner).trans_lt below
        have kept := effect.total_le wellFormed free within steady small
        rw [← own] at kept
        exact kept.trans (max_le ih (le_max_of_le_right (own ▸ bounded caller.owner)))
      · rw [effect.total_of_ne wellFormed free within own]
        exact ih

/-! ### The largest number as a quota -/

theorem Effect.plans_eq (effect : Effect e s owner names s') : s'.plans = s.plans := by
  cases effect <;> rfl

/-- Surroundings in which every call is carried out and who has no plan may keep as many bytes as
can be counted. -/
def Surroundings.boundless : Surroundings :=
  { Surroundings.calm .empty with defaultPlan := ⟨"boundless", Text.maxInt64⟩ }

/-- The largest size that a record can have, and one byte more for other content. -/
def Store.overfull : Store :=
  (Action.register ContentHash.ones.hex ⟨none, none, some 1, none⟩ false).after .ann .boundless <|
    (Action.register ContentHash.zeros.hex ⟨none, none, some Text.maxInt64, none⟩ false).after .ann
      .boundless .empty

/-- Registering twice, with every call carried out, leads there. -/
theorem Store.reachable_overfull :
    ReachableUnder (fun e s => (∀ n c, e.outage n c = none) ∧
      ∀ owner, e.quotaOf s owner ≤ Text.maxInt64) {("ann", .zeros), ("ann", .ones)} .overfull := by
  have quota : ∀ s : Store, s.plans = [] →
      ∀ owner, Surroundings.boundless.quotaOf s owner ≤ Text.maxInt64 := by
    intro s none owner
    rw [Surroundings.quotaOf, plan?, none]
    exact le_refl _
  have first : (Action.register ContentHash.zeros.hex ⟨none, none, some Text.maxInt64, none⟩
      false).Within .ann {("ann", .zeros), ("ann", .ones)} :=
    Action.within_of_texts [.zeros] rfl (by simp [Caller.ann])
  have second : (Action.register ContentHash.ones.hex ⟨none, none, some 1, none⟩ false).Within .ann
      {("ann", .zeros), ("ann", .ones)} :=
    Action.within_of_texts [.ones] rfl (by simp [Caller.ann])
  refine .act (.act .empty ⟨fun _ _ => rfl, quota _ rfl⟩ first) ⟨fun _ _ => rfl, quota _ ?_⟩ second
  exact (Action.effect (e := .boundless) .empty collisionFree_zeros_ones first).plans_eq

set_option maxRecDepth 10000 in
theorem Store.total_overfull : Store.overfull.total "ann" [] = Text.maxInt64 + 1 := by
  decide +kernel

/-- **Totals fit in 64 bits exactly under quotas that are below the largest number.** However
quotas change below a bound: if the bound is smaller than the largest number of 64 bits, then in
every store that a run leads to, the total of every owner fits, and the database adds it up exactly,
whichever rows are left out. Under any larger bound there is a run after which it cannot. -/
theorem usages_fit_iff (bound : Int) :
    (∀ used, CollisionFree used → ∀ s, ReachableWithin bound used s → ∀ owner, s.Adds owner) ↔
      bound < Text.maxInt64 := by
  constructor
  · intro fits
    by_contra large
    have reachable : ReachableWithin bound {("ann", .zeros), ("ann", .ones)} .overfull := by
      refine Store.reachable_overfull.mono fun e s allowed => ?_
      refine ⟨.inl fun n c _ => allowed.1 n c, fun owner => ?_⟩
      exact (allowed.2 owner).trans (not_lt.mp large)
    obtain ⟨within, -⟩ := fits _ collisionFree_zeros_ones _ reachable "ann"
    rw [Store.total_overfull] at within
    omega
  · intro below used free s reachable owner
    have wellFormed : s.WellFormed used := ReachableUnder.wellFormed reachable free
    refine wellFormed.adds_iff.mpr ((reachable.total_le free below owner).trans ?_)
    exact max_le (by decide) below.le

end Totals

/-- Two registrations that are answered, with nothing going wrong, take a total past 64 bits, and
from then on every check for content that the owner has no row for fails inside. -/
theorem not_usages_fit :
    (¬∀ (used : Set (String × ContentHash)) (s : Store), CollisionFree used →
      ReachableUnder (fun e s => (∀ n c, e.outage n c = none) ∧
        ∀ owner, e.quotaOf s owner ≤ Text.maxInt64) used s →
      ∀ owner, s.total owner [] ≤ Text.maxInt64) ∧
    ∀ key size, (∀ r ∈ Store.overfull.rows, r.storageId ≠ key) →
      Operation.checkQuota "ann" [key] size .boundless ⟨.overfull, 0⟩ =
        (.error (.refused sumOverflow), ⟨.overfull, .calling 0 1⟩) := by
  constructor
  · intro claim
    have fits := claim _ _ collisionFree_zeros_ones Store.reachable_overfull "ann"
    rw [Store.total_overfull] at fits
    omega
  · intro key size fresh
    have wellFormed := Store.reachable_overfull.wellFormed collisionFree_zeros_ones
    have counted : Store.overfull.total "ann" [key] = Text.maxInt64 + 1 := by
      rw [← Store.total_overfull]
      exact Store.total_cons_of_foreign fun r row hasKey => absurd hasKey (fresh r row)
    have none : Store.overfull.usage? "ann" [key] = none := by
      rw [wellFormed.usage?_eq, counted, if_neg (by omega)]
    exact Operation.checkQuota_run_of_overflow _ _ _ ⟨rfl, fun _ => rfl⟩ none

end ContentStore
