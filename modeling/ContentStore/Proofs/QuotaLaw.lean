import ContentStore.Proofs.Reachable
import ContentStore.Proofs.Totals
import Mathlib.Algebra.Order.BigOperators.Group.List

/-!
# The law of quotas

No action takes its caller past the larger of the old total and the quota, and none changes the
total of anyone else. With quotas that stay as they are, all totals stay within them in every
reachable store.

The law speaks of exact totals, while the check adds in 64 bits and saturates; quotas below the
largest number of 64 bits are what makes the two agree. It needs the tables to answer either all
calls of an action or none of them (`Surroundings.Steady`): a move that is cut off between its two
writes leaves both rows live, and both count.
-/

namespace ContentStore

/-- Whether a call asks the table of the rows. -/
def Call.asksRows : Call → Bool
  | .ping | .plan _ | .probe _ => false
  | _ => true

/-- The rows can be asked all through an action, or not at all. Plans and bytes may meet any
outage. -/
def Surroundings.Steady (e : Surroundings) : Prop :=
  (∀ n c, c.asksRows = true → e.outage n c = none) ∨
    ∀ n c, c.asksRows = true → e.outage n c ≠ none

variable {used : Set (String × ContentHash)} {e : Surroundings} {s s' : Store} {owner : String}
  {hash : ContentHash} {names : ContentHash → Prop} {d : Draft} {now : Time.Instant}

/-- Where rows can be asked all through or not at all, nothing stops between two writes. -/
theorem Surroundings.Steady.not_stops (steady : e.Steady) {key key' : String} {f : Failure}
    (wrote : e.Answers (.write key)) : ¬e.Stops (.erase key') f := by
  intro stops
  obtain ⟨⟨n, met⟩, connected⟩ := wrote
  cases stops with
  | @outage m _ o hit =>
      rcases steady with none | all
      · rw [none m _ rfl] at hit
        cases hit
      · exact all n _ rfl met
  | disconnected _ off =>
      rw [Surroundings.query, connected rfl] at off
      cases off

namespace Store.WellFormed

/-- Leaving out one more key makes no total larger, since no size is negative. -/
theorem total_cons_le (wellFormed : s.WellFormed used) {key : String} {excluding : List String} :
    s.total owner (key :: excluding) ≤ s.total owner excluding := by
  rw [total_eq_sum_weight, total_eq_sum_weight]
  refine List.sum_le_sum fun r row => ?_
  have nonneg := wellFormed.sized r row
  unfold weight
  by_cases out : r.storageId = key
  · rw [if_neg fun counts => counts.2.2 (List.mem_cons.mpr (Or.inl out))]
    split
    · exact nonneg
    · exact le_refl 0
  · simp only [List.mem_cons, out, false_or]
    exact le_refl _

/-- A write of an owner's row replaces what the row of its key counted. -/
theorem total_put (wellFormed : s.WellFormed used) (free : CollisionFree used)
    (mem : (owner, hash) ∈ used) (drafted : d.IsFor owner hash) {excluding : List String}
    (counts : d.storageId ∉ excluding) :
    (s.put d now).total owner excluding = s.total owner (d.storageId :: excluding) + d.size := by
  refine wellFormed.distinct.total_put ?_ counts
  rw [owner_written (wellFormed.agree free mem drafted), drafted.owned]

theorem total_put_of_ne (wellFormed : s.WellFormed used) (free : CollisionFree used)
    (mem : (owner, hash) ∈ used) (drafted : d.IsFor owner hash) {other : String}
    (foreign : other ≠ owner) {excluding : List String} :
    (s.put d now).total other excluding = s.total other excluding := by
  refine wellFormed.distinct.total_put_of_ne (wellFormed.agree free mem drafted) ?_
  rw [drafted.owned]
  exact foreign

theorem total_markGarbage_of_ne (wellFormed : s.WellFormed used) (free : CollisionFree used)
    (mem : (owner, hash) ∈ used) {other : String} (foreign : other ≠ owner) :
    (s.markGarbage (storageId owner hash) now).total other [] = s.total other [] := by
  rw [total_markGarbage]
  refine total_cons_of_foreign fun r row hasKey owned => foreign ?_
  rw [← owned, (wellFormed.of_key free mem row hasKey).1]

end Store.WellFormed

/-! ### One action -/

/-- A write within the quota in place of the row of its key leaves a total within the quota. -/
theorem total_put_le_of_admits (wellFormed : s.WellFormed used) (free : CollisionFree used)
    (mem : (owner, hash) ∈ used) (drafted : d.IsFor owner hash)
    (admits : e.Admits s owner [storageId owner hash] d.size)
    (small : e.quotaOf s owner < Text.maxInt64) :
    (s.put d now).total owner [] ≤ e.quotaOf s owner := by
  rw [wellFormed.total_put free mem drafted List.not_mem_nil, drafted.key]
  exact Store.total_add_le_of_admits admits small

/-- A move counts the new row only: the row of its key and the old row are left out. -/
theorem total_moved_le_of_admits {newHash : ContentHash} (wellFormed : s.WellFormed used)
    (free : CollisionFree used) (mem : (owner, hash) ∈ used) (newMem : (owner, newHash) ∈ used)
    (other : newHash ≠ hash) (drafted : d.IsFor owner newHash)
    (admits : e.Admits s owner [storageId owner hash, storageId owner newHash] d.size)
    (small : e.quotaOf s owner < Text.maxInt64) :
    ((s.put d now).markGarbage (storageId owner hash) now).total owner [] ≤
      e.quotaOf s owner := by
  have counts : d.storageId ∉ [storageId owner hash] := by
    rw [drafted.key, List.mem_singleton]
    exact fun same => other (free.storageId_inj newMem mem same).2
  have swapped : s.total owner (d.storageId :: [storageId owner hash]) =
      s.total owner [storageId owner hash, storageId owner newHash] := by
    refine Store.total_congr fun id => ?_
    rw [drafted.key]
    simp only [List.mem_cons, List.not_mem_nil, or_false]
    exact or_comm
  rw [Store.total_markGarbage, wellFormed.total_put free newMem drafted counts, swapped]
  exact Store.total_add_le_of_admits admits small

/-- No effect takes the owner past the larger of the old total and the quota. -/
theorem Effect.total_le (effect : Effect e s owner names s') (wellFormed : s.WellFormed used)
    (free : CollisionFree used) (within : ∀ hash, names hash → (owner, hash) ∈ used)
    (steady : e.Steady) (small : e.quotaOf s owner < Text.maxInt64) :
    s'.total owner [] ≤ max (s.total owner []) (e.quotaOf s owner) := by
  cases effect with
  | nothing => exact le_max_left _ _
  | @renamed hash row d named found drafted same =>
      have mem := within hash named
      obtain ⟨old, hasKey, -⟩ := Store.find?_some found
      have owned := (wellFormed.of_key free mem old hasKey).1
      have before := wellFormed.distinct.total_of_find? found owned List.not_mem_nil
      have after : (s.put d e.now).total owner [] = s.total owner [d.storageId] + d.size :=
        wellFormed.total_put free mem drafted List.not_mem_nil
      rw [drafted.key, same, ← before] at after
      rw [after]
      exact le_max_left _ _
  | @sized hash d named drafted _ admits =>
      refine le_max_of_le_right ?_
      exact total_put_le_of_admits wellFormed free (within hash named) drafted admits small
  | @linked hash given target named drafted _ admits =>
      refine le_max_of_le_right ?_
      exact total_put_le_of_admits wellFormed free (within hash named) drafted admits small
  | @moved hash newHash d named newNamed other drafted _ admits =>
      refine le_max_of_le_right ?_
      exact total_moved_le_of_admits wellFormed free (within hash named) (within newHash newNamed)
        other drafted admits small
  | doubled _ _ _ _ _ _ wrote stops => exact absurd stops (steady.not_stops wrote)
  | erased =>
      rw [Store.total_markGarbage]
      exact le_max_of_le_left wellFormed.total_cons_le

/-- No effect changes what another owner has. -/
theorem Effect.total_of_ne (effect : Effect e s owner names s') (wellFormed : s.WellFormed used)
    (free : CollisionFree used) (within : ∀ hash, names hash → (owner, hash) ∈ used)
    {other : String} (foreign : other ≠ owner) : s'.total other [] = s.total other [] := by
  cases effect with
  | nothing => rfl
  | renamed named _ drafted =>
      exact wellFormed.total_put_of_ne free (within _ named) drafted foreign
  | sized named drafted => exact wellFormed.total_put_of_ne free (within _ named) drafted foreign
  | linked named drafted => exact wellFormed.total_put_of_ne free (within _ named) drafted foreign
  | @moved hash newHash d named newNamed _ drafted =>
      have put : (s.put d e.now).WellFormed used := wellFormed.put (within _ newNamed) drafted
      rw [put.total_markGarbage_of_ne free (within _ named) foreign]
      exact wellFormed.total_put_of_ne free (within _ newNamed) drafted foreign
  | doubled _ newNamed _ drafted =>
      exact wellFormed.total_put_of_ne free (within _ newNamed) drafted foreign
  | erased named => exact wellFormed.total_markGarbage_of_ne free (within _ named) foreign

/-! ### Runs -/

/-- With quotas that stay as they are, all totals stay within them. -/
theorem ReachableUnder.total_le {quota : String → Int}
    (reachable : ReachableUnder (fun e s => e.Steady ∧ ∀ owner, e.quotaOf s owner = quota owner)
      used s)
    (free : CollisionFree used) (small : ∀ owner, 0 ≤ quota owner ∧ quota owner < Text.maxInt64) :
    ∀ owner, s.total owner [] ≤ quota owner := by
  induction reachable with
  | empty => exact fun owner => (small owner).1
  | plan _ ih => exact ih
  | @act s e caller a reachable allowed within ih =>
      intro owner
      have wellFormed := reachable.wellFormed free
      have effect := Action.effect (e := e) wellFormed free within
      by_cases own : owner = caller.owner
      · have bound := effect.total_le wellFormed free within allowed.1
          (by rw [allowed.2]; exact (small _).2)
        rw [own]
        rw [allowed.2, max_eq_right (ih caller.owner)] at bound
        exact bound
      · rw [effect.total_of_ne wellFormed free within own]
        exact ih owner

/-- **No action breaks a quota.** In every reachable store, whatever has happened before, an action
takes its caller at most to the larger of the old total and the quota and leaves the totals of all
others. So with quotas that stay as they are, all totals are within them in every reachable
store. -/
theorem quota_kept (free : CollisionFree used) :
    (∀ (s : Store) (e : Surroundings) (caller : Caller) (a : Action), Reachable used s →
      e.Steady → a.Within caller used → e.quotaOf s caller.owner < Text.maxInt64 →
      (a.after caller e s).total caller.owner [] ≤
          max (s.total caller.owner []) (e.quotaOf s caller.owner) ∧
        ∀ owner, owner ≠ caller.owner →
          (a.after caller e s).total owner [] = s.total owner []) ∧
    ∀ quota : String → Int, (∀ owner, 0 ≤ quota owner ∧ quota owner < Text.maxInt64) →
      ∀ s, ReachableUnder (fun e s => e.Steady ∧ ∀ owner, e.quotaOf s owner = quota owner) used s →
        ∀ owner, s.total owner [] ≤ quota owner := by
  constructor
  · intro s e caller a reachable steady within small
    have wellFormed := reachable.wellFormed free
    have effect := Action.effect (e := e) wellFormed free within
    refine ⟨effect.total_le wellFormed free within steady small, fun owner foreign => ?_⟩
    exact effect.total_of_ne wellFormed free within foreign
  · intro quota small s reachable
    exact reachable.total_le free small

theorem quota_kept_registering :
    ((Action.register ContentHash.zeros.hex ⟨none, none, some 40, none⟩ true).after .ann
        (.calm .empty) .empty).total "ann" [] ≤ 100 ∧
      ((Action.register ContentHash.zeros.hex ⟨none, none, some 40, none⟩ true).after .ann
        (.calm .empty) .empty).total "bob" [] = 0 := by
  have free : CollisionFree {(Caller.ann.owner, ContentHash.zeros)} := collisionFree_singleton _
  have within : (Action.register ContentHash.zeros.hex ⟨none, none, some 40, none⟩ true).Within
      .ann {(Caller.ann.owner, ContentHash.zeros)} :=
    Action.within_of_texts [.zeros] rfl (by simp)
  have steady : (Surroundings.calm .empty).Steady := Or.inl fun _ _ _ => rfl
  constructor
  · exact (quota_kept free).2 (fun _ => 100) (fun _ => by decide) _
      (.act .empty ⟨steady, fun _ => rfl⟩ within) "ann"
  · exact ((quota_kept free).1 .empty (.calm .empty) .ann _ .empty steady within (by decide)).2
      "bob" (by decide)

end ContentStore
