import ContentStore.Proofs.Faultless
import ContentStore.Proofs.Overflow

/-!
# Updates that make nothing larger

An update in place leaves the size of its own record out of the total that the new size is added to.
So where an owner is within the quota, a record can always be replaced by one that is not larger.
But the check compares the total after the update with the quota and never with the total before it.
An owner whose quota was lowered can be above it already, and then an update that makes a record
smaller, or only renames it, is refused for as long as the owner stays above
(`shrinking_update_over_quota_iff`).
-/

namespace ContentStore

/-- No outage gives itself out for the verdict of the check of the quota. -/
def Surroundings.Fair (e : Surroundings) : Prop :=
  ∀ n c usage quota, e.outage n c ≠ some (.failed (.overQuota usage quota))

/-- With `size` in place of what `row` counts, the owner's total can be counted and is more than the
quota; `usage` is as much of it as fits in 64 bits. -/
structure Surroundings.Exceeds (e : Surroundings) (s : Store) (owner : String) (row : Record)
    (size usage quota : Int) : Prop where
  counted : s.total owner [] - row.size ≤ Text.maxInt64
  tally : usage = min Text.maxInt64 (s.total owner [] - row.size + size)
  limit : quota = e.quotaOf s owner
  exceeded : quota < usage

section Shrinking

variable {used : Set (String × ContentHash)} {e : Surroundings} {s : Store} {caller : Caller}
  {text owner : String} {hash : ContentHash} {m : Metadata} {row : Record} {size : Int}

/-! ### How an update in place fails -/

theorem Surroundings.Stops.ne_overQuota {c : Call} {f : Failure} (stops : e.Stops c f)
    (fair : e.Fair) (asks : c.asksTables = true) (usage quota : Int) :
    f ≠ .refused (.overQuota usage quota) := by
  rintro rfl
  rcases stops.refusal_cases with ⟨n, o, met, same⟩ | ⟨-, -, same | same⟩ | ⟨never, -⟩
  · cases o with
    | late => cases same
    | failed r => exact fair n c usage quota (same ▸ met)
  · cases same
  · cases same
  · exact nomatch never.symm.trans asks

/-- The check of the quota finds an owner above it only where the counted total is. -/
theorem Surroundings.Rejects.overQuota {excluding : List String} {usage quota : Int}
    (rejects : e.Rejects s owner excluding size (.refused (.overQuota usage quota)))
    (fair : e.Fair) :
    ∃ total, s.usage? owner excluding = some total ∧ usage = saturatingAdd total size ∧
      quota = e.quotaOf s owner ∧ quota < usage := by
  cases rejects with
  | exceeds counted exceeds => exact ⟨_, counted, rfl, rfl, exceeds⟩
  | usage stops => exact absurd rfl (stops.ne_overQuota fair rfl usage quota)
  | plan stops => exact absurd rfl (stops.ne_overQuota fair rfl usage quota)

namespace Operation

/-- An update in place of a record that owns its bytes fails by a call to the tables, by the check
of the quota, or at the end of time. -/
theorem ensures_update_own {bad : Failure → Prop} (parsed : ContentHash.parse text = .ok hash)
    (live : s.find? (storageId caller.owner hash) = some row) (owned : row.owner = caller.owner)
    (own : row.isLink = false) (sized : m.sizeFor row = .ok size)
    (stopped : ∀ c f, c.asksTables = true → e.Stops c f → bad f)
    (rejected : ∀ f, e.Rejects s caller.owner [storageId caller.owner hash] size f → bad f)
    (expired : bad (.aborted .endOfTime)) :
    (update caller text ⟨m, none⟩).Ensures e s (fun _ _ => True) fun f _ => bad f := by
  rw [update_eq]
  refine ensures_bind (ensures_ofExcept (fun hash' parsed' => ?_) fun r unread => ?_)
  · cases Except.ok.inj ((ContentHash.require_eq_ok_iff.mp parsed').symm.trans parsed)
    refine ensures_bind (ensures_pure ?_)
    unfold updateTo changeInPlace requireOwner
    refine ensures_bind (ensures_find (fun _ => ?_) fun f => stopped _ f rfl)
    rw [live]
    refine ensures_bind (ensures_pure ?_)
    rw [if_pos owned, sized]
    refine ensures_bind (ensures_pure (ensures_bind (ensures_pure ?_)))
    dsimp only [Option.filter]
    rw [if_neg (by simp [own])]
    refine ensures_bind (ensures_checkQuota (fun _ => ?_) rejected)
    refine ensures_bind (ensures_write (fun _ => ?_) fun f => stopped _ f rfl)
    have granted : ∀ (w : Award) s', (w.grant caller).Ensures e s' (fun _ _ => True) fun f _ =>
        bad f := fun w s' => ensures_award (fun _ _ => trivial) fun _ => expired
    exact granted ⟨_, _, _⟩ _
  · exact nomatch unread.symm.trans (ContentHash.require_eq_ok_iff.mpr parsed)

/-- An update in place that the check of the quota rejects is refused. -/
theorem yields_update_rejected {r : Refusal} (carries : ∀ n c, e.Carries n c)
    (parsed : ContentHash.parse text = .ok hash)
    (live : s.find? (storageId caller.owner hash) = some row) (owned : row.owner = caller.owner)
    (own : row.isLink = false) (sized : m.sizeFor row = .ok size)
    (rejected : (checkQuota caller.owner [storageId caller.owner hash] size).Yields e s
      (.error (.refused r)) s) :
    (update caller text ⟨m, none⟩).Yields e s (.error (.refused r)) s := by
  rw [update_eq]
  refine yields_bind (yields_require parsed) (yields_bind (yields_pure none) ?_)
  unfold updateTo changeInPlace
  refine yields_bind (yields_find carries _) ?_
  rw [live]
  refine yields_bind (yields_pure row) (yields_bind (yields_requireOwner owned) ?_)
  refine yields_bind (yields_ofExcept sized) ?_
  dsimp only [Option.filter]
  rw [if_neg (by simp [own])]
  exact yields_bind_error rejected

end Operation

/-! ### The total that is compared -/

/-- What the check of the quota finds an owner above is the total with the new size in place of the
old one. -/
theorem exceeds_iff (wellFormed : s.WellFormed used)
    (live : s.find? (storageId owner hash) = some row) (owned : row.owner = owner)
    (nonneg : 0 ≤ size) {usage quota : Int} :
    e.Exceeds s owner row size usage quota ↔
      ∃ total, s.usage? owner [storageId owner hash] = some total ∧
        usage = saturatingAdd total size ∧ quota = e.quotaOf s owner ∧ quota < usage := by
  have counted := wellFormed.distinct.total_of_find? live owned List.not_mem_nil
  have others : s.total owner [] - row.size = s.total owner [storageId owner hash] := by
    rw [counted, add_sub_cancel_right]
  have added : saturatingAdd (s.total owner [storageId owner hash]) size =
      min Text.maxInt64 (s.total owner [storageId owner hash] + size) :=
    wellFormed.saturatingAdd_total nonneg
  constructor
  · rintro ⟨fits, used, limit, exceeded⟩
    rw [others] at fits used
    exact ⟨_, wellFormed.usage?_eq_some_iff.mpr ⟨rfl, fits⟩, used.trans added.symm, limit, exceeded⟩
  · rintro ⟨total, sum, used, limit, exceeded⟩
    obtain ⟨rfl, fits⟩ := wellFormed.usage?_eq_some_iff.mp sum
    exact ⟨others ▸ fits, by rw [others, ← added, used], limit, exceeded⟩

/-- What is left out is at least as large as what takes its place, so the owner was above
already. -/
theorem Surroundings.Exceeds.above {usage quota : Int}
    (exceeds : e.Exceeds s owner row size usage quota) (shrinks : size ≤ row.size) :
    e.quotaOf s owner < s.total owner [] := by
  obtain ⟨-, tally, limit, exceeded⟩ := exceeds
  have most := min_le_right Text.maxInt64 (s.total owner [] - row.size + size)
  omega

/-! ### Under which quotas updates pass -/

section InPlace

variable (free : CollisionFree used) (mem : (caller.owner, hash) ∈ used)
  (parsed : ContentHash.parse text = .ok hash)
  (live : s.find? (storageId caller.owner hash) = some row) (own : row.isLink = false)
  (sized : m.sizeFor row = .ok size) (fair : e.Fair)

include free mem parsed live own sized fair

/-- An update in place is refused for the quota only where the owner stays above it. -/
theorem exceeds_of_update (wellFormed : s.WellFormed used) {n : Journal} {usage quota : Int}
    (refused : (Operation.update caller text ⟨m, none⟩ e ⟨s, n⟩).1 =
      .error (.refused (.overQuota usage quota))) :
    e.Exceeds s caller.owner row size usage quota := by
  obtain ⟨old, hasKey, -⟩ := Store.find?_some live
  have owned := (wellFormed.of_key free mem old hasKey).1
  have nonneg := Metadata.sizeFor_nonneg sized (wellFormed.sized row old)
  have ends : (Operation.update caller text ⟨m, none⟩).Ensures e s (fun _ _ => True) fun f _ =>
      f = .refused (.overQuota usage quota) → e.Exceeds s caller.owner row size usage quota := by
    refine Operation.ensures_update_own parsed live owned own sized (fun c f asks stops same => ?_)
      (fun f rejects same => ?_) nofun
    · exact absurd same (stops.ne_overQuota fair asks usage quota)
    · rw [same] at rejects
      exact (exceeds_iff wellFormed live owned nonneg).mpr (rejects.overQuota fair)
  exact ends.error (Prod.ext refused rfl) rfl

/-- With quotas that stay as they are, an update that makes a record no larger always passes the
check. -/
theorem shrinking_update_passes {limits : String → Int} {n : Journal} {usage quota : Int}
    (reachable : ReachableUnder (fun e s => e.Steady ∧ ∀ owner, e.quotaOf s owner = limits owner)
      used s)
    (small : ∀ owner, 0 ≤ limits owner ∧ limits owner < Text.maxInt64)
    (stays : e.quotaOf s caller.owner = limits caller.owner) (shrinks : size ≤ row.size) :
    (Operation.update caller text ⟨m, none⟩ e ⟨s, n⟩).1 ≠
      .error (.refused (.overQuota usage quota)) := by
  intro refused
  have above := (exceeds_of_update free mem parsed live own sized fair (reachable.wellFormed free)
    refused).above shrinks
  have within := reachable.total_le free small caller.owner
  omega

/-- **A shrinking update is refused for the quota exactly where the owner stays above it.** Take any
reachable store, whatever was done to the plans before, and an update in place of a live record that
owns its bytes. If it is refused for the quota, then the owner's total with the new size in place of
the old one is more than the quota; where every call is carried out, it is refused for the quota
exactly then, and with these numbers. So an update that makes the record no larger is never refused
for the quota while the owner is within it. -/
theorem shrinking_update_over_quota_iff (reachable : Reachable used s) :
    (∀ n usage quota, (Operation.update caller text ⟨m, none⟩ e ⟨s, n⟩).1 =
        .error (.refused (.overQuota usage quota)) →
      e.Exceeds s caller.owner row size usage quota) ∧
    ((∀ n c, e.Carries n c) → ∀ n usage quota,
      ((Operation.update caller text ⟨m, none⟩ e ⟨s, n⟩).1 =
          .error (.refused (.overQuota usage quota)) ↔
        e.Exceeds s caller.owner row size usage quota)) ∧
    (size ≤ row.size → s.total caller.owner [] ≤ e.quotaOf s caller.owner →
      ∀ n usage quota, (Operation.update caller text ⟨m, none⟩ e ⟨s, n⟩).1 ≠
        .error (.refused (.overQuota usage quota))) := by
  have wellFormed := reachable.wellFormed free
  have only : ∀ n usage quota, (Operation.update caller text ⟨m, none⟩ e ⟨s, n⟩).1 =
      .error (.refused (.overQuota usage quota)) →
      e.Exceeds s caller.owner row size usage quota :=
    fun _ _ _ refused => exceeds_of_update free mem parsed live own sized fair wellFormed refused
  refine ⟨only, fun carries n usage quota => ⟨only n usage quota, fun exceeds => ?_⟩, ?_⟩
  · obtain ⟨old, hasKey, -⟩ := Store.find?_some live
    have owned := (wellFormed.of_key free mem old hasKey).1
    have nonneg := Metadata.sizeFor_nonneg sized (wellFormed.sized row old)
    obtain ⟨total, counted, rfl, rfl, exceeds⟩ :=
      (exceeds_iff wellFormed live owned nonneg).mp exceeds
    exact (Operation.yields_update_rejected carries parsed live owned own sized
      (Operation.yields_checkQuota_exceeded carries counted exceeds)).result n
  · intro shrinks within n usage quota refused
    exact absurd within (not_le.mpr ((only n usage quota refused).above shrinks))

end InPlace
end Shrinking

/-! ### A lowered quota -/

/-- Ann has registered 40 bytes, and then her quota is lowered to 10. -/
def Store.lowered : Store :=
  ((Action.register ContentHash.zeros.hex ⟨none, none, some 40, none⟩ false).after .ann
    (.calm .empty) .empty).setPlan "ann" ⟨"small", 10⟩

theorem Store.reachable_lowered : Reachable {("ann", .zeros)} .lowered :=
  .plan (.act .empty trivial (Action.within_of_texts [.zeros] rfl (by simp [Caller.ann])))

set_option maxRecDepth 10000 in
/-- The row is as it was written under the larger quota. -/
theorem Store.find?_lowered :
    Store.lowered.find? (storageId "ann" .zeros) =
      some ((ownDraft "ann" .zeros .empty 40).fresh (Uuid.numbered 0) ⟨0, 0⟩) := by
  decide +kernel

theorem Surroundings.fair_calm (tree : FileTree) : (Surroundings.calm tree).Fair :=
  nofun

theorem shrinking_update_over_quota_iff_lowered :
    (Operation.update .ann ContentHash.zeros.hex ⟨.empty, none⟩ (.calm .empty) ⟨.lowered, 0⟩).1 =
      .error (.refused (.overQuota 40 10)) := by
  have total : Store.lowered.total Caller.ann.owner [] = 40 := by decide +kernel
  have exact_when := (shrinking_update_over_quota_iff (e := .calm .empty) (m := .empty)
    (collisionFree_singleton (Caller.ann.owner, ContentHash.zeros)) (Set.mem_singleton _)
    ContentHash.zeros.parse_hex Store.find?_lowered rfl rfl (Surroundings.fair_calm _)
    Store.reachable_lowered).2.1 (fun _ _ => ⟨rfl, fun _ => rfl⟩) 0 40 10
  refine exact_when.mpr ⟨?_, ?_, rfl, by decide⟩
  · rw [total]
    decide
  · rw [total]
    decide

set_option maxRecDepth 10000 in
/-- Under a lowered quota an update that changes only the name of a record is refused. -/
theorem not_shrinking_update_passes :
    ¬∀ (used : Set (String × ContentHash)) (s : Store) (caller : Caller) (hash : ContentHash)
      (m : Metadata) (row : Record) (size usage quota : Int), CollisionFree used →
      Reachable used s → (caller.owner, hash) ∈ used →
      s.find? (storageId caller.owner hash) = some row → row.isLink = false →
      m.sizeFor row = .ok size → size ≤ row.size →
      (Operation.update caller hash.hex ⟨m, none⟩ (.calm .empty) ⟨s, 0⟩).1 ≠
        .error (.refused (.overQuota usage quota)) := by
  intro claim
  have refused : (Operation.update .ann ContentHash.zeros.hex ⟨⟨some "new", none, none, none⟩, none⟩
      (.calm .empty) ⟨.lowered, 0⟩).1 = .error (.refused (.overQuota 40 10)) := by
    decide +kernel
  exact claim _ .lowered .ann .zeros ⟨some "new", none, none, none⟩ _ 40 40 10
    (collisionFree_singleton ("ann", .zeros)) Store.reachable_lowered (Set.mem_singleton _)
    Store.find?_lowered rfl rfl (le_refl _) refused

end ContentStore
