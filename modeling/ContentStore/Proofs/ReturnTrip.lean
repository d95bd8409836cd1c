import ContentStore.Proofs.Revisions

/-!
# Moving there and back

A record that is moved to content for which its owner has no live row, and moved back at once, is
the record that it was, but for the time of its last write (`moved_back_restores`). Moving back
writes over the garbage that the first move left, which has kept the identity of the record, and
takes the name, size and type from the row that the first move wrote.

That the second move passes the check of the quota is no new condition. Both checks leave out the
rows of both contents, so they count the same rows, add the same size and compare with the same
quota (`MoveReady.returns`).
-/

namespace ContentStore

/-- The owner's record is as it was but for the time of its last write, the row of the other content
is garbage, and everything else is as it was. -/
structure Store.Restored (s t : Store) (now : Time.Instant) (owner : String)
    (hash newHash : ContentHash) (row : Record) : Prop where
  live : t.find? (storageId owner hash) = some { row with updatedAt := now }
  gone : ∃ other, t.row? (storageId owner newHash) = some other ∧ other.garbage = true
  others : ∀ r, r.storageId ≠ storageId owner hash → r.storageId ≠ storageId owner newHash →
    (r ∈ t.rows ↔ r ∈ s.rows)
  plans : t.plans = s.plans
  total : t.total owner [] = s.total owner []
  usage : t.usage? owner [] = s.usage? owner []

section Returning

variable {used : Set (String × ContentHash)} {e e' : Surroundings} {s t u : Store} {caller : Caller}
  {owner text newText : String} {hash newHash : ContentHash} {m : Metadata}
  {row new : Record} {size : Int} {g : Granted} {now later : Time.Instant}

theorem Metadata.sizeFor_empty (row : Record) : Metadata.empty.sizeFor row = .ok row.size :=
  rfl

/-! ### The check of the quota -/

/-- Leaving out both rows of a move, an owner has the total that there was before it. -/
theorem MoveReady.usage?_moved (ready : MoveReady e s caller hash newHash m row size) :
    ((s.put (row.moved caller.owner newHash m size) now).markGarbage row.storageId now).usage?
        caller.owner [storageId caller.owner newHash, storageId caller.owner hash] =
      s.usage? caller.owner [row.storageId, storageId caller.owner newHash] := by
  obtain ⟨-, hasKey, -⟩ := Store.find?_some ready.live
  rw [Store.usage?_markGarbage_of_excluded (by simp [hasKey]),
    Store.usage?_put_of_excluded (by simp [Record.moved]), hasKey]
  refine Store.usage?_congr fun id => ?_
  simp only [List.mem_cons, List.not_mem_nil, or_false]
  exact or_comm

/-- Once a record has been moved without metadata, it can be moved back. -/
theorem MoveReady.returns (ready : MoveReady e s caller hash newHash .empty row size)
    (left : t = (s.put (row.moved caller.owner newHash .empty size) now).markGarbage
      row.storageId now)
    (moved : s.Moved t now caller.owner hash newHash .empty row new)
    (samePlan : e'.defaultPlan = e.defaultPlan) :
    MoveReady e' t caller newHash hash .empty new size := by
  have sizes : size = row.size := (Except.ok.inj ready.sized).symm
  have kept : new.size = size := (moved.revises.kept rfl rfl).trans sizes.symm
  have hasKey := (Store.find?_some moved.live).2.1
  have quota : e'.quotaOf t caller.owner = e.quotaOf s caller.owner := by
    unfold Surroundings.quotaOf Store.plan?
    rw [moved.plans, samePlan]
  obtain ⟨total, counted, within⟩ := ready.admits
  refine ⟨moved.live, moved.owned, ready.other.symm, ?_, total, ?_, ?_⟩
  · rw [Metadata.sizeFor_empty, kept]
  · rw [hasKey, left, ready.usage?_moved, counted]
  · rw [quota]
    exact within

/-! ### What comes back -/

/-- A move back over the garbage of a move restores the record. -/
theorem Store.Moved.restored {restored : Record}
    (there : s.Moved t now owner hash newHash .empty row new)
    (back : t.Moved u later owner newHash hash .empty new restored)
    (live : s.find? (storageId owner hash) = some row) (own : row.isLink = false)
    (absent : s.find? (storageId owner newHash) = none) (before : s.WellFormed used)
    (between : t.WellFormed used) (after : u.WellFormed used) :
    restored = { row with updatedAt := later } ∧ s.Restored u later owner hash newHash row := by
  have fresh := (find?_some live).2.2
  have freshAgain := (find?_some back.live).2.2
  have same : restored = { row with updatedAt := later } := by
    have identity := back.identity _ there.left
    have particulars := back.revises.eq_of_empty.trans there.revises.eq_of_empty
    have unlinked := Record.isLink_eq_false_iff.mp own
    exact Record.eq_of_parts identity particulars (back.own.trans unlinked.symm)
      (freshAgain.trans fresh.symm) back.written
  have hidden : t.find? (storageId owner hash) = none :=
    between.distinct.find?_of_garbage there.left rfl
  have total : u.total owner [] = s.total owner [] := by
    have first := there.total
    have second := back.total
    rw [absent] at first
    rw [hidden] at second
    simp only [Option.map_none, Option.getD_none] at first second
    have kept : restored.size = row.size := by rw [same]
    omega
  refine ⟨same, ?_, ?_, ?_, ?_, total, ?_⟩
  · rw [← same]
    exact back.live
  · exact ⟨_, back.left, rfl⟩
  · intro r notHash notNew
    exact (back.others r notNew notHash).trans (there.others r notHash notNew)
  · exact back.plans.trans there.plans
  · rw [after.usage?_eq, before.usage?_eq, total]

/-- A record that has been moved without metadata is moved back. -/
theorem Operation.yields_update_back {back forth : String}
    (ready : MoveReady e s caller hash newHash .empty row size)
    (left : t = (s.put (row.moved caller.owner newHash .empty size) e.now).markGarbage
      row.storageId e.now)
    (own : row.isLink = false) (absent : s.find? (storageId caller.owner newHash) = none)
    (wellFormed : s.WellFormed used) (free : CollisionFree used)
    (mem : (caller.owner, hash) ∈ used) (newMem : (caller.owner, newHash) ∈ used)
    (backParsed : ContentHash.parse back = .ok hash)
    (forthParsed : ContentHash.parse forth = .ok newHash)
    (samePlan : e'.defaultPlan = e.defaultPlan) (carries : ∀ n c, e'.Carries n c)
    (tells : e'.Tells (storageId caller.owner hash))
    (inTime : (e'.now.later? e'.issuer.seconds).isSome) :
    ∃ g' u, (update caller forth ⟨.empty, some back⟩).Yields e' t (.ok g') u ∧
      g'.record = { row with updatedAt := e'.now } ∧
      s.Restored u e'.now caller.owner hash newHash row := by
  have between : t.WellFormed used := left ▸ ready.wellFormed wellFormed newMem
  have there : s.Moved t e.now caller.owner hash newHash .empty row
      (s.written (row.moved caller.owner newHash .empty size) e.now) :=
    left ▸ ready.store_moved wellFormed free mem newMem
  have again : MoveReady e' t caller newHash hash
      (Revision.mk .empty (some back)).metadata _ size :=
    ready.returns left there samePlan
  obtain ⟨expiresAt, ends⟩ := Option.isSome_iff_exists.mp inTime
  have yields := yields_update_moved carries forthParsed rfl backParsed again tells ends
  obtain ⟨same, restored⟩ := there.restored (again.store_moved between free newMem mem) ready.live
    own absent wellFormed between (again.wellFormed between mem)
  exact ⟨_, _, yields, same, restored⟩

/-- **Moving there and back restores the record.** Take a live record that owns its bytes, in a
reachable store, and other content for which its owner has no live row. If moving the record there
without metadata is answered, in whatever surroundings, then moving it back without metadata, with
the same plans and every call carried out, is answered too, with the record as it was but for the
time of its last write. The row of the other content is garbage then, all other rows are as they
were, and so is the owner's total. -/
theorem moved_back_restores (free : CollisionFree used) (reachable : Reachable used s)
    (within : (Action.update text ⟨.empty, some newText⟩).Within caller used)
    (parsed : ContentHash.parse text = .ok hash)
    (newParsed : ContentHash.parse newText = .ok newHash) (other : newHash ≠ hash)
    (live : s.find? (storageId caller.owner hash) = some row) (own : row.isLink = false)
    (absent : s.find? (storageId caller.owner newHash) = none) (n : Journal)
    (answered : (Operation.update caller text ⟨.empty, some newText⟩ e ⟨s, n⟩).1 = .ok g) :
    let t := (Operation.update caller text ⟨.empty, some newText⟩ e ⟨s, n⟩).2.store
    ∀ (e' : Surroundings) (back forth : String) (k : Journal), ContentHash.parse back = .ok hash →
      ContentHash.parse forth = .ok newHash → e'.defaultPlan = e.defaultPlan →
      (∀ n c, e'.Carries n c) → e'.Tells (storageId caller.owner hash) →
      (e'.now.later? e'.issuer.seconds).isSome →
      let returned := Operation.update caller forth ⟨.empty, some back⟩ e' ⟨t, k⟩
      ∃ g', returned.1 = .ok g' ∧ g'.record = { row with updatedAt := e'.now } ∧
        s.Restored returned.2.store e'.now caller.owner hash newHash row := by
  intro t e' back forth k backParsed forthParsed samePlan carries tells inTime returned
  have wellFormed := reachable.wellFormed free
  have mem : (caller.owner, hash) ∈ used := within hash (.first rfl parsed)
  have newMem : (caller.owner, newHash) ∈ used :=
    within newHash ⟨newText, by simp [Action.texts], newParsed⟩
  have moves : (Revision.mk .empty (some newText)).Moves hash newHash :=
    ⟨other, newText, rfl, newParsed⟩
  obtain ⟨w, expiresAt, updates, -⟩ := Operation.update_awarded parsed answered
  obtain ⟨row', size, ready, left⟩ := updates.ready_of_moves moves
  cases Option.some.inj (ready.live.symm.trans live)
  obtain ⟨g', u, yields, record, restored⟩ := Operation.yields_update_back ready left own absent
    wellFormed free mem newMem backParsed forthParsed samePlan carries tells inTime
  obtain ⟨k', ran⟩ := yields k
  have ended : returned = (.ok g', ⟨u, k'⟩) := ran
  rw [ended]
  exact ⟨g', rfl, record, restored⟩

end Returning

/-- Ann moves her record to the hash of ones and a minute later back. -/
theorem moved_back_restores_annsZeros :
    ∃ g, (Operation.update .ann ContentHash.ones.hex ⟨.empty, some ContentHash.zeros.hex⟩
        { Surroundings.calm .empty with now := ⟨60, 0⟩ }
        ⟨(Operation.update .ann ContentHash.zeros.hex ⟨.empty, some ContentHash.ones.hex⟩
          (.calm .empty) ⟨.annAlone, 0⟩).2.store, 0⟩).1 = .ok g ∧
      g.record = { Record.annsZeros with updatedAt := ⟨60, 0⟩ } := by
  have parsed := ContentHash.zeros.parse_hex
  have newParsed := ContentHash.ones.parse_hex
  have carries : ∀ n c, (Surroundings.calm .empty).Carries n c := fun _ _ => ⟨rfl, fun _ => rfl⟩
  have ready : MoveReady (.calm .empty) .annAlone .ann .zeros .ones
      (Revision.mk .empty (some ContentHash.ones.hex)).metadata .annsZeros 0 :=
    .annAlone rfl (le_refl 0) (by decide)
  have answered := (Operation.yields_update_moved carries parsed rfl newParsed ready
    Surroundings.calm_tells_ones.1 rfl).result 0
  have absent : Store.annAlone.find? (storageId Caller.ann.owner .ones) = none := by
    refine Store.find?_eq_none_iff.mpr fun r stands hasKey => ?_
    rw [List.mem_singleton.mp stands] at hasKey
    exact absurd (collisionFree_zeros_ones.storageId_inj (.inl rfl) (.inr rfl) hasKey).2 (by decide)
  have within : (Action.update ContentHash.zeros.hex
      ⟨.empty, some ContentHash.ones.hex⟩).Within .ann {("ann", .zeros), ("ann", .ones)} :=
    Action.within_of_texts [.zeros, .ones] rfl (by simp [Caller.ann])
  have faultless := Surroundings.faultless_calm.later ⟨60, 0⟩
  have tells := faultless.tells Caller.ann.owner rfl
  obtain ⟨g, returned, record, -⟩ := moved_back_restores collisionFree_zeros_ones
    (Store.reachable_annAlone (by simp)) within parsed newParsed ready.other ready.live rfl absent 0
    answered { Surroundings.calm .empty with now := ⟨60, 0⟩ } _ _ 0 parsed newParsed rfl
    faultless.carries tells (by decide)
  exact ⟨g, returned, record⟩

end ContentStore
