import ContentStore.Proofs.Faultless
import ContentStore.Proofs.Identity
import ContentStore.Proofs.Isolation
import ContentStore.Proofs.Uploads

/-!
# Deleted records

A deleted record stays deleted until its owner brings it back. Its row remains as garbage, field for
field, through whatever else is done by anybody (`Store.LeadsToWithout.row?_eq`), and as long as it
is garbage it counts for nothing, is listed for nobody, and is denied to its owner like content that
there never was (`Store.Buried`). Only the owner can bring it back, by registering the content, by
fetching it for a link or by moving another record to it (`Action.Revives`), and gets the same row.

What carries this is a sharper account of what an action reaches than `Effect.reaches` gives: under
the keys that it names, an action writes live rows, and of garbage only what it can revive
(`Action.reaches_live`).
-/

namespace ContentStore

/-- The action can bring the caller's row of this content back from garbage. -/
def Action.Revives (a : Action) (hash : ContentHash) : Prop :=
  match a with
  | .register text _ _ => ContentHash.parse text = .ok hash
  | .fetch text autoLink => ContentHash.parse text = .ok hash ∧ autoLink = true
  | .update text revision =>
    ∃ old, ContentHash.parse text = .ok old ∧ revision.moveTo? old = some hash
  | .delete _ | .list _ => False

/-- Some sequence of actions of any callers leads from the one store to the other, in which the
owner does nothing that can bring the content back. -/
inductive Store.LeadsToWithout (used : Set (String × ContentHash)) (owner : String)
    (hash : ContentHash) (s : Store) : Store → Prop where
  | here : LeadsToWithout used owner hash s s
  | act {t : Store} {e : Surroundings} {caller : Caller} {a : Action} :
      LeadsToWithout used owner hash s t → a.Within caller used →
      (caller.owner = owner → ¬a.Revives hash) →
      LeadsToWithout used owner hash s (a.after caller e t)
  | plan {t : Store} {planned : String} {plan : Plan} :
      LeadsToWithout used owner hash s t → LeadsToWithout used owner hash s (t.setPlan planned plan)

/-- The row of the owner's content is garbage. It counts for nothing and is listed for nobody, and
without the means to bring it back its owner is denied it. -/
structure Store.Buried (s : Store) (owner : String) (hash : ContentHash) (row : Record) : Prop where
  stands : s.row? (storageId owner hash) = some row
  garbage : row.garbage = true
  uncounted : ∀ excluding,
    s.usage? owner (storageId owner hash :: excluding) = s.usage? owner excluding
  unlisted : ∀ caller q e n page, (Operation.listPage caller q e ⟨s, n⟩).1 = .ok page →
    ∀ r ∈ page.records, r.storageId ≠ storageId owner hash
  denied : ∀ (caller : Caller) (e : Surroundings) (text : String) (n : Journal),
    caller.owner = owner → (∀ n c, e.Carries n c) → ContentHash.parse text = .ok hash →
    (Operation.fetch caller text false e ⟨s, n⟩).1 = .error (.refused .noAccess) ∧
      (∀ revision, (∀ newText, revision.newHash = some newText →
          ∃ newHash, ContentHash.parse newText = .ok newHash) →
        (Operation.update caller text revision e ⟨s, n⟩).1 = .error (.refused .noAccess)) ∧
      (Operation.delete caller text e ⟨s, n⟩).1 = .error (.refused .noAccess)

section Deleting

variable {used : Set (String × ContentHash)} {e : Surroundings} {s s' t : Store} {caller : Caller}
  {owner text key : String} {hash newHash : ContentHash} {names : ContentHash → Prop} {row : Record}
  {revision : Revision} {m : Metadata} {size : Int} {w : Award} {f : Failure} {a : Action}
  {now : Time.Instant}

/-! ### Garbage -/

theorem Store.mem_matching_of_mem_list {filter : ListFilter} {limit : Nat} {r : Record}
    (listed : r ∈ s.list owner filter limit) : r ∈ s.matching owner filter := by
  unfold list at listed
  split at listed
  · exact List.mem_of_mem_take listed
  · exact listed

theorem Page.mem_of_mem_ofRecords {limit : Nat} {records : List Record} {r : Record}
    (shown : r ∈ (ofRecords limit records).records) : r ∈ records := by
  unfold ofRecords at shown
  split at shown
  · exact List.mem_of_mem_take shown
  · exact shown

theorem Store.unlisted_of_absent (absent : s.find? key = none) {q : ListRequest} {n : Journal}
    {page : Page} (answered : (Operation.listPage caller q e ⟨s, n⟩).1 = .ok page) :
    ∀ r ∈ page.records, r.storageId ≠ key := by
  have ends : (Operation.listPage caller q).Ensures e s
      (fun page _ => ∀ r ∈ page.records, r.storageId ≠ key) fun _ _ => True := by
    refine Operation.ensures_listPage (fun filter _ => ?_) fun _ => trivial
    intro r listed hasKey
    obtain ⟨mem, -, live, -⟩ := mem_matching.mp (mem_matching_of_mem_list
      (Page.mem_of_mem_ofRecords listed))
    rw [find?_eq_none_iff.mp absent r mem hasKey] at live
    cases live
  exact ends.answered answered

/-- A garbage row is as good as none. -/
theorem Store.Distinct.buried (distinct : s.Distinct)
    (stands : s.row? (storageId owner hash) = some row) (garbage : row.garbage = true) :
    s.Buried owner hash row := by
  have absent := distinct.find?_of_garbage stands garbage
  refine ⟨stands, garbage, fun _ => usage?_of_absent absent, ?_, ?_⟩
  · intro caller q e n page answered
    exact unlisted_of_absent absent answered
  · rintro caller e text n rfl carries parsed
    refine ⟨?_, ?_, ?_⟩
    · exact (Operation.yields_fetch_absent carries parsed absent).result n
    · intro revision spelled
      exact (Operation.yields_update_absent carries parsed absent spelled).result n
    · exact (Operation.yields_delete_absent carries parsed absent).result n

/-! ### What an action reaches -/

theorem MoveReady.reaches (ready : MoveReady e s caller hash newHash m row size)
    (old : (s.find? (storageId caller.owner hash)).isSome → names hash) (new : names newHash) :
    let put := s.put (row.moved caller.owner newHash m size) e.now
    s.DifferWithin put caller.owner names ∧
      s.DifferWithin (put.markGarbage row.storageId e.now) caller.owner names := by
  intro put
  have hasKey := (Store.find?_some ready.live).2.1
  have written : s.DifferWithin put caller.owner names := Store.differAt_put.within new rfl
  have erased : put.DifferWithin (put.markGarbage row.storageId e.now) caller.owner names := by
    refine Store.differAt_markGarbage.within (old ?_) hasKey
    rw [ready.live]
    rfl
  exact ⟨written, written.trans erased⟩

theorem Updates.reaches (updates : Updates e s caller hash revision w s')
    (old : (s.find? (storageId caller.owner hash)).isSome → names hash)
    (new : ∀ newHash, revision.moveTo? hash = some newHash → names newHash) :
    s.DifferWithin s' caller.owner names := by
  cases updates with
  | renamed _ found =>
      have hasKey := (Store.find?_some found).2.1
      exact Store.differAt_put.within (old (by rw [found]; rfl)) hasKey
  | revised _ found =>
      have hasKey := (Store.find?_some found).2.1
      exact Store.differAt_put.within (old (by rw [found]; rfl)) hasKey
  | moved moves ready => exact (ready.reaches old (new _ moves)).2

theorem MoveCut.reaches (cut : MoveCut e s caller hash revision f s')
    (old : (s.find? (storageId caller.owner hash)).isSome → names hash)
    (new : ∀ newHash, revision.moveTo? hash = some newHash → names newHash) :
    s.DifferWithin s' caller.owner names := by
  cases cut with
  | erase moves ready => exact (ready.reaches old (new _ moves)).1
  | probe moves ready => exact (ready.reaches old (new _ moves)).2

/-- An action reaches rows under the keys that it names, where a live row stands or where it can
revive what stands there. -/
theorem Action.reaches_live (wellFormed : s.WellFormed used) (free : CollisionFree used)
    (within : a.Within caller used) :
    s.DifferWithin (a.after caller e s) caller.owner fun hash => a.Names hash ∧
      ((s.find? (storageId caller.owner hash)).isSome ∨ a.Revives hash) := by
  have ends := a.ends caller e s
  generalize a.after caller e s = s' at ends
  cases ends with
  | unchanged => exact .refl _ _ _
  | awarded awards =>
      cases awards with
      | @registered text m autoLink _ hash _ _ parsed registers =>
          have named : (Action.register text m autoLink).Names hash := .first rfl parsed
          exact (registers.effect wellFormed free (within hash named) ⟨named, .inr parsed⟩).reaches
      | @fetched text autoLink hash _ _ parsed fetches =>
          have named : (Action.fetch text autoLink).Names hash := .first rfl parsed
          cases autoLink with
          | false =>
              cases fetches with
              | resolved resolves => rw [resolves.eq_of_not_autoLink]; exact .refl _ _ _
              | waiting => exact .refl _ _ _
          | true => exact (fetches.effect wellFormed ⟨named, .inr ⟨parsed, rfl⟩⟩).reaches
      | @updated text revision hash _ _ parsed updates =>
          refine updates.reaches (fun live => ?_) fun newHash moves => ?_
          · exact ⟨.first rfl parsed, .inl live⟩
          · exact ⟨(names_of_moveTo? parsed moves).2, .inr ⟨hash, parsed, moves⟩⟩
  | @denied text autoLink hash _ _ parsed resolves =>
      have named : (Action.fetch text autoLink).Names hash := .first rfl parsed
      cases autoLink with
      | false => rw [resolves.eq_of_not_autoLink]; exact .refl _ _ _
      | true => exact (resolves.effect wellFormed ⟨named, .inr ⟨parsed, rfl⟩⟩).reaches
  | @cut text revision hash _ _ parsed cut =>
      refine cut.reaches (fun live => ?_) fun newHash moves => ?_
      · exact ⟨.first rfl parsed, .inl live⟩
      · exact ⟨(names_of_moveTo? parsed moves).2, .inr ⟨hash, parsed, moves⟩⟩
  | @deleted text hash parsed =>
      cases live : s.find? (storageId caller.owner hash) with
      | none => rw [Store.markGarbage_of_absent live]; exact .refl _ _ _
      | some row =>
          refine Store.differAt_markGarbage.within ⟨.first rfl parsed, .inl ?_⟩ rfl
          rw [live]
          rfl

/-! ### One action, and runs -/

/-- Garbage stays as it is, unless its owner does what can revive it. -/
theorem Action.row?_of_garbage (wellFormed : s.WellFormed used) (free : CollisionFree used)
    (mem : (owner, hash) ∈ used) (within : a.Within caller used)
    (spares : caller.owner = owner → ¬a.Revives hash)
    (stands : s.row? (storageId owner hash) = some row) (garbage : row.garbage = true) :
    (a.after caller e s).row? (storageId owner hash) = some row := by
  have reaches := Action.reaches_live (e := e) wellFormed free within
  have after := (Action.effect (e := e) wellFormed free within).wellFormed wellFormed within
  rw [← stands]
  refine after.distinct.row?_congr wellFormed.distinct fun r hasKey => reaches r ?_
  rintro hash' ⟨named, may⟩ same
  obtain ⟨rfl, rfl⟩ := free.storageId_inj mem (within hash' named) (hasKey.symm.trans same)
  rcases may with live | revives
  · rw [wellFormed.distinct.find?_of_garbage stands garbage] at live
    cases live
  · exact spares rfl revives

theorem Store.LeadsToWithout.row?_eq (leads : s.LeadsToWithout used owner hash t)
    (wellFormed : s.WellFormed used) (free : CollisionFree used) (mem : (owner, hash) ∈ used)
    (stands : s.row? (storageId owner hash) = some row) (garbage : row.garbage = true) :
    t.WellFormed used ∧ t.row? (storageId owner hash) = some row := by
  induction leads with
  | here => exact ⟨wellFormed, stands⟩
  | act _ within spares ih =>
      obtain ⟨wellFormed, stands⟩ := ih
      constructor
      · exact (Action.effect wellFormed free within).wellFormed wellFormed within
      · exact Action.row?_of_garbage wellFormed free mem within spares stands garbage
  | plan _ ih => exact ⟨ih.1.setPlan, ih.2⟩

/-! ### Coming back -/

/-- An action that can revive a row is awarded that row. -/
theorem Action.Awards.live_of_revives (awards : a.Awards e s caller w s')
    (wellFormed : s.WellFormed used) (free : CollisionFree used) (within : a.Within caller used)
    (revives : a.Revives hash) : s'.find? (storageId caller.owner hash) = some w.record := by
  cases awards with
  | @registered text _ _ _ _ _ _ parsed registers =>
      cases Except.ok.inj (parsed.symm.trans revives)
      have mem := within hash (.first rfl parsed)
      exact (registers.sound wellFormed free mem).live
  | @fetched text _ _ _ _ parsed fetches =>
      cases Except.ok.inj (parsed.symm.trans revives.1)
      have mem := within hash (.first rfl parsed)
      exact (fetches.sound wellFormed free mem).live
  | @updated text revision old _ _ parsed updates =>
      obtain ⟨old', parsed', moves⟩ := revives
      cases Except.ok.inj (parsed.symm.trans parsed')
      have both := names_of_moveTo? parsed moves
      cases updates with
      | renamed stays => exact nomatch stays.symm.trans moves
      | revised stays => exact nomatch stays.symm.trans moves
      | moved moves' ready =>
          cases Option.some.inj (moves'.symm.trans moves)
          exact (ready.moved free (within old both.1) (within hash both.2)).1

/-- **What is deleted stays deleted until its owner brings it back.** Let a deletion in a reachable
store be answered, and let anything follow, done by anybody, but that its owner does nothing which
can bring the content back. Then the row is still there as it was, only that it is garbage since the
deletion, and counts for nothing, is listed for nobody and is denied to its owner. Whatever is done
next, the row of that key keeps its identity, and if the owner brings the content back the answer is
with that row. -/
theorem deleted_until_revived (free : CollisionFree used) (reachable : Reachable used s)
    (parsed : ContentHash.parse text = .ok hash) (mem : (caller.owner, hash) ∈ used) {gone : Record}
    (deleted : (Operation.delete caller text e ⟨s, 0⟩).1 = .ok gone)
    (leads : ((Action.delete text).after caller e s).LeadsToWithout used caller.owner hash t) :
    ∃ row, s.find? (storageId caller.owner hash) = some row ∧ gone = { row with garbage := true } ∧
      t.Buried caller.owner hash { row with garbage := true, updatedAt := e.now } ∧
      ∀ (e' : Surroundings) (caller' : Caller) (a : Action), a.Within caller' used →
        let t' := a.after caller' e' t
        (∀ r ∈ t'.rows, r.storageId = storageId caller.owner hash → r.identity = row.identity) ∧
        (caller'.owner = caller.owner → a.Revives hash → ∀ answer g,
          (a.run caller' e' ⟨t, 0⟩).1 = .ok answer → a.granted? answer = some g →
          t'.find? (storageId caller.owner hash) = some g.record ∧
            g.record.identity = row.identity) := by
  have wellFormed := reachable.wellFormed free
  obtain ⟨row, live, rfl, left⟩ := Operation.delete_erased parsed deleted
  have erased : (Action.delete text).after caller e s =
      s.markGarbage (storageId caller.owner hash) e.now := left
  rw [erased] at leads
  have stands := wellFormed.distinct.row?_markGarbage live e.now
  obtain ⟨after, stands⟩ := leads.row?_eq wellFormed.markGarbage free mem stands rfl
  refine ⟨row, live, rfl, after.distinct.buried stands rfl, ?_⟩
  intro e' caller' a within t'
  have after' : t'.WellFormed used :=
    (Action.effect (e := e') after free within).wellFormed after within
  obtain ⟨old, hasKey⟩ := Store.row?_some stands
  have keeps : ∀ r ∈ t'.rows, r.storageId = storageId caller.owner hash →
      r.identity = row.identity := by
    intro r new sameKey
    have kept : t.Keeps t' := (a.writes caller' e' t).keeps_rows after.distinct
    exact kept.identity_eq after'.distinct old new (sameKey.trans hasKey.symm)
  refine ⟨keeps, ?_⟩
  intro sameOwner revives answer g answered grants
  obtain ⟨w, expiresAt, awards, rfl⟩ := Action.awarded answered grants
  have back := awards.live_of_revives after free within revives
  rw [sameOwner] at back
  obtain ⟨new, newKey, -⟩ := Store.find?_some back
  exact ⟨back, keeps _ new newKey⟩

end Deleting

theorem deleted_until_revived_linking :
    let s := (Action.register ContentHash.zeros.hex .empty false).after .ann (.calm .empty) .empty
    let t := (Action.register ContentHash.zeros.hex .empty true).after .bob .stocked <|
      (Action.delete ContentHash.zeros.hex).after .ann (.calm .empty) s
    ∃ row, s.find? (storageId Caller.ann.owner .zeros) = some row ∧
      t.Buried Caller.ann.owner .zeros { row with garbage := true, updatedAt := ⟨0, 0⟩ } := by
  intro s t
  have parsed := ContentHash.zeros.parse_hex
  have mem : (Caller.ann.owner, ContentHash.zeros) ∈
      ({("ann", .zeros), ("bob", .zeros)} : Set (String × ContentHash)) := .inl rfl
  have reachable : Reachable {("ann", .zeros), ("bob", .zeros)} s :=
    .act .empty trivial (Action.within_of_texts [.zeros] rfl (by simp [Caller.ann]))
  have live : s.find? (storageId Caller.ann.owner .zeros) =
      some (Store.empty.written (ownDraft "ann" .zeros .empty 0) ⟨0, 0⟩) := by
    dsimp only [s]
    rw [after_first .empty rfl, Caller.ann]
    exact Store.find?_put_self rfl
  have carries : ∀ n c, (Surroundings.calm .empty).Carries n c := fun _ _ => ⟨rfl, fun _ => rfl⟩
  have deleted := (Operation.yields_delete carries parsed live rfl).result 0
  have leads : ((Action.delete ContentHash.zeros.hex).after .ann (.calm .empty) s).LeadsToWithout
      {("ann", .zeros), ("bob", .zeros)} Caller.ann.owner .zeros t := by
    refine .act .here ?_ ?_
    · exact Action.within_of_texts [.zeros] rfl (by simp [Caller.bob])
    · intro same
      exact absurd same (by decide)
  obtain ⟨row, stood, -, buried, -⟩ :=
    deleted_until_revived collisionFree_zeros reachable parsed mem deleted leads
  exact ⟨row, stood, buried⟩

end ContentStore
