import ContentStore.Proofs.Grants
import ContentStore.Proofs.Runs

/-!
# Revoking what links read

Once a record is deleted, or moved to other content, nobody should be granted reading of its bytes
until its owner brings it back. Registering and fetching keep to that: they follow a link before
they grant. Updating a link in place does not, and `Dangles` names the one case in which its grant
opens what no live row owns any more. A short history reaches it: one owner stores, another links,
the first deletes, and the second renames the link.
-/

namespace ContentStore

variable {used : Set (String × ContentHash)} {e : Surroundings} {s s' : Store} {caller : Caller}
  {hash : ContentHash} {row : Record} {w : Award}

/-- The update stays in place on a link whose target is no live row that owns its bytes. -/
def Revision.Dangles (revision : Revision) (s : Store) (owner : String) (hash : ContentHash) :
    Prop :=
  revision.moveTo? hash = none ∧
    ∃ row, s.find? (storageId owner hash) = some row ∧ row.isLink = true ∧
      ¬s.Owns row.linkedObject

/-- Renaming a link does not change which rows own their bytes. -/
theorem Store.owns_renamed_iff {key id : String} {m : Metadata} {now : Time.Instant}
    (found : s.find? key = some row) (isLink : row.isLink = true) :
    (s.put (row.renamed m) now).Owns id ↔ s.Owns id := by
  obtain ⟨-, hasKey, -⟩ := find?_some found
  have stays : (s.written (row.renamed m) now).isLink = true := by
    rw [isLink_written]
    exact isLink
  by_cases here : id = (row.renamed m).storageId
  · -- On both sides the row of this key is a link.
    refine iff_of_false ?_ ?_
    · rintro ⟨row', live, own⟩
      rw [find?_put, if_pos here] at live
      rw [← Option.some.inj live, stays] at own
      cases own
    · rintro ⟨row', live, own⟩
      rw [here.trans hasKey, found] at live
      rw [← Option.some.inj live, isLink] at own
      cases own
  · unfold Owns
    rw [find?_put, if_neg here]

/-- An update awards reading from a row that owns its bytes, unless it dangles. -/
theorem Updates.owns_iff {revision : Revision} {id : String}
    (updates : Updates e s caller hash revision w s') (free : CollisionFree used)
    (mem : (caller.owner, hash) ∈ used)
    (newMem : ∀ newHash, revision.moveTo? hash = some newHash → (caller.owner, newHash) ∈ used)
    (reads : w.readFrom = some id) :
    s'.Owns id ↔ ¬revision.Dangles s caller.owner hash := by
  cases updates with
  | @renamed row stays found owned isLink =>
      have stillLink : (s.written (row.renamed revision.metadata) e.now).isLink = true := by
        rw [Store.isLink_written]
        exact isLink
      cases reads
      rw [Record.realStorageId_of_isLink stillLink, Store.linkedObject_written,
        Store.owns_renamed_iff found isLink]
      constructor
      · rintro owns ⟨-, row', found', -, lost⟩
        cases Option.some.inj (found'.symm.trans found)
        exact lost owns
      · intro follows
        by_contra lost
        exact follows ⟨stays, row, found, isLink, lost⟩
  | @revised row size stays found owned own sized admits =>
      cases reads
      refine iff_of_true ⟨s.written (row.revised revision.metadata size) e.now, ?_, ?_⟩ ?_
      · rw [Store.find?_put]
        exact if_pos (Store.find?_some found).2.1.symm
      · rw [Store.isLink_written]
        exact decide_eq_false fun linked => linked rfl
      · rintro ⟨-, row', found', isLink, -⟩
        cases Option.some.inj (found'.symm.trans found)
        rw [own] at isLink
        cases isLink
  | @moved row newHash size moves ready =>
      dsimp only at reads
      split at reads
      · cases reads
        have live := (ready.moved free mem (newMem newHash moves)).1
        refine iff_of_true ⟨_, live, ?_⟩ fun dangles => ?_
        · rw [Store.isLink_written]
          exact decide_eq_false fun linked => linked rfl
        · exact nomatch dangles.1.symm.trans moves
      · cases reads

/-- A grant for reading names what its award is to be read from. -/
theorem Award.readFrom_of_granted {expiresAt : Time.Instant} {grant : Grant}
    (given : (w.granted e caller expiresAt).read = some grant) :
    w.readFrom = some grant.storageId := by
  obtain ⟨id, reads, rfl⟩ := Option.map_eq_some_iff.mp given
  exact reads

/-- **Grants for reading name live rows that own their bytes, but for links renamed after their
target is gone.** In a reachable store, whatever registering and fetching grant for reading is owned
by a live row when they answer, and so is what an update grants, exactly unless the update stays in
place on a link whose target is gone. -/
theorem read_grants_owned_iff (free : CollisionFree used) (reachable : Reachable used s)
    (e : Surroundings) (n : Journal) (caller : Caller) (text : String) :
    (∀ m autoLink a grant, (Action.register text m autoLink).Within caller used →
      (Operation.register caller text m autoLink e ⟨s, n⟩).1 = .ok a →
      a.granted.read = some grant →
      (Operation.register caller text m autoLink e ⟨s, n⟩).2.store.Owns grant.storageId) ∧
    (∀ autoLink g grant, (Action.fetch text autoLink).Within caller used →
      (Operation.fetch caller text autoLink e ⟨s, n⟩).1 = .ok g → g.read = some grant →
      (Operation.fetch caller text autoLink e ⟨s, n⟩).2.store.Owns grant.storageId) ∧
    ∀ revision g grant, (Action.update text revision).Within caller used →
      (Operation.update caller text revision e ⟨s, n⟩).1 = .ok g → g.read = some grant →
      ((Operation.update caller text revision e ⟨s, n⟩).2.store.Owns grant.storageId ↔
        ¬∃ hash, ContentHash.parse text = .ok hash ∧ revision.Dangles s caller.owner hash) := by
  have wellFormed := reachable.wellFormed free
  have owns : ∀ {w : Award} {s' : Store} {hash : ContentHash} {id : String},
      w.Sound e s' caller hash → w.readFrom = some id → s'.Owns id := by
    intro w s' hash id sound reads
    obtain ⟨-, -, row, live, own, -⟩ := sound.reads id reads
    exact ⟨row, live, own⟩
  refine ⟨?_, ?_, ?_⟩
  · intro m autoLink a grant within answered given
    have ends : (Operation.register caller text m autoLink).Ensures e s
        (fun a s' => ∀ grant, a.granted.read = some grant → s'.Owns grant.storageId)
        fun _ _ => True := by
      refine Operation.ensures_register (fun hash w created s' parsed registers => ?_)
        fun _ => trivial
      have mem := within hash ⟨text, List.mem_cons_self, parsed⟩
      refine Operation.ensures_award (fun expiresAt _ grant given => ?_) fun _ => trivial
      exact owns (registers.sound wellFormed free mem) (Award.readFrom_of_granted given)
    exact ends.answered answered grant given
  · intro autoLink g grant within answered given
    have ends : (Operation.fetch caller text autoLink).Ensures e s
        (fun g s' => ∀ grant, g.read = some grant → s'.Owns grant.storageId)
        fun _ _ => True := by
      refine Operation.ensures_fetch (fun hash w s' parsed fetches => ?_)
        (fun _ _ _ _ _ _ => trivial) fun _ => trivial
      have mem := within hash ⟨text, List.mem_cons_self, parsed⟩
      refine Operation.ensures_award (fun expiresAt _ grant given => ?_) fun _ => trivial
      exact owns (fetches.sound wellFormed free mem) (Award.readFrom_of_granted given)
    exact ends.answered answered grant given
  · intro revision g grant within answered given
    have ends : (Operation.update caller text revision).Ensures e s
        (fun g s' => ∀ grant, g.read = some grant → (s'.Owns grant.storageId ↔
          ¬∃ hash, ContentHash.parse text = .ok hash ∧ revision.Dangles s caller.owner hash))
        fun _ _ => True := by
      refine Operation.ensures_update (fun hash w s' parsed updates => ?_)
        (fun _ _ _ _ _ => trivial) fun _ => trivial
      have mem := within hash ⟨text, List.mem_cons_self, parsed⟩
      refine Operation.ensures_award (fun expiresAt _ grant given => ?_) fun _ => trivial
      have owns_iff := updates.owns_iff free mem
        (fun newHash moves => within newHash (names_of_moveTo? parsed moves).2)
        (Award.readFrom_of_granted given)
      rw [owns_iff]
      refine not_congr ⟨fun dangles => ⟨hash, parsed, dangles⟩, ?_⟩
      rintro ⟨hash', parsed', dangles⟩
      cases Except.ok.inj (parsed'.symm.trans parsed)
      exact dangles
    exact ends.answered answered grant given

theorem read_grants_owned_iff_in_place :
    let s := (Action.register ContentHash.zeros.hex .empty false).after .ann (.calm .empty) .empty
    (Operation.update .ann ContentHash.zeros.hex ⟨.empty, none⟩ (.calm .empty)
      ⟨s, 0⟩).2.store.Owns (storageId "ann" .zeros) := by
  intro s
  let row := (ownDraft "ann" .zeros .empty 0).fresh (Uuid.numbered 0) ⟨0, 0⟩
  let w : Award :=
    ⟨s.written (row.revised .empty 0) ⟨0, 0⟩, some (storageId "ann" .zeros), true⟩
  have required := ContentHash.require_eq_ok_iff.mpr ContentHash.zeros.parse_hex
  have left : s = Store.empty.put (ownDraft "ann" .zeros .empty 0) ⟨0, 0⟩ := by
    change (Operation.register .ann ContentHash.zeros.hex .empty false (.calm .empty)
      ⟨.empty, 0⟩).2.store = _
    rw [Operation.register, Operation.bind_run, required]
    rfl
  have live : s.find? (storageId "ann" .zeros) = some row := by
    rw [left]
    exact Store.find?_put.trans (if_pos rfl)
  have carries : ∀ n c, (Surroundings.calm .empty).Carries n c := fun _ _ => ⟨rfl, fun _ => rfl⟩
  have admits : (Surroundings.calm .empty).Admits s "ann" [storageId "ann" .zeros] 0 := by
    have rows : s.rows = [row] := congrArg Store.rows left
    refine ⟨0, ?_, by rw [left]; decide⟩
    simp [Store.usage?, Store.counted, rows, Store.sumInt64, row, Draft.fresh, ownDraft]
  have answered : Operation.update .ann ContentHash.zeros.hex ⟨.empty, none⟩ (.calm .empty) ⟨s, 0⟩ =
      (.ok (w.granted (.calm .empty) .ann ⟨3600, 0⟩), ⟨s.put (row.revised .empty 0) ⟨0, 0⟩,
        .calling 0 4⟩) :=
    Operation.update_run_in_place carries ContentHash.zeros.parse_hex live rfl rfl rfl admits rfl
  refine ((read_grants_owned_iff (collisionFree_singleton ("ann", .zeros)) ?_ _ 0 .ann
    ContentHash.zeros.hex).2.2 ⟨.empty, none⟩ _ _ ?_ (congrArg Prod.fst answered) rfl).mpr ?_
  · exact .act .empty trivial (Action.within_of_texts [.zeros] rfl (by simp [Caller.ann]))
  · exact Action.within_of_texts [.zeros] rfl (by simp [Caller.ann])
  · rintro ⟨hash, parsed, -, row', found, isLink, -⟩
    cases Except.ok.inj (parsed.symm.trans ContentHash.zeros.parse_hex)
    cases Option.some.inj (found.symm.trans live)
    cases isLink

/-- A link whose target was deleted after it was made. -/
def Store.danglingLink : Store :=
  (Action.delete ContentHash.zeros.hex).after .ann .stocked <|
    (Action.register ContentHash.zeros.hex .empty true).after .bob .stocked <|
      (Action.register ContentHash.zeros.hex .empty false).after .ann .stocked .empty

set_option maxRecDepth 10000 in
/-- Renaming such a link grants reading what no live row owns. -/
theorem not_read_grants_owned :
    ¬∀ (used : Set (String × ContentHash)) (s : Store) (e : Surroundings) (caller : Caller)
      (text : String) (revision : Revision) (g : Granted) (grant : Grant), CollisionFree used →
      Reachable used s → (Action.update text revision).Within caller used →
      (Operation.update caller text revision e ⟨s, 0⟩).1 = .ok g → g.read = some grant →
      (Operation.update caller text revision e ⟨s, 0⟩).2.store.Owns grant.storageId := by
  intro claim
  have reachable : Reachable {("ann", .zeros), ("bob", .zeros)} .danglingLink :=
    .act Store.reachable_freshLink trivial <|
      Action.within_of_texts [.zeros] rfl (by simp [Caller.ann])
  have within : (Action.update ContentHash.zeros.hex ⟨.empty, none⟩).Within .bob
      {("ann", .zeros), ("bob", .zeros)} :=
    Action.within_of_texts [.zeros] rfl (by simp [Caller.bob])
  have ends : ((Operation.update .bob ContentHash.zeros.hex ⟨.empty, none⟩ .stocked
        ⟨.danglingLink, 0⟩).1.toOption.any fun g =>
          g.read.any (·.storageId == storageId "ann" .zeros)) = true ∧
      (Operation.update .bob ContentHash.zeros.hex ⟨.empty, none⟩ .stocked
        ⟨.danglingLink, 0⟩).2.store.find? (storageId "ann" .zeros) = none := by
    decide +kernel
  obtain ⟨any, gone⟩ := ends
  obtain ⟨g, answered, reads⟩ := exists_ok_of_any any
  obtain ⟨grant, given, named⟩ := (Option.any_eq_true _ _).mp reads
  obtain ⟨row, live, -⟩ := claim _ .danglingLink .stocked .bob ContentHash.zeros.hex
    ⟨.empty, none⟩ g grant collisionFree_zeros reachable within answered given
  rw [eq_of_beq named, gone] at live
  cases live

end ContentStore
