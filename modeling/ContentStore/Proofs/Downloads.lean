import ContentStore.Proofs.Revisions
import ContentStore.Proofs.Revocation

/-!
# What an update offers to read

The answer to an update should offer a download only of bytes that are there, as the answers to
registering and fetching do. A move asks the backend before it offers the bytes of the new content.
An update in place asks nothing: it offers the bytes of the record whether or not they ever came
(`update_reads_iff`).
-/

namespace ContentStore

/-- The revision stays with the content of the owner's live record, whose bytes are not there. -/
def Revision.Bare (revision : Revision) (e : Surroundings) (s : Store) (owner : String)
    (hash : ContentHash) : Prop :=
  revision.Stays hash ∧
    ∃ row, s.find? (storageId owner hash) = some row ∧ e.holds row.realStorageId = false

section Reading

variable {e : Surroundings} {s s' : Store} {caller : Caller} {text id : String}
  {hash : ContentHash} {revision : Revision} {row : Record} {w : Award} {g : Granted} {n : Journal}

/-! ### Where the bytes of a rewritten record lie -/

theorem Store.realStorageId_renamed {m : Metadata} {now : Time.Instant} :
    (s.written (row.renamed m) now).realStorageId = row.realStorageId := by
  rw [realStorageId_written]
  cases isLink : row.isLink with
  | false =>
      have unlinked := Record.isLink_eq_false_iff.mp isLink
      exact (if_pos unlinked).trans (Record.realStorageId_of_not_isLink isLink).symm
  | true =>
      have linked : row.linkedObject ≠ "" := by simpa [Record.isLink] using isLink
      exact (if_neg linked).trans (if_pos isLink).symm

theorem Store.realStorageId_own {d : Draft} {now : Time.Instant} (own : d.linkedObject = "") :
    (s.written d now).realStorageId = d.storageId := by
  rw [realStorageId_written, if_pos own]

/-- An update in place leaves the bytes of the record where they are. -/
theorem Updates.realStorageId_eq (updates : Updates e s caller hash revision w s')
    (stays : revision.Stays hash) (live : s.find? (storageId caller.owner hash) = some row) :
    w.record.realStorageId = row.realStorageId := by
  have nowhere := stays.moveTo?_eq_none
  cases updates with
  | renamed _ found =>
      cases Option.some.inj (found.symm.trans live)
      exact Store.realStorageId_renamed
  | revised _ found _ own =>
      cases Option.some.inj (found.symm.trans live)
      exact (Store.realStorageId_own rfl).trans (Record.realStorageId_of_not_isLink own).symm
  | moved moves => exact nomatch moves.symm.trans nowhere

/-- An update that was answered has found a live record. -/
theorem Updates.found (updates : Updates e s caller hash revision w s') :
    ∃ row, s.find? (storageId caller.owner hash) = some row := by
  cases updates with
  | renamed _ found => exact ⟨_, found⟩
  | revised _ found => exact ⟨_, found⟩
  | moved _ ready => exact ⟨_, ready.live⟩

/-! ### What is awarded for reading -/

/-- An update in place awards reading unseen, and a move where the bytes are present. -/
theorem Updates.reads_iff (updates : Updates e s caller hash revision w s')
    (read : ∀ newText, revision.newHash = some newText →
      ∃ newHash, ContentHash.parse newText = .ok newHash) :
    w.readFrom = some id ↔ id = w.record.realStorageId ∧
      (revision.Stays hash ∨ e.holds w.record.realStorageId = true) := by
  cases updates with
  | renamed nowhere =>
      have stays := Revision.stays_of_moveTo? nowhere read
      simp only [Option.some.injEq, stays, true_or, and_true]
      exact eq_comm
  | revised nowhere found _ own =>
      have stays := Revision.stays_of_moveTo? nowhere read
      have named := (Store.find?_some found).2.1
      simp only [Option.some.injEq, stays, true_or, and_true]
      rw [Store.realStorageId_own rfl, ← named]
      exact eq_comm
  | @moved row newHash size moves ready =>
      have leaves : ¬revision.Stays hash := fun stays =>
        nomatch moves.symm.trans stays.moveTo?_eq_none
      dsimp only
      rw [Store.realStorageId_own rfl]
      change _ ↔ id = storageId caller.owner newHash ∧
        (_ ∨ e.holds (storageId caller.owner newHash) = true)
      simp only [leaves, false_or]
      cases e.holds (storageId caller.owner newHash) with
      | false => simp
      | true => simp [eq_comm]

/-- **An update in place offers to read what may not be there.** An answered update grants reading
where the backend has the bytes of the record that it answers with, and wherever it stays in place;
what it grants is those bytes. So a grant is there exactly for bytes that are there, unless the
update stays with content whose bytes are missing. -/
theorem update_reads_iff (parsed : ContentHash.parse text = .ok hash)
    (answered : (Operation.update caller text revision e ⟨s, n⟩).1 = .ok g) :
    (g.read.isSome ↔ revision.Stays hash ∨ e.holds g.record.realStorageId = true) ∧
      (∀ grant, g.read = some grant → grant.storageId = g.record.realStorageId) ∧
      ((g.read.isSome ↔ e.holds g.record.realStorageId = true) ↔
        ¬revision.Bare e s caller.owner hash) := by
  obtain ⟨-, read⟩ := Operation.parse_of_update answered
  obtain ⟨w, expiresAt, updates, rfl⟩ := Operation.update_awarded parsed answered
  have reads : (w.granted e caller expiresAt).read.isSome ↔
      revision.Stays hash ∨ e.holds w.record.realStorageId = true := by
    simp only [Award.granted, Option.isSome_map, Option.isSome_iff_exists, updates.reads_iff read]
    exact exists_eq_left
  refine ⟨reads, fun grant given => ?_, (iff_congr reads Iff.rfl).trans ?_⟩
  · exact ((updates.reads_iff read).mp (Award.readFrom_of_granted given)).1
  · change (revision.Stays hash ∨ e.holds w.record.realStorageId = true ↔
      e.holds w.record.realStorageId = true) ↔ ¬revision.Bare e s caller.owner hash
    by_cases stays : revision.Stays hash
    · obtain ⟨row, live⟩ := updates.found
      rw [updates.realStorageId_eq stays live]
      simp [Revision.Bare, stays, live]
    · simp [Revision.Bare, stays]

end Reading

/-- A move to content without bytes grants no reading. -/
theorem update_reads_iff_moving :
    let revision : Revision := ⟨.empty, some ContentHash.ones.hex⟩
    ∃ g, (Operation.update .ann ContentHash.zeros.hex revision (.calm .empty)
        ⟨.annAlone, 0⟩).1 = .ok g ∧
      (g.read.isSome ↔ (Surroundings.calm .empty).holds g.record.realStorageId = true) := by
  intro revision
  have parsed := ContentHash.zeros.parse_hex
  have ready : MoveReady (.calm .empty) .annAlone .ann .zeros .ones revision.metadata .annsZeros
      Record.annsZeros.size :=
    .annAlone rfl (by decide) (by decide)
  have answered := (Operation.yields_update_moved (fun _ _ => ⟨rfl, fun _ => rfl⟩) parsed rfl
    ContentHash.ones.parse_hex ready Surroundings.calm_tells_ones.1 rfl).result 0
  refine ⟨_, answered, (update_reads_iff parsed answered).2.2.mpr ?_⟩
  rintro ⟨stays, -⟩
  exact ready.other (Except.ok.inj (ContentHash.ones.parse_hex.symm.trans (stays _ rfl)))

/-- Renaming a record grants reading bytes that were never uploaded. -/
theorem not_update_reads_iff_held :
    ¬∀ (used : Set (String × ContentHash)) (s : Store) (e : Surroundings) (caller : Caller)
      (hash : ContentHash) (revision : Revision) (g : Granted), CollisionFree used →
      Reachable used s → (Action.update hash.hex revision).Within caller used →
      e.Faultless used hash →
      (Operation.update caller hash.hex revision e ⟨s, 0⟩).1 = .ok g →
      (g.read.isSome ↔ e.holds g.record.realStorageId = true) := by
  intro claim
  have parsed := ContentHash.zeros.parse_hex
  have live : Store.annAlone.find? (storageId Caller.ann.owner .zeros) = some .annsZeros :=
    Store.find?_put_self rfl
  have admits : (Surroundings.calm .empty).Admits .annAlone Caller.ann.owner
      [storageId Caller.ann.owner .zeros] Record.annsZeros.size :=
    Surroundings.calm_admits List.mem_cons_self (by decide) (by decide)
  let m : Metadata := ⟨some "new", none, none, none⟩
  have ran := Operation.update_run_in_place (n := 0) (m := m)
    Surroundings.faultless_calm.carries parsed live rfl rfl rfl admits rfl
  have reads := claim _ _ _ _ _ _ _ (collisionFree_singleton ("ann", .zeros))
    (Store.reachable_annAlone (Set.mem_singleton _))
    (Action.within_of_texts [.zeros] rfl (by simp [Caller.ann])) Surroundings.faultless_calm
    (congrArg Prod.fst ran)
  have held := reads.mp rfl
  dsimp only [Award.granted] at held
  rw [Store.realStorageId_own rfl] at held
  exact Bool.false_ne_true ((Surroundings.calm_tells "ann" (by decide)).2.symm.trans held)

end ContentStore
