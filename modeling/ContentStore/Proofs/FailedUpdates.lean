import ContentStore.Proofs.Reachable
import ContentStore.Proofs.Runs

/-!
# Updates that fail

An update is refused either before its first write, and then no row has changed, or in the middle
of a move. `MoveCommits` says, call by call, when a move gets as far as its first write; after it
come two more calls that can fail, turning the old row into garbage and looking for the bytes of
the new content. So a refused update changes rows exactly where a move has committed, and an
update that gets an answer moves as a whole.
-/

namespace ContentStore

/-- The calls from number `n` on take a move through every check and its first write. -/
structure MoveCommits (e : Surroundings) (s : Store) (n : Nat) (caller : Caller)
    (hash newHash : ContentHash) (m : Metadata) (row : Record) (size : Int) : Prop where
  ready : MoveReady e s caller hash newHash m row size
  lookup : e.Carries n (.lookup (storageId caller.owner hash))
  usage : e.Carries (n + 1) (.usage caller.owner)
  plan : e.Carries (n + 2) (.plan caller.owner)
  write : e.Carries (n + 3) (.write (storageId caller.owner newHash))

theorem MoveCommits.starts {e : Surroundings} {s : Store} {n : Nat} {caller : Caller}
    {hash newHash : ContentHash} {m : Metadata} {row : Record} {size : Int}
    (commits : MoveCommits e s n caller hash newHash m row size) :
    Operation.UpdateStarts e s n caller hash m row size :=
  ⟨commits.lookup, commits.ready.live, commits.ready.owned, commits.ready.sized⟩

/-- How a move ends that commits: the old row is garbage if its call is carried out, and if it is
not the move is refused. -/
def Store.AfterMove (s : Store) (e : Surroundings) (n : Nat) (row : Record) (d : Draft)
    (ends : Except Failure Granted × Progress) : Prop :=
  e.Carries n (.erase row.storageId) ∧
      ends.2.store = (s.put d e.now).markGarbage row.storageId e.now ∨
    ¬e.Carries n (.erase row.storageId) ∧ ends.2.store = s.put d e.now ∧
      ∃ r, ends.1 = .error (.refused r)

namespace Operation

variable (e : Surroundings) (s : Store) (n : Journal) (caller : Caller)

/-! ### A move and a change in place -/

/-- Where a move stops: after its first write, or before it. -/
theorem moveContent_left (row : Record) (newHash : ContentHash) (m : Metadata) (size : Int) :
    ((e.Carries n.calls (.usage caller.owner) ∧ e.Carries (n.calls + 1) (.plan caller.owner) ∧
          e.Admits s caller.owner [row.storageId, storageId caller.owner newHash] size ∧
          e.Carries (n.calls + 2) (.write (storageId caller.owner newHash))) ∧
        s.AfterMove e (n.calls + 3) row (row.moved caller.owner newHash m size)
          (moveContent caller row newHash m size e ⟨s, n⟩)) ∨
      (¬(e.Carries n.calls (.usage caller.owner) ∧ e.Carries (n.calls + 1) (.plan caller.owner) ∧
            e.Admits s caller.owner [row.storageId, storageId caller.owner newHash] size ∧
            e.Carries (n.calls + 2) (.write (storageId caller.owner newHash))) ∧
        (moveContent caller row newHash m size e ⟨s, n⟩).2.store = s) := by
  unfold moveContent Store.AfterMove
  rw [bind_run]
  rcases checkQuota_run e s n caller.owner
    [row.storageId, storageId caller.owner newHash] size with
    ⟨passes, ran⟩ | ⟨rejected, r, k, ran⟩
  · obtain ⟨asked, planned, admits⟩ := passes
    rw [ran]
    dsimp only
    rw [bind_run]
    rcases write_run e s (n.calling 2) (row.moved caller.owner newHash m size) with
      ⟨wrote, ran⟩ | ⟨hit, r, ran⟩
    · refine Or.inl ⟨⟨asked, planned, admits, wrote⟩, ?_⟩
      rw [ran]
      dsimp only
      rw [bind_run]
      generalize s.put (row.moved caller.owner newHash m size) e.now = first
      let j := (n.calling 2).calling 1
      rcases markGarbage_run e first j row.storageId with
        ⟨erased, ran⟩ | ⟨hit, r, ran⟩
      · refine Or.inl ⟨erased, ?_⟩
        rw [ran]
        dsimp only
        rw [bind_run]
        have probed := bytesPresent_left e (first.markGarbage row.storageId e.now) (j.calling 1)
          (storageId caller.owner newHash)
        cases found : bytesPresent (storageId caller.owner newHash) e
            ⟨first.markGarbage row.storageId e.now, j.calling 1⟩ with
        | mk result p =>
            rw [found] at probed
            cases result with
            | error f => exact probed
            | ok held =>
                dsimp only
                split
                · rw [(grantAccess_run _ _ _ _ _ p).1]
                  exact probed
                · rw [(grantAccess_run _ _ _ _ _ p).1]
                  exact probed
      · refine Or.inr ⟨hit, ?_⟩
        rw [ran]
        exact ⟨rfl, r, rfl⟩
    · exact Or.inr ⟨fun passes => hit passes.2.2.2, by rw [ran]⟩
  · refine Or.inr ⟨fun passes => rejected ⟨passes.1, passes.2.1, passes.2.2.1⟩, ?_⟩
    rw [ran]

/-- A change in place that is refused has not written. -/
theorem changeInPlace_left {hash : ContentHash} {row : Record} {m : Metadata} {size : Int}
    {r : Refusal}
    (refused : (changeInPlace caller hash row m size e ⟨s, n⟩).1 = .error (.refused r)) :
    (changeInPlace caller hash row m size e ⟨s, n⟩).2.store = s := by
  revert refused
  unfold changeInPlace
  split
  · rw [bind_run]
    rcases write_run e s n (row.renamed m) with ⟨-, ran⟩ | ⟨-, r', ran⟩
    · rw [ran]
      exact fun refused => absurd refused ((grantAccess_run _ _ _ _ _ _).2 r)
    · rw [ran]
      exact fun _ => rfl
  · rw [bind_run]
    rcases checkQuota_run e s n caller.owner [storageId caller.owner hash] size
      with ⟨-, ran⟩ | ⟨-, r', k, ran⟩
    · rw [ran]
      dsimp only
      rw [bind_run]
      rcases write_run e s (n.calling 2) (row.revised m size) with
        ⟨-, ran⟩ | ⟨-, r', ran⟩
      · rw [ran]
        exact fun refused => absurd refused ((grantAccess_run _ _ _ _ _ _).2 r)
      · rw [ran]
        exact fun _ => rfl
    · rw [ran]
      exact fun _ => rfl

/-- Where an update stops. A move that commits leaves one of two stores, and an update that does
not commit and is refused leaves the store that it found. -/
theorem updateTo_left (hash : ContentHash) (m : Metadata) (moves : Option ContentHash)
    (other : ∀ newHash, moves = some newHash → newHash ≠ hash) :
    (∃ newHash row size, moves = some newHash ∧
        MoveCommits e s n.calls caller hash newHash m row size ∧
        s.AfterMove e (n.calls + 4) row (row.moved caller.owner newHash m size)
          (updateTo caller hash m moves e ⟨s, n⟩)) ∨
      ((∀ newHash row size, moves = some newHash →
          ¬MoveCommits e s n.calls caller hash newHash m row size) ∧
        ∀ r, (updateTo caller hash m moves e ⟨s, n⟩).1 = .error (.refused r) →
          (updateTo caller hash m moves e ⟨s, n⟩).2.store = s) := by
  rcases updateTo_run moves with ⟨row, size, starts, ran⟩ | ⟨never, r, ran⟩
  · rw [ran]
    cases moves with
    | none =>
        refine Or.inr ⟨fun newHash row' size' moves => ?_, fun r refused => ?_⟩
        · cases moves
        · exact changeInPlace_left _ _ _ _ refused
    | some newHash =>
        dsimp only
        rcases moveContent_left e s (n.calling 1) caller row newHash m size with
          ⟨⟨usage, plan, admits, write⟩, left⟩ | ⟨stops, left⟩
        · have ready : MoveReady e s caller hash newHash m row size :=
            ⟨starts.live, starts.owned, other newHash rfl, starts.sized, admits⟩
          have commits : MoveCommits e s n.calls caller hash newHash m row size :=
            ⟨ready, starts.lookup, usage, plan, write⟩
          exact Or.inl ⟨newHash, row, size, rfl, commits, left⟩
        · refine Or.inr ⟨fun newHash' row' size' same commits => stops ?_, fun _ _ => left⟩
          cases same
          obtain ⟨rfl, rfl⟩ := starts.unique commits.starts
          exact ⟨commits.usage, commits.plan, commits.ready.admits, commits.write⟩
  · rw [ran]
    exact Or.inr ⟨fun _ _ _ _ commits => never _ _ commits.starts, fun _ _ => rfl⟩

/-- An update whose texts read as contents goes on as `updateTo`. -/
theorem update_run (text : String) (revision : Revision) (p : Progress) :
    (∃ hash, ContentHash.parse text = .ok hash ∧
        update caller text revision e p =
          updateTo caller hash revision.metadata (revision.moveTo? hash) e p) ∨
      ((∀ hash newHash, ContentHash.parse text = .ok hash →
          revision.moveTo? hash ≠ some newHash) ∧
        (update caller text revision e p).2 = p) := by
  rw [update_eq, bind_run]
  cases required : ContentHash.require text with
  | error r =>
      refine Or.inr ⟨fun hash newHash parsed => ?_, rfl⟩
      rw [← ContentHash.require_eq_ok_iff, required] at parsed
      cases parsed
  | ok hash =>
      have parsed := ContentHash.require_eq_ok_iff.mp required
      cases given : revision.newHash with
      | none => exact Or.inl ⟨hash, parsed, by rw [Revision.moveTo?_of_none given]; rfl⟩
      | some newText =>
          cases newRequired : ContentHash.require newText with
          | ok newHash =>
              have newParsed := ContentHash.require_eq_ok_iff.mp newRequired
              refine Or.inl ⟨hash, parsed, ?_⟩
              rw [Revision.moveTo?_of_some given newParsed]
              dsimp only
              rw [newRequired]
              rfl
          | error r =>
              refine Or.inr ⟨fun hash newHash _ moves => ?_, ?_⟩
              · obtain ⟨text, given', newParsed⟩ := Revision.text_of_moveTo? moves
                rw [given, Option.some.injEq] at given'
                rw [← given', ← ContentHash.require_eq_ok_iff, newRequired] at newParsed
                cases newParsed
              · dsimp only
                rw [newRequired]
                rfl

end Operation

/-- **Updates are all or nothing, but for moves that fail after they commit.** A refused update
leaves every row as it was, except exactly where its move commits and the change shows: the old
row became garbage before the bytes of the new content could not be looked for, or it did not and
the write of the new row made a difference. An update that gets an answer has moved both rows. -/
theorem update_all_or_nothing_iff (e : Surroundings) (s : Store) (n : Journal) (caller : Caller)
    (text : String) (revision : Revision) :
    (∀ r, (Operation.update caller text revision e ⟨s, n⟩).1 = .error (.refused r) →
      ((Operation.update caller text revision e ⟨s, n⟩).2.store.rows = s.rows ↔
        ¬∃ hash newHash row size, ContentHash.parse text = .ok hash ∧
          revision.moveTo? hash = some newHash ∧
          MoveCommits e s n.calls caller hash newHash revision.metadata row size ∧
          (e.Carries (n.calls + 4) (.erase row.storageId) ∨
            (s.put (row.moved caller.owner newHash revision.metadata size) e.now).rows ≠
              s.rows))) ∧
    ∀ hash newHash g, ContentHash.parse text = .ok hash → revision.moveTo? hash = some newHash →
      CollisionFree {(caller.owner, hash), (caller.owner, newHash)} →
      (Operation.update caller text revision e ⟨s, n⟩).1 = .ok g →
        let left := (Operation.update caller text revision e ⟨s, n⟩).2.store
        left.find? (storageId caller.owner newHash) = some g.record ∧
          left.find? (storageId caller.owner hash) = none ∧
          ∃ r ∈ left.rows, r.storageId = storageId caller.owner hash ∧ r.garbage = true := by
  constructor
  · intro r refused
    rcases Operation.update_run e caller text revision ⟨s, n⟩ with
      ⟨hash, parsed, goesOn⟩ | ⟨never, left⟩
    · rw [goesOn] at refused ⊢
      rcases Operation.updateTo_left e s n caller hash revision.metadata
        (revision.moveTo? hash)
        (fun newHash moves => by simpa using (Option.filter_eq_some_iff.mp moves).2) with
        ⟨newHash, row, size, moves, commits, ends⟩ | ⟨never, left⟩
      · rcases ends with ⟨erased, left⟩ | ⟨hit, left, -⟩
        · rw [left]
          refine iff_of_false (Store.rows_markGarbage_put_ne commits.ready.live) fun never => ?_
          exact never ⟨hash, newHash, row, size, parsed, moves, commits, Or.inl erased⟩
        · rw [left]
          constructor
          · rintro same ⟨hash', newHash', row', size', parsed', moves', commits', shows⟩
            cases Except.ok.inj (parsed'.symm.trans parsed)
            cases Option.some.inj (moves'.symm.trans moves)
            obtain ⟨rfl, rfl⟩ := commits.starts.unique commits'.starts
            exact shows.elim hit fun differs => differs same
          · intro never
            by_contra differs
            exact never ⟨hash, newHash, row, size, parsed, moves, commits, Or.inr differs⟩
      · refine iff_of_true (by rw [left r refused]) ?_
        rintro ⟨hash', newHash', row', size', parsed', moves', commits', -⟩
        cases Except.ok.inj (parsed'.symm.trans parsed)
        exact never newHash' row' size' moves' commits'
    · refine iff_of_true (by rw [left]) ?_
      rintro ⟨hash', newHash', row', size', parsed', moves', -, -⟩
      exact never hash' newHash' parsed' moves'
  · intro hash newHash g parsed moves free answered
    have ends : (Operation.update caller text revision).Ensures e s
        (fun g s' => s'.find? (storageId caller.owner newHash) = some g.record ∧
          s'.find? (storageId caller.owner hash) = none ∧
          ∃ r ∈ s'.rows, r.storageId = storageId caller.owner hash ∧ r.garbage = true)
        fun _ _ => True := by
      refine Operation.ensures_update (fun hash' w s' parsed' updates => ?_)
        (fun _ _ _ _ _ => trivial) fun _ => trivial
      cases Except.ok.inj (parsed'.symm.trans parsed)
      refine Operation.ensures_award (fun _ _ => ?_) fun _ => trivial
      cases updates with
      | renamed stays => exact nomatch stays.symm.trans moves
      | revised stays => exact nomatch stays.symm.trans moves
      | moved moves' ready =>
          cases Option.some.inj (moves'.symm.trans moves)
          exact ready.moved free (Set.mem_insert _ _) (Set.mem_insert_of_mem _ rfl)
    exact ends.answered answered

/-- The hash of ones. -/
def ContentHash.ones : ContentHash :=
  ⟨List.replicate 32 1, List.length_replicate⟩

set_option maxRecDepth 10000 in
/-- One owner has different keys for the hash of zeros and the hash of ones. -/
theorem collisionFree_zeros_ones :
    CollisionFree {("ann", ContentHash.zeros), ("ann", .ones)} :=
  collisionFree_pair (by decide +kernel)

/-- Surroundings in which no row can be turned into garbage. -/
def Surroundings.clinging : Surroundings :=
  { Surroundings.calm .empty with
    outage := fun _ c =>
      match c with
      | .erase _ => some .late
      | _ => none }

theorem update_all_or_nothing_iff_clinging :
    let s := Store.empty.put (ownDraft "ann" .zeros .empty 40) ⟨0, 0⟩
    let m : Metadata := ⟨none, none, some 50, none⟩
    (Operation.update .ann ContentHash.zeros.hex ⟨m, some ContentHash.ones.hex⟩ .clinging
      ⟨s, 0⟩).2.store.rows ≠ s.rows := by
  intro s m
  let row := (ownDraft "ann" .zeros .empty 40).fresh (Uuid.numbered 0) ⟨0, 0⟩
  have parsed := ContentHash.zeros.parse_hex
  have moves : (Revision.mk m (some ContentHash.ones.hex)).moveTo? .zeros = some .ones := by
    rw [Revision.moveTo?_of_some rfl ContentHash.ones.parse_hex]
    rfl
  have commits : MoveCommits .clinging s 0 .ann .zeros .ones m row 50 := by
    refine ⟨⟨?_, rfl, by decide, rfl, 0, ?_, by decide⟩, ?_, ?_, ?_, ?_⟩
    · exact Store.find?_put.trans (if_pos rfl)
    · have written : s.rows = [row] := rfl
      simp [Store.usage?, Store.counted, written, Store.sumInt64]
    all_goals exact ⟨rfl, fun _ => rfl⟩
  have hit : ¬Surroundings.clinging.Carries 4 (.erase row.storageId) :=
    fun carries => nomatch carries.1
  -- The row written over or beside the old one is of another size.
  have shows : (s.put (row.moved "ann" .ones m 50) ⟨0, 0⟩).rows ≠ s.rows := by
    intro same
    have mem : s.written (row.moved "ann" .ones m 50) ⟨0, 0⟩ ∈
        (s.put (row.moved "ann" .ones m 50) ⟨0, 0⟩).rows :=
      Store.mem_put_iff.mpr (Or.inl rfl)
    rw [same] at mem
    have size := congrArg Record.size (List.mem_singleton.mp mem)
    rw [Store.size_written] at size
    cases size
  obtain ⟨r, refused⟩ : ∃ r, (Operation.update .ann ContentHash.zeros.hex
      ⟨m, some ContentHash.ones.hex⟩ .clinging ⟨s, 0⟩).1 = .error (.refused r) := by
    rcases Operation.update_run .clinging .ann ContentHash.zeros.hex
      ⟨m, some ContentHash.ones.hex⟩ ⟨s, 0⟩ with ⟨hash, parsed', goesOn⟩ | ⟨never, -⟩
    · cases Except.ok.inj (parsed'.symm.trans parsed)
      rw [goesOn, moves]
      rcases Operation.updateTo_left .clinging s 0 .ann .zeros m (some .ones)
        (fun newHash same => Option.some.inj same ▸ commits.ready.other) with
        ⟨newHash, row', size, same, commits', ends⟩ | ⟨never, -⟩
      · cases same
        obtain ⟨rfl, rfl⟩ := commits.starts.unique commits'.starts
        exact ends.elim (fun erased => absurd erased.1 hit) fun stops => stops.2.2
      · exact absurd commits (never _ _ _ rfl)
    · exact absurd moves (never _ _ parsed)
  have exact_when := (update_all_or_nothing_iff .clinging s 0 .ann ContentHash.zeros.hex
    ⟨m, some ContentHash.ones.hex⟩).1 r refused
  exact fun same => exact_when.mp same ⟨_, _, _, _, parsed, moves, commits, Or.inr shows⟩

/-- Surroundings in which looking for bytes takes too long. -/
def Surroundings.blind : Surroundings :=
  { Surroundings.calm .empty with
    outage := fun _ c =>
      match c with
      | .probe _ => some .late
      | _ => none }

set_option maxRecDepth 10000 in
/-- A move whose probe takes too long is refused and has changed the rows all the same. -/
theorem not_update_all_or_nothing :
    ¬∀ (used : Set (String × ContentHash)) (s : Store) (e : Surroundings) (caller : Caller)
      (text : String) (revision : Revision) (r : Refusal), CollisionFree used →
      Reachable used s → (Action.update text revision).Within caller used →
      (Operation.update caller text revision e ⟨s, 0⟩).1 = .error (.refused r) →
      (Operation.update caller text revision e ⟨s, 0⟩).2.store.rows = s.rows := by
  intro claim
  let used : Set (String × ContentHash) := {("ann", .zeros), ("ann", .ones)}
  let s := (Action.register ContentHash.zeros.hex ⟨none, none, some 40, none⟩ false).after .ann
    (.calm .empty) .empty
  have reachable : Reachable used s :=
    .act .empty trivial (Action.within_of_texts [.zeros] rfl (by simp [Caller.ann, used]))
  have within : (Action.update ContentHash.zeros.hex ⟨.empty, some ContentHash.ones.hex⟩).Within
      .ann used := Action.within_of_texts [.zeros, .ones] rfl (by simp [Caller.ann, used])
  have ends : (Operation.update .ann ContentHash.zeros.hex ⟨.empty, some ContentHash.ones.hex⟩
        .blind ⟨s, 0⟩).1 = .error (.refused (.timedOut "storage backend probe")) ∧
      (Operation.update .ann ContentHash.zeros.hex ⟨.empty, some ContentHash.ones.hex⟩
        .blind ⟨s, 0⟩).2.store.rows ≠ s.rows := by
    decide +kernel
  exact ends.2 (claim used s .blind .ann _ _ _ collisionFree_zeros_ones reachable within ends.1)

end ContentStore
