import ContentStore.Proofs.Identity
import ContentStore.Proofs.Precedence
import ContentStore.Proofs.Spelling

/-!
# What an update changes

An answered update changes one row, or two if it moves a record to other content, and of these only
what it is meant to change (`Revision.Changes`). A record that owns its bytes gets the metadata
given and keeps what is not given; a link gets a new name and nothing else, since its size and type
are those of the bytes; a move leaves the old row behind as garbage, as it was, and writes the row
of the other content, with its identity if there was one. The total of the owner changes by the
sizes of these rows (`Store.Moved.total`).

The same content in another spelling is no other content (`Revision.stays_of_toLower`).
-/

namespace ContentStore

/-! ### The specification -/

/-- What a caller says about some content, as a record has it. -/
structure Particulars where
  objectName : String
  size : Int
  mimeType : String
  deriving DecidableEq, Repr

/-- What the record has of what callers say. -/
def Record.particulars (r : Record) : Particulars :=
  ⟨r.objectName, r.size, r.mimeType⟩

/-- A record is what identifies it, what callers say about it, and the state that it is in. -/
theorem Record.eq_of_parts {r r' : Record} (identity : r.identity = r'.identity)
    (particulars : r.particulars = r'.particulars) (linked : r.linkedObject = r'.linkedObject)
    (garbage : r.garbage = r'.garbage) (written : r.updatedAt = r'.updatedAt) : r = r' := by
  cases r
  cases r'
  cases identity
  cases particulars
  cases linked
  cases garbage
  cases written
  rfl

/-- The metadata makes `new` of `old`: what is given is new and the rest is kept. The size is kept
only if neither form of it is given. -/
structure Metadata.Revises (m : Metadata) (old new : Particulars) : Prop where
  name : new.objectName = m.objectName.getD old.objectName
  mimeType : new.mimeType = m.mimeType.getD old.mimeType
  kept : m.sizeText = none → m.sizeNumber = none → new.size = old.size
  given : m.sizeText.isSome ∨ m.sizeNumber.isSome → m.size = .ok new.size

/-- The revision names no content, or the one that the record has. -/
def Revision.Stays (revision : Revision) (hash : ContentHash) : Prop :=
  ∀ text, revision.newHash = some text → ContentHash.parse text = .ok hash

/-- The revision names another content. -/
def Revision.Moves (revision : Revision) (hash newHash : ContentHash) : Prop :=
  newHash ≠ hash ∧ ∃ text, revision.newHash = some text ∧ ContentHash.parse text = .ok newHash

/-- The live row of the key is now `new`, and everything else is as it was. -/
structure Store.Rewritten (s s' : Store) (key : String) (new : Record) : Prop where
  live : s'.find? key = some new
  others : s.DifferAt s' key
  plans : s'.plans = s.plans

/-- The owner's record is moved to other content: `old` is garbage now and `new` is live, and
everything else is as it was. -/
structure Store.Moved (s s' : Store) (now : Time.Instant) (owner : String)
    (hash newHash : ContentHash) (m : Metadata) (old new : Record) : Prop where
  left : s'.row? (storageId owner hash) = some { old with garbage := true, updatedAt := now }
  live : s'.find? (storageId owner newHash) = some new
  owned : new.owner = owner
  content : new.sha256 = newHash.hex
  own : new.linkedObject = ""
  revises : m.Revises old.particulars new.particulars
  written : new.updatedAt = now
  /-- A row that was there before, garbage or not, keeps its identifier and its time of creation. -/
  identity : ∀ before, s.row? (storageId owner newHash) = some before →
    new.identity = before.identity
  total : s'.total owner [] = s.total owner [] + new.size - old.size -
    ((s.find? (storageId owner newHash)).map (·.size)).getD 0
  others : ∀ r, r.storageId ≠ storageId owner hash → r.storageId ≠ storageId owner newHash →
    (r ∈ s'.rows ↔ r ∈ s.rows)
  plans : s'.plans = s.plans

/-- What an answered update of the owner's record has changed; `new` is the row that it wrote. -/
inductive Revision.Changes (revision : Revision) (s s' : Store) (now : Time.Instant)
    (owner : String) (hash : ContentHash) (new : Record) : Prop where
  /-- A record that owns its bytes. -/
  | own {old : Record} :
      revision.Stays hash → s.find? (storageId owner hash) = some old → old.isLink = false →
      new = { old with
        objectName := new.objectName, size := new.size, mimeType := new.mimeType,
        updatedAt := now } →
      revision.metadata.Revises old.particulars new.particulars →
      s.Rewritten s' (storageId owner hash) new → revision.Changes s s' now owner hash new
  | link {old : Record} :
      revision.Stays hash → s.find? (storageId owner hash) = some old → old.isLink = true →
      new = { old with
        objectName := revision.metadata.objectName.getD old.objectName, updatedAt := now } →
      s.Rewritten s' (storageId owner hash) new → revision.Changes s s' now owner hash new
  | moved {old : Record} {newHash : ContentHash} :
      revision.Moves hash newHash → s.find? (storageId owner hash) = some old →
      s.Moved s' now owner hash newHash revision.metadata old new →
      revision.Changes s s' now owner hash new

section Updating

variable {used : Set (String × ContentHash)} {e : Surroundings} {s s' : Store} {caller : Caller}
  {owner text newText : String} {hash newHash : ContentHash} {revision : Revision} {m : Metadata}
  {row : Record} {size : Int} {w : Award} {g : Granted} {d : Draft} {now : Time.Instant}
  {n : Journal}

/-! ### Which content a revision names -/

theorem Revision.Stays.moveTo?_eq_none (stays : revision.Stays hash) :
    revision.moveTo? hash = none := by
  cases given : revision.newHash with
  | none => exact Revision.moveTo?_of_none given
  | some newText =>
      rw [Revision.moveTo?_of_some given (stays newText given)]
      simp

theorem Revision.Moves.moveTo?_eq_some (moves : revision.Moves hash newHash) :
    revision.moveTo? hash = some newHash := by
  obtain ⟨other, newText, given, parsed⟩ := moves
  rw [Revision.moveTo?_of_some given parsed]
  simp [other]

theorem Revision.moves_of_moveTo? (moves : revision.moveTo? hash = some newHash) :
    revision.Moves hash newHash := by
  have other : newHash ≠ hash := by simpa using (Option.filter_eq_some_iff.mp moves).2
  exact ⟨other, Revision.text_of_moveTo? moves⟩

/-- A revision that could be read and moves nowhere stays. -/
theorem Revision.stays_of_moveTo? (nowhere : revision.moveTo? hash = none)
    (read : ∀ newText, revision.newHash = some newText →
      ∃ newHash, ContentHash.parse newText = .ok newHash) : revision.Stays hash := by
  intro newText given
  obtain ⟨newHash, parsed⟩ := read newText given
  rw [Revision.moveTo?_of_some given parsed] at nowhere
  have same : newHash = hash := by simpa using nowhere
  rw [parsed, same]

/-- The same text but for the case of its letters names the same content. -/
theorem Revision.stays_of_toLower (parsed : ContentHash.parse text = .ok hash)
    (given : revision.newHash = some newText) (same : newText.toLower = text.toLower) :
    revision.Stays hash := by
  intro newText' given'
  cases Option.some.inj (given'.symm.trans given)
  exact ContentHash.parse_of_toLower parsed same

/-! ### Metadata -/

theorem Metadata.revises_of_sizeFor (sized : m.sizeFor row = .ok size) :
    m.Revises row.particulars
      ⟨m.objectName.getD row.objectName, size, m.mimeType.getD row.mimeType⟩ := by
  refine ⟨rfl, rfl, fun noText noNumber => ?_, fun gives => ?_⟩
  · have silent : m.givesSize = false := by simp [givesSize, noText, noNumber]
    rw [sizeFor, silent] at sized
    exact (Except.ok.inj sized).symm
  · have speaks : m.givesSize = true := by simpa [givesSize] using gives
    rwa [sizeFor, if_pos speaks] at sized

/-- Metadata that says nothing changes nothing. -/
theorem Metadata.Revises.eq_of_empty {old new : Particulars}
    (revises : Metadata.empty.Revises old new) : new = old := by
  obtain ⟨name, mimeType, kept, -⟩ := revises
  cases new
  cases old
  cases name
  cases mimeType
  cases kept rfl rfl
  rfl

/-! ### What is written -/

theorem Store.particulars_written :
    (s.written d now).particulars = ⟨d.objectName, d.size, d.mimeType⟩ := by
  rw [Record.particulars, objectName_written, size_written, mimeType_written]

theorem Store.rewritten_put (hasKey : d.storageId = storageId owner hash) :
    s.Rewritten (s.put d now) (storageId owner hash) (s.written d now) := by
  refine ⟨find?_put_self hasKey, ?_, rfl⟩
  rw [← hasKey]
  exact differAt_put

/-- An owner's total is that without some key of the owner's and what is live under that key. -/
theorem Store.WellFormed.total_eq_add (wellFormed : s.WellFormed used) (free : CollisionFree used)
    (mem : (owner, hash) ∈ used) {excluding : List String}
    (counts : storageId owner hash ∉ excluding) :
    s.total owner excluding = s.total owner (storageId owner hash :: excluding) +
      ((s.find? (storageId owner hash)).map (·.size)).getD 0 := by
  cases found : s.find? (storageId owner hash) with
  | none => rw [total_of_absent found, Option.map_none, Option.getD_none, add_zero]
  | some row =>
      obtain ⟨old, hasKey, -⟩ := find?_some found
      have owned := (wellFormed.of_key free mem old hasKey).1
      exact wellFormed.distinct.total_of_find? found owned counts

/-- A move replaces what the old row and the row of the new content count by what the new row
does. -/
theorem MoveReady.total_moved (ready : MoveReady e s caller hash newHash m row size)
    (wellFormed : s.WellFormed used) (free : CollisionFree used)
    (mem : (caller.owner, hash) ∈ used) (newMem : (caller.owner, newHash) ∈ used) :
    ((s.put (row.moved caller.owner newHash m size) now).markGarbage row.storageId now).total
        caller.owner [] =
      s.total caller.owner [] + size - row.size -
        ((s.find? (storageId caller.owner newHash)).map (·.size)).getD 0 := by
  obtain ⟨-, hasKey, -⟩ := Store.find?_some ready.live
  have apart : storageId caller.owner newHash ∉ [row.storageId] := by
    rw [hasKey, List.mem_singleton]
    exact fun same => ready.other (free.storageId_inj newMem mem same).2
  have before : s.total caller.owner [] = s.total caller.owner [row.storageId] + row.size := by
    rw [wellFormed.total_eq_add free mem List.not_mem_nil, ready.live, hasKey]
    rfl
  have replaced := wellFormed.total_eq_add free newMem apart
  have after : (s.put (row.moved caller.owner newHash m size) now).total caller.owner
      [row.storageId] = s.total caller.owner [storageId caller.owner newHash, row.storageId] +
        size :=
    wellFormed.total_put free newMem (ready.isFor wellFormed) apart
  rw [Store.total_markGarbage, after]
  omega

theorem MoveReady.wellFormed (ready : MoveReady e s caller hash newHash m row size)
    (wellFormed : s.WellFormed used) (newMem : (caller.owner, newHash) ∈ used) :
    ((s.put (row.moved caller.owner newHash m size) now).markGarbage row.storageId now).WellFormed
      used :=
  (wellFormed.put newMem (ready.isFor wellFormed)).markGarbage

/-- Both rows of a move end as they should. -/
theorem MoveReady.store_moved (ready : MoveReady e s caller hash newHash m row size)
    (wellFormed : s.WellFormed used) (free : CollisionFree used)
    (mem : (caller.owner, hash) ∈ used) (newMem : (caller.owner, newHash) ∈ used) :
    let d := row.moved caller.owner newHash m size
    s.Moved ((s.put d e.now).markGarbage row.storageId e.now) e.now caller.owner hash newHash m row
      (s.written d e.now) := by
  intro d
  obtain ⟨old, hasKey, live⟩ := Store.find?_some ready.live
  have apart : storageId caller.owner hash ≠ storageId caller.owner newHash := fun same =>
    ready.other (free.storageId_inj mem newMem same).2.symm
  have after : (s.put d e.now).WellFormed used :=
    wellFormed.put newMem (ready.isFor wellFormed)
  have stands : s.written d e.now ∈ (s.put d e.now).rows := Store.mem_put_iff.mpr (.inl rfl)
  obtain ⟨owned, content⟩ := after.of_key free newMem stands (Store.storageId_written _ _ _)
  constructor
  · have kept : (s.put d e.now).find? (storageId caller.owner hash) = some row :=
      Store.find?_put.trans ((if_neg apart).trans ready.live)
    rw [← hasKey] at kept ⊢
    exact after.distinct.row?_markGarbage kept e.now
  · exact (ready.moved free mem newMem).1
  · exact owned
  · exact content
  · exact Store.linkedObject_written
  · rw [Store.particulars_written]
    exact Metadata.revises_of_sizeFor ready.sized
  · exact Store.updatedAt_written
  · intro before found
    obtain ⟨mem', hasKey'⟩ := Store.row?_some found
    exact wellFormed.distinct.identity_written mem' hasKey'
  · rw [Store.size_written]
    exact ready.total_moved wellFormed free mem newMem
  · intro r notOld notNew
    have notRow : r.storageId ≠ row.storageId := by
      rw [hasKey]
      exact notOld
    exact (Store.differAt_markGarbage r notRow).trans (Store.differAt_put r notNew)
  · rfl

/-- An update that moves has made a move that was ready. -/
theorem Updates.ready_of_moves (updates : Updates e s caller hash revision w s')
    (moves : revision.Moves hash newHash) :
    ∃ row size, MoveReady e s caller hash newHash revision.metadata row size ∧
      s' = (s.put (row.moved caller.owner newHash revision.metadata size) e.now).markGarbage
        row.storageId e.now := by
  have moves := moves.moveTo?_eq_some
  cases updates with
  | renamed stays => exact nomatch stays.symm.trans moves
  | revised stays => exact nomatch stays.symm.trans moves
  | moved moves' ready =>
      cases Option.some.inj (moves'.symm.trans moves)
      exact ⟨_, _, ready, rfl⟩

/-- Whatever an update comes to, it has changed what it should. -/
theorem Updates.changes (updates : Updates e s caller hash revision w s')
    (read : ∀ newText, revision.newHash = some newText →
      ∃ newHash, ContentHash.parse newText = .ok newHash)
    (wellFormed : s.WellFormed used) (free : CollisionFree used)
    (mem : (caller.owner, hash) ∈ used)
    (newMem : ∀ newHash, revision.moveTo? hash = some newHash → (caller.owner, newHash) ∈ used) :
    revision.Changes s s' e.now caller.owner hash w.record := by
  cases updates with
  | @renamed row nowhere found owned isLink =>
      obtain ⟨-, hasKey, live⟩ := Store.find?_some found
      have atRow : s.find? row.storageId = some row := by rw [hasKey, found]
      have stays := Revision.stays_of_moveTo? nowhere read
      have new : s.written (row.renamed revision.metadata) e.now =
          (row.renamed revision.metadata).over row e.now :=
        wellFormed.distinct.written_of_find? atRow
      refine .link stays found isLink ?_ (Store.rewritten_put hasKey)
      dsimp only
      rw [new, Draft.over, ← live]
      rfl
  | @revised row size nowhere found owned own sized admits =>
      obtain ⟨-, hasKey, live⟩ := Store.find?_some found
      have atRow : s.find? row.storageId = some row := by rw [hasKey, found]
      have stays := Revision.stays_of_moveTo? nowhere read
      have unlinked := Record.isLink_eq_false_iff.mp own
      have new : s.written (row.revised revision.metadata size) e.now =
          (row.revised revision.metadata size).over row e.now :=
        wellFormed.distinct.written_of_find? atRow
      refine .own stays found own ?_ ?_ (Store.rewritten_put hasKey)
      · dsimp only
        rw [new, Draft.over, ← live]
        dsimp only [Record.revised]
        rw [← unlinked]
      · dsimp only
        rw [Store.particulars_written]
        exact Metadata.revises_of_sizeFor sized
  | moved moves ready =>
      exact .moved (Revision.moves_of_moveTo? moves) ready.live
        (ready.store_moved wellFormed free mem (newMem _ moves))

/-- **An update has exactly its stated effect.** In a reachable store, with whatever outages, an
answered update has written the one row that it answers with, and has turned the old row into
garbage if it moved the record to other content; `Revision.Changes` says what these rows have kept
and what is new, and how the owner's total has changed. Naming the same content with letters of
another case is not a move. -/
theorem update_changes (free : CollisionFree used) (reachable : Reachable used s)
    (within : (Action.update text revision).Within caller used)
    (answered : (Operation.update caller text revision e ⟨s, n⟩).1 = .ok g) :
    ∃ hash, ContentHash.parse text = .ok hash ∧
      revision.Changes s (Operation.update caller text revision e ⟨s, n⟩).2.store e.now
        caller.owner hash g.record ∧
      ∀ newText, revision.newHash = some newText → newText.toLower = text.toLower →
        revision.Stays hash := by
  have wellFormed := reachable.wellFormed free
  obtain ⟨⟨hash, parsed⟩, read⟩ := Operation.parse_of_update answered
  obtain ⟨w, expiresAt, updates, rfl⟩ := Operation.update_awarded parsed answered
  refine ⟨hash, parsed, ?_, fun newText given same => ?_⟩
  · refine updates.changes read wellFormed free (within hash (.first rfl parsed)) ?_
    exact fun newHash moves => within newHash (names_of_moveTo? parsed moves).2
  · exact Revision.stays_of_toLower parsed given same

end Updating

/-! ### A small world -/

set_option maxRecDepth 10000 in
/-- The backend tells that there are no bytes for the hash of ones either. -/
theorem Surroundings.calm_tells_ones :
    (calm .empty).Tells (storageId "ann" .ones) ∧
      (calm .empty).holds (storageId "ann" .ones) = false :=
  tells_of_told (by decide +kernel)

/-- Ann may replace her one record by one of up to a hundred bytes. -/
theorem Surroundings.calm_admits {excluding : List String} {size : Int}
    (excluded : Record.annsZeros.storageId ∈ excluding) (low : 0 ≤ size) (high : size ≤ 100) :
    (calm .empty).Admits .annAlone Caller.ann.owner excluding size := by
  refine ⟨0, ?_, ?_⟩
  · simp [Store.usage?, Store.counted, Store.rows_annAlone, Store.sumInt64, excluded]
  · have quota : (calm .empty).quotaOf .annAlone Caller.ann.owner = 100 := rfl
    have top : Text.maxInt64 = 9223372036854775807 := rfl
    have bottom : Text.minInt64 = -9223372036854775808 := rfl
    rw [quota, saturatingAdd]
    omega

/-- Ann's one record can be moved to the hash of ones. -/
theorem MoveReady.annAlone {m : Metadata} {size : Int} (sized : m.sizeFor .annsZeros = .ok size)
    (low : 0 ≤ size) (high : size ≤ 100) :
    MoveReady (.calm .empty) .annAlone .ann .zeros .ones m .annsZeros size :=
  ⟨Store.find?_put_self rfl, rfl, by decide, sized,
    Surroundings.calm_admits List.mem_cons_self low high⟩

theorem update_changes_moving :
    let revision : Revision := ⟨⟨some "new", none, some 7, none⟩, some ContentHash.ones.hex⟩
    ∃ g, (Operation.update .ann ContentHash.zeros.hex revision (.calm .empty)
        ⟨.annAlone, 0⟩).1 = .ok g ∧
      revision.Changes .annAlone (Operation.update .ann ContentHash.zeros.hex revision
        (.calm .empty) ⟨.annAlone, 0⟩).2.store ⟨0, 0⟩ Caller.ann.owner .zeros g.record := by
  intro revision
  have parsed := ContentHash.zeros.parse_hex
  have ready : MoveReady (.calm .empty) .annAlone .ann .zeros .ones revision.metadata
      .annsZeros 7 :=
    .annAlone rfl (by decide) (by decide)
  have answered := (Operation.yields_update_moved (fun _ _ => ⟨rfl, fun _ => rfl⟩) parsed rfl
    ContentHash.ones.parse_hex ready Surroundings.calm_tells_ones.1 rfl).result 0
  obtain ⟨hash, parsed', changes, -⟩ := update_changes collisionFree_zeros_ones
    (Store.reachable_annAlone (by simp))
    (Action.within_of_texts [.zeros, .ones] rfl (by simp [Caller.ann])) answered
  cases Except.ok.inj (parsed'.symm.trans parsed)
  exact ⟨_, answered, changes⟩

end ContentStore
