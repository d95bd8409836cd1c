import ContentStore.Proofs.Grants

/-!
# What grants for writing open

Nobody can write another owner's bytes. An award, however it is come to, is for the live row of the
caller's own content (`Action.Awards.live`), and a grant for writing is only given out where the row
of the award is the caller's and owns its bytes. So it opens the key of the caller and of the
content that stands in the row (`Grant.OpensOwn`), and never the key of a link or of anybody else.
-/

namespace ContentStore

/-- One of the two grants that come with a record. -/
def Granted.Gives (g : Granted) (grant : Grant) : Prop :=
  g.read = some grant ∨ g.write = some grant

/-- The grant is the owner's, and opens the bytes of the record: a live one, in the store, of this
owner, with bytes of its own, under the key of this owner and its content. No link and no other
owner has that key. -/
structure Grant.OpensOwn (grant : Grant) (used : Set (String × ContentHash)) (record : Record)
    (s : Store) (owner : String) : Prop where
  named : grant.storageId = record.storageId
  subject : grant.claims.subject = owner
  stands : record ∈ s.rows
  live : record.garbage = false
  own : record.linkedObject = ""
  owned : record.owner = owner
  keyed : ∃ hash, ContentHash.parse record.sha256 = .ok hash ∧
    record.storageId = ContentStore.storageId owner hash
  no_link : ∀ r ∈ s.rows, r.isLink = true → r.storageId ≠ grant.storageId
  no_other : ∀ other hash, (other, hash) ∈ used →
    ContentStore.storageId other hash = grant.storageId → other = owner

section Uploads

variable {used : Set (String × ContentHash)} {e : Surroundings} {s s' : Store} {caller : Caller}
  {hash : ContentHash} {w : Award} {grant : Grant}

/-! ### Awards -/

/-- An update is awarded the row that it leaves behind for the content it names last. -/
theorem Updates.live {text : String} {revision : Revision}
    (updates : Updates e s caller hash revision w s') (parsed : ContentHash.parse text = .ok hash)
    (free : CollisionFree used) (within : (Action.update text revision).Within caller used) :
    ∃ content, (caller.owner, content) ∈ used ∧
      s'.find? (storageId caller.owner content) = some w.record := by
  have mem := within hash (.first rfl parsed)
  cases updates with
  | renamed _ found =>
      obtain ⟨-, hasKey, -⟩ := Store.find?_some found
      exact ⟨hash, mem, Store.find?_put_self hasKey⟩
  | revised _ found =>
      obtain ⟨-, hasKey, -⟩ := Store.find?_some found
      exact ⟨hash, mem, Store.find?_put_self hasKey⟩
  | @moved row newHash size moves ready =>
      have newMem := within newHash (names_of_moveTo? parsed moves).2
      exact ⟨newHash, newMem, (ready.moved free mem newMem).1⟩

/-- Every award is for the live row of some content of the caller's. -/
theorem Action.Awards.live {a : Action} (awards : a.Awards e s caller w s')
    (wellFormed : s.WellFormed used) (free : CollisionFree used) (within : a.Within caller used) :
    ∃ content, (caller.owner, content) ∈ used ∧
      s'.find? (storageId caller.owner content) = some w.record := by
  cases awards with
  | @registered text m autoLink created hash _ _ parsed registers =>
      have mem := within hash (.first rfl parsed)
      exact ⟨hash, mem, (registers.sound wellFormed free mem).live⟩
  | @fetched text autoLink hash _ _ parsed fetches =>
      have mem := within hash (.first rfl parsed)
      exact ⟨hash, mem, (fetches.sound wellFormed free mem).live⟩
  | updated parsed updates => exact updates.live parsed free within

/-! ### Grants -/

/-- What grants for writing are given out for. -/
theorem Award.granted_put {expiresAt : Time.Instant}
    (gives : (w.granted e caller expiresAt).Gives grant) (put : grant.method = .put) :
    w.record.isLink = false ∧ grant.storageId = w.record.storageId ∧
      grant.claims.subject = caller.owner := by
  rcases gives with read | write
  · obtain ⟨id, -, rfl⟩ := Option.map_eq_some_iff.mp read
    cases put
  · unfold granted at write
    dsimp only at write
    split at write
    · next writes =>
        cases write
        have own : w.record.isLink = false := by
          simp only [Bool.and_eq_true, Bool.not_eq_true'] at writes
          exact writes.1.2
        exact ⟨own, rfl, rfl⟩
    · cases write

/-- A grant for writing to the caller's live row that owns its bytes opens nothing else. -/
theorem Store.WellFormed.opensOwn {record : Record} (wellFormed : s.WellFormed used)
    (free : CollisionFree used) (mem : (caller.owner, hash) ∈ used)
    (found : s.find? (storageId caller.owner hash) = some record) (own : record.isLink = false)
    (named : grant.storageId = record.storageId) (subject : grant.claims.subject = caller.owner) :
    grant.OpensOwn used record s caller.owner := by
  obtain ⟨stands, hasKey, live⟩ := find?_some found
  obtain ⟨owned, content⟩ := wellFormed.of_key free mem stands hasKey
  refine ⟨named, subject, stands, live, Record.isLink_eq_false_iff.mp own, owned, ?_, ?_, ?_⟩
  · exact ⟨hash, by rw [content, hash.parse_hex], hasKey⟩
  · intro r row isLink same
    have one : r = record := wellFormed.distinct.eq_of_key row stands (same.trans named)
    rw [one, own] at isLink
    cases isLink
  · intro other hash' mem' same
    have sameKey : storageId other hash' = storageId caller.owner hash :=
      same.trans (named.trans hasKey)
    exact (free.storageId_inj mem' mem sameKey).1

/-- **Nobody can write another owner's bytes.** Whatever has happened before, an action that is
answered with a grant for writing is answered with a live record of the caller's that owns its
bytes and stands under the key of the caller and its content. The grant names the caller and opens
that key, which neither a link nor another owner has. -/
theorem put_grants_open_own (free : CollisionFree used) (reachable : Reachable used s)
    {a : Action} (within : a.Within caller used) {answer : a.Answer} {g : Granted}
    (answered : (a.run caller e ⟨s, 0⟩).1 = .ok answer) (grants : a.granted? answer = some g)
    (gives : g.Gives grant) (put : grant.method = .put) :
    grant.OpensOwn used g.record (a.after caller e s) caller.owner := by
  have wellFormed := reachable.wellFormed free
  have after := (Action.effect (e := e) wellFormed free within).wellFormed wellFormed within
  obtain ⟨w, expiresAt, awards, rfl⟩ := a.awarded answered grants
  obtain ⟨hash, mem, found⟩ := awards.live wellFormed free within
  obtain ⟨own, named, subject⟩ := Award.granted_put gives put
  exact after.opensOwn free mem found own named subject

end Uploads

/-- The grant opens Bob's own key, though all he had before was a link to Ann's record. -/
theorem put_grants_open_own_repairing :
    let a : Action := .register ContentHash.zeros.hex .empty false
    ∃ (first : Registered) (grant : Grant),
      (a.run .bob (.calm .empty) ⟨.freshLink, 0⟩).1 = .ok first ∧ first.created = false ∧
      first.granted.write = some grant ∧ grant.method = .put ∧
      grant.OpensOwn {("ann", .zeros), ("bob", .zeros)} first.granted.record
        (a.after .bob (.calm .empty) .freshLink) "bob" := by
  dsimp only
  obtain ⟨first, answered, repaired⟩ := Store.freshLink_repaired
  obtain ⟨known, gives⟩ := Bool.and_eq_true_iff.mp repaired
  obtain ⟨grant, write, put⟩ := (Option.any_eq_true _ _).mp gives
  have isPut := eq_of_beq put
  have within : (Action.register ContentHash.zeros.hex .empty false).Within .bob
      {("ann", .zeros), ("bob", .zeros)} :=
    Action.within_of_texts [.zeros] rfl (by simp [Caller.bob])
  exact ⟨first, grant, answered, (Bool.not_eq_true' _).mp known, write, isPut,
    put_grants_open_own collisionFree_zeros Store.reachable_freshLink within answered rfl
      (.inr write) isPut⟩

end ContentStore
