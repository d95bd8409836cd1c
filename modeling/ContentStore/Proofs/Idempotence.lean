import ContentStore.Proofs.Alike
import ContentStore.Proofs.Faultless
import ContentStore.Proofs.Grants

/-!
# Registering twice

A registration that was answered is answered again with the same record, and nothing is changed by
it but the time of the last write (`register_idempotent`). The second time mostly goes another way
than the first, and there are two ends to it:

* what was awarded for reading is where the row leads, so that the row is confirmed as it stands;
* a row that waits for its bytes either leads to bytes that were left under its key before, or is
  written again, with the values that it has. For the metadata that made it leaves these values as
  they are (`Draft.Settled`), and the write does not show in anything that led to it: there is still
  nobody to link to, and the total without the row is the same.
-/

namespace ContentStore

/-- Registering with this metadata leaves the values of the draft as they are. -/
structure Draft.Settled (d : Draft) (m : Metadata) : Prop where
  named : m.objectName.getD d.objectName = d.objectName
  typed : m.mimeType.getD d.mimeType = d.mimeType
  own : d.linkedObject = ""
  sized : ∀ row : Record, row.size = d.size → m.sizeFor row = .ok d.size

/-- What a second registration of the owner's row, over `s`, changes: nothing but the time at which
the row was last written. -/
structure Registered.Repeats (second : Registered) (row : Record) (s t : Store) (owner : String) :
    Prop where
  known : second.created = false
  record : second.granted.record =
    { row with updatedAt := second.granted.record.updatedAt }
  stands : t.find? row.storageId = some second.granted.record
  others : s.DifferAt t row.storageId
  usage : ∀ excluding, t.usage? owner excluding = s.usage? owner excluding

section Registering

variable {used : Set (String × ContentHash)} {e : Surroundings} {s s' : Store} {caller : Caller}
  {owner text : String} {hash : ContentHash} {m : Metadata} {row : Record} {size : Int} {d : Draft}
  {now : Time.Instant} {w : Award} {autoLink : Bool} {first : Registered} {n : Journal}

/-! ### Settled drafts -/

theorem ownDraft_settled (sized : m.size = .ok size) :
    (ownDraft owner hash m size).Settled m := by
  refine ⟨?_, ?_, rfl, fun row same => ?_⟩
  · unfold ownDraft
    cases m.objectName <;> rfl
  · unfold ownDraft
    cases m.mimeType <;> rfl
  · have same : row.size = size := same
    rw [Metadata.sizeFor_eq sized, same, ite_self]
    rfl

theorem Record.revised_settled (sized : m.sizeFor row = .ok size) :
    (row.revised m size).Settled m := by
  refine ⟨?_, ?_, rfl, fun row' same => ?_⟩
  · unfold revised
    cases m.objectName <;> rfl
  · unfold revised
    cases m.mimeType <;> rfl
  · have same : row'.size = size := same
    unfold Metadata.sizeFor at sized ⊢
    split
    · next gives => rwa [if_pos gives] at sized
    · rw [same]
      rfl

/-- Written again from its own values, a row only has another time of its last write. -/
theorem Draft.Settled.written_again (settled : d.Settled m) (distinct : s.Distinct)
    (later : Time.Instant) :
    (s.put d now).written ((s.written d now).revised m d.size) later =
      { s.written d now with updatedAt := later } := by
  have stands : (s.put d now).row? (s.written d now).storageId = some (s.written d now) :=
    distinct.put.row?_eq_some_iff.mpr ⟨Store.mem_put_iff.mpr (.inl rfl), rfl⟩
  have draft : (s.written d now).revised m d.size =
      { (s.written d now).revised m d.size with
        objectName := (s.written d now).objectName, size := (s.written d now).size,
        mimeType := (s.written d now).mimeType,
        linkedObject := (s.written d now).linkedObject } := by
    rw [Store.objectName_written, Store.size_written, Store.mimeType_written,
      Store.linkedObject_written, settled.own]
    unfold Record.revised
    rw [Store.objectName_written, Store.mimeType_written, settled.named, settled.typed]
  have live := Store.garbage_written s d now
  rw [draft, Store.written]
  dsimp only [Record.revised]
  rw [stands]
  dsimp only [Draft.over]
  rw [← live]

/-! ### What a write leaves as it is -/

/-- A row of the owner's is nothing for the owner to link to. -/
theorem Store.WellFormed.candidates_put (wellFormed : s.WellFormed used) (free : CollisionFree used)
    (mem : (owner, hash) ∈ used) (drafted : d.IsFor owner hash) (sha256 : String) :
    (s.put d now).candidates sha256 owner = s.candidates sha256 owner := by
  have agree := wellFormed.agree free mem drafted
  unfold candidates
  rw [filter_rows_put]
  · simp [owner_written agree, drafted.owned]
  · intro r row hasKey
    simp [agree r row hasKey, drafted.owned]

/-- The total without a row does not depend on it. -/
theorem Surroundings.Admits.put {excluding : List String} (admits : e.Admits s owner excluding size)
    (excluded : d.storageId ∈ excluding) : e.Admits (s.put d now) owner excluding size := by
  obtain ⟨total, computed, within⟩ := admits
  exact ⟨total, by rw [Store.usage?_put_of_excluded excluded, computed], within⟩

/-! ### What was registered -/

/-- A row that waits for its bytes was written from a settled draft, within the quota and for want
of anything to link to. -/
theorem Registers.waits {created : Bool}
    (registers : Registers e s caller hash m autoLink w created s')
    (waits : w.readFrom = none) (wellFormed : s.WellFormed used) (free : CollisionFree used)
    (mem : (caller.owner, hash) ∈ used) (candid : e.Candid) :
    ∃ d : Draft, w.record = s.written d e.now ∧ s' = s.put d e.now ∧ d.IsFor caller.owner hash ∧
      d.Settled m ∧ e.Admits s caller.owner [storageId caller.owner hash] d.size ∧
      (autoLink = true → e.source? s caller.owner hash = none) := by
  cases registers with
  | known => cases waits
  | @relinked row r => cases r <;> cases waits
  | @linked r => cases r <;> cases waits
  | @repaired row size found owned misses nowhere sized admits =>
      obtain ⟨old, hasKey, -⟩ := Store.find?_some found
      have nonneg := Metadata.sizeFor_nonneg sized (wellFormed.sized _ old)
      rw [hasKey] at admits
      exact ⟨_, rfl, rfl, wellFormed.isFor_revised free mem found nonneg,
        Record.revised_settled sized, admits, fun asked => nowhere asked candid⟩
  | created _ nowhere sized admits =>
      exact ⟨_, rfl, rfl, ⟨rfl, rfl, rfl, Metadata.size_nonneg sized⟩, ownDraft_settled sized,
        admits, fun asked => nowhere asked candid⟩

/-! ### The second time -/

/-- Registering a row that leads to bytes confirms it as it stands. -/
theorem register_confirms (wellFormed : s.WellFormed used) (faultless : e.Faultless used hash)
    (parsed : ContentHash.parse text = .ok hash) (sized : m.size = .ok size)
    (live : s.find? (storageId caller.owner hash) = some row) (owned : row.owner = caller.owner)
    (content : row.sha256 = hash.hex) {real : String} (leads : e.bytesOf? s row = some real)
    (inTime : (e.now.later? e.issuer.seconds).isSome) :
    ∃ second, (Operation.register caller text m autoLink).Yields e s (.ok second) s ∧
      second.Repeats row s s caller.owner := by
  obtain ⟨expiresAt, ends⟩ := Option.isSome_iff_exists.mp inTime
  obtain ⟨stands, hasKey, -⟩ := Store.find?_some live
  have tells := faultless.tellsOf wellFormed stands content
  refine ⟨_, Operation.yields_register_known faultless.carries parsed sized live owned tells leads
    ends, ?_⟩
  exact ⟨rfl, rfl, hasKey ▸ live, fun _ _ => Iff.rfl, fun _ => rfl⟩

/-- Registering a row that waits for its bytes writes it again, with the values that it has. -/
theorem register_rewrites (wellFormed : s.WellFormed used) (free : CollisionFree used)
    (mem : (caller.owner, hash) ∈ used) (faultless : e.Faultless used hash)
    (parsed : ContentHash.parse text = .ok hash) (sized : m.size = .ok size)
    (drafted : d.IsFor caller.owner hash) (settled : d.Settled m)
    (admits : e.Admits s caller.owner [storageId caller.owner hash] d.size)
    (nowhere : autoLink = true → e.source? s caller.owner hash = none)
    (lost : e.bytesOf? (s.put d now) (s.written d now) = none)
    (inTime : (e.now.later? e.issuer.seconds).isSome) :
    ∃ second t, (Operation.register caller text m autoLink).Yields e (s.put d now) (.ok second) t ∧
      second.Repeats (s.written d now) (s.put d now) t caller.owner := by
  obtain ⟨expiresAt, ends⟩ := Option.isSome_iff_exists.mp inTime
  have put : (s.put d now).WellFormed used := wellFormed.put mem drafted
  have live : (s.put d now).find? (storageId caller.owner hash) = some (s.written d now) :=
    Store.find?_put_self drafted.key
  obtain ⟨stands, hasKey, -⟩ := Store.find?_some live
  obtain ⟨owned, content⟩ := put.of_key free mem stands hasKey
  have tells := faultless.tellsOf put stands content
  -- The written row is the owner's, and so it changes nothing about whom to link to.
  have candidates : (s.put d now).candidates hash.hex caller.owner =
      s.candidates hash.hex caller.owner := wellFormed.candidates_put free mem drafted hash.hex
  have nowhere' : autoLink = true →
      (∀ r ∈ (s.put d now).candidates hash.hex caller.owner, e.Tells r.storageId) ∧
        e.source? (s.put d now) caller.owner hash = none := by
    intro asked
    constructor
    · intro r candidate
      exact faultless.tells_candidate put candidate
    · rw [Surroundings.source?, candidates]
      exact nowhere asked
  have admits' : e.Admits (s.put d now) caller.owner [(s.written d now).storageId] d.size := by
    rw [hasKey]
    exact admits.put (List.mem_singleton.mpr drafted.key)
  have yields := Operation.yields_register_repaired faultless.carries parsed sized live owned tells
    lost nowhere' (settled.sized _ Store.size_written) admits' ends
  refine ⟨_, _, yields, ?_⟩
  have again : (s.put d now).written ((s.written d now).revised m d.size) e.now =
      { s.written d now with updatedAt := e.now } := settled.written_again wellFormed.distinct e.now
  constructor
  · rfl
  · change (s.put d now).written _ e.now = _
    rw [again]
    rfl
  · exact Store.find?_put_self rfl
  · exact Store.differAt_put
  · intro excluding
    have found : (s.put d now).find? (s.written d now).storageId = some (s.written d now) := by
      rw [hasKey]
      exact live
    have same : d.size = (s.written d now).size := Store.size_written.symm
    exact put.distinct.usage?_put_of_size found same

/-- **Registering is idempotent.** In a reachable store, if a registration is answered and no call
of it fails, then the same registration at another time, over the store that the first one left, is
answered too: with a row that was known, and that is the row of the first answer with perhaps
another time of its last write. All other rows are as they were, and so are the owner's totals. -/
theorem register_idempotent (free : CollisionFree used) (reachable : Reachable used s)
    (parsed : ContentHash.parse text = .ok hash) (mem : (caller.owner, hash) ∈ used)
    (faultless : e.Faultless used hash)
    (answered : (Operation.register caller text m autoLink e ⟨s, n⟩).1 = .ok first)
    (later : Time.Instant) (inTime : (later.later? e.issuer.seconds).isSome) (k : Journal) :
    let s' := (Operation.register caller text m autoLink e ⟨s, n⟩).2.store
    let again := Operation.register caller text m autoLink { e with now := later } ⟨s', k⟩
    ∃ second, again.1 = .ok second ∧
      second.Repeats first.granted.record s' again.2.store caller.owner := by
  intro s' again
  have wellFormed := reachable.wellFormed free
  obtain ⟨size, sized⟩ := Operation.size_of_register parsed answered
  obtain ⟨w, created, expiresAt, registers, rfl⟩ := Operation.register_awarded parsed answered
  have sound := registers.sound wellFormed free mem
  have after : s'.WellFormed used := registers.wellFormed wellFormed free mem
  obtain ⟨stands, hasKey, -⟩ := Store.find?_some sound.live
  have content := (after.of_key free mem stands hasKey).2
  have still := faultless.later later
  have unmoved (row : Record) :
      Surroundings.bytesOf? { e with now := later } s' row = e.bytesOf? s' row :=
    Surroundings.bytesOf?_congr rfl
  obtain ⟨second, t, yields, repeats⟩ : ∃ second t,
      (Operation.register caller text m autoLink).Yields { e with now := later } s' (.ok second) t ∧
        second.Repeats w.record s' t caller.owner := by
    cases leads : e.bytesOf? s' w.record with
    | some real =>
        rw [← unmoved] at leads
        exact (register_confirms after still parsed sized sound.live sound.owned content leads
          inTime).imp fun second confirms => ⟨s', confirms⟩
    | none =>
        -- What is awarded for reading would lead somewhere, so the row waits for its bytes.
        have waits : w.readFrom = none := by
          cases reads : w.readFrom with
          | none => rfl
          | some id => exact nomatch (sound.leads after free mem reads).symm.trans leads
        obtain ⟨d, record, left, drafted, settled, admits, nowhere⟩ :=
          registers.waits waits wellFormed free mem
            (Surroundings.candid_of_carries faultless.carries)
        have left : s' = s.put d e.now := left
        rw [← unmoved, left, record] at leads
        rw [left, record]
        exact register_rewrites wellFormed free mem still parsed sized drafted settled admits
          nowhere leads inTime
  obtain ⟨k', ran⟩ := yields k
  have ended : again = (.ok second, ⟨t, k'⟩) := ran
  rw [ended]
  exact ⟨second, rfl, repeats⟩

end Registering

theorem register_idempotent_waiting :
    ∃ first s' k, Operation.register .ann ContentHash.zeros.hex .empty false (.calm .empty)
        ⟨.empty, 0⟩ = (.ok first, ⟨s', k⟩) ∧
      let again := Operation.register .ann ContentHash.zeros.hex .empty false
        { Surroundings.calm .empty with now := ⟨60, 0⟩ } ⟨s', k⟩
      ∃ second, again.1 = .ok second ∧
        second.Repeats first.granted.record s' again.2.store Caller.ann.owner := by
  obtain ⟨first, s', k, ran⟩ : ∃ first s' k, Operation.register .ann ContentHash.zeros.hex .empty
      false (.calm .empty) ⟨.empty, 0⟩ = (.ok first, ⟨s', k⟩) :=
    ⟨_, _, _, Operation.register_first .empty rfl⟩
  have parsed := ContentHash.zeros.parse_hex
  have mem : (Caller.ann.owner, ContentHash.zeros) ∈ ({("ann", .zeros)} : Set _) := rfl
  have repeated := register_idempotent (collisionFree_singleton _) .empty parsed mem
    Surroundings.faultless_calm (congrArg Prod.fst ran) ⟨60, 0⟩ (by decide) k
  rw [ran] at repeated
  exact ⟨first, s', k, ran, repeated⟩

end ContentStore
