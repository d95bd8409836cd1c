import ContentStore.Proofs.Idempotence
import ContentStore.Proofs.StoragePaths
import ContentStore.Proofs.Uploads

/-!
# From a registration to its bytes

Registering and fetching decide by different procedures where the bytes of a record are, and the
probe for bytes and the URL of a grant both cut a path from its storage id. They agree: what was
registered is fetched as the same record with all the grants that were offered for it, and once
bytes lie at the path inside the URL of a grant for writing, fetching and registering both find them
there (`registering_leads_to_bytes`).
-/

namespace ContentStore

/-! ### Bytes at a path -/

/-- A plain file lies at the path, or the server says that the bytes are there. -/
def Backend.Stores : Backend → String → Prop
  | fileTree root tree, path => tree.lookup root.utf8ByteSize path = .ok (some .file)
  | gateway g, path => ∃ target code, Url.targetOn? g.site (g.base ++ "/" ++ path) = some target ∧
      g.reply target = .status code ∧ 200 ≤ code ∧ code < 300

theorem Backend.stores_iff {b : Backend} {path : String}
    (stays : FileTree.leavesRoot path = false) :
    b.Stores path ↔ b.holds path = .ok true := by
  cases b with
  | fileTree root tree =>
      simp only [Stores, holds, FileTree.holds, stays]
      cases tree.lookup root.utf8ByteSize path <;> simp
  | gateway g =>
      simp only [Stores, holds, Gateway.holds]
      cases aims : Url.targetOn? g.site (g.base ++ "/" ++ path) with
      | none => simp [Gateway.transportFailure]
      | some target =>
          cases met : g.reply target with
          | silence => simp [Gateway.verdict, met]
          | dropped => simp [Gateway.verdict, met, Gateway.transportFailure]
          | status code =>
              by_cases success : 200 ≤ code ∧ code < 300
              · simp [Gateway.verdict, met, success]
              · by_cases absent : code = 404 <;> simp [Gateway.verdict, met, success, absent]

/-! ### Fetching what was registered -/

/-- The answer comes with a grant for this method and this storage id. -/
def Granted.Offers (g : Granted) (method : Method) (id : String) : Prop :=
  ∃ grant, g.Gives grant ∧ grant.method = method ∧ grant.storageId = id

/-- The answer is for this record and reads the bytes of this storage id. -/
structure Granted.Reads (g : Granted) (record : Record) (id : String) : Prop where
  record : g.record = record
  read : ∃ grant, g.read = some grant ∧ grant.method = .get ∧ grant.storageId = id

section Completing

variable {used : Set (String × ContentHash)} {e e' : Surroundings} {s : Store} {caller : Caller}
  {text path id : String} {hash : ContentHash} {row : Record} {w : Award} {method : Method}
  {expiresAt : Time.Instant} {n : Journal} {first : Registered}

theorem Award.granted_offers_iff :
    (w.granted e caller expiresAt).Offers method id ↔
      (method = .get ∧ w.readFrom = some id) ∨
        (method = .put ∧ id = w.record.storageId ∧
          (w.writable && !w.record.isLink && w.record.owner = caller.owner) = true) := by
  unfold Granted.Offers Granted.Gives granted
  dsimp only
  constructor
  · rintro ⟨grant, read | write, rfl, rfl⟩
    · obtain ⟨id, reads, rfl⟩ := Option.map_eq_some_iff.mp read
      exact .inl ⟨rfl, reads⟩
    · split at write
      · next writes =>
          cases write
          exact .inr ⟨rfl, rfl, writes⟩
      · cases write
  · rintro (⟨rfl, reads⟩ | ⟨rfl, rfl, writes⟩)
    · rw [reads]
      exact ⟨_, .inl rfl, rfl, rfl⟩
    · rw [if_pos writes]
      exact ⟨_, .inr rfl, rfl, rfl⟩

/-- What was awarded is fetched with all that was offered for it. -/
theorem Award.Sound.fetched (sound : w.Sound e s caller hash) (wellFormed : s.WellFormed used)
    (free : CollisionFree used) (mem : (caller.owner, hash) ∈ used)
    (sameFiles : e'.backend = e.backend) (faultless : e'.Faultless used hash)
    (parsed : ContentHash.parse text = .ok hash)
    (inTime : (e'.now.later? e'.issuer.seconds).isSome) :
    ∃ g, (Operation.fetch caller text false).Yields e' s (.ok g) s ∧ g.record = w.record ∧
      ∀ expiresAt method id, (w.granted e caller expiresAt).Offers method id →
        g.Offers method id := by
  obtain ⟨ends, later⟩ := Option.isSome_iff_exists.mp inTime
  obtain ⟨stands, hasKey, -⟩ := Store.find?_some sound.live
  have content := (wellFormed.of_key free mem stands hasKey).2
  have tells := faultless.tellsOf wellFormed stands content
  have leads : ∀ id, w.readFrom = some id → e'.bytesOf? s w.record = some id := by
    intro id reads
    rw [Surroundings.bytesOf?_congr sameFiles]
    exact sound.leads wellFormed free mem reads
  cases found : e'.bytesOf? s w.record with
  | some real =>
      refine ⟨_, Operation.yields_fetch_found faultless.carries parsed sound.live sound.owned tells
        found later, rfl, ?_⟩
      intro expiresAt method id offers
      rw [Award.granted_offers_iff] at offers ⊢
      rcases offers with ⟨get, reads⟩ | ⟨put, same, writes⟩
      · exact .inl ⟨get, found.symm.trans (leads id reads)⟩
      · simp only [Bool.and_eq_true, Bool.not_eq_true'] at writes
        exact .inr ⟨put, same, by simp [writes.1.2, sound.owned]⟩
  | none =>
      -- Nothing was awarded for reading, so the row is the caller's to write.
      have waits : w.readFrom = none := by
        cases reads : w.readFrom with
        | none => rfl
        | some id => exact nomatch (leads id reads).symm.trans found
      obtain ⟨own, writable⟩ := sound.writes waits
      refine ⟨_, Operation.yields_fetch_waiting faultless.carries parsed sound.live sound.owned own
        tells found later, rfl, ?_⟩
      intro expiresAt method id offers
      rw [Award.granted_offers_iff] at offers ⊢
      rcases offers with ⟨-, reads⟩ | ⟨put, same, -⟩
      · exact nomatch waits.symm.trans reads
      · exact .inr ⟨put, same, by simp [own, sound.owned]⟩

/-! ### After the upload -/

/-- Once the bytes of an own row are at its path, they are found, and the row needs no others. -/
theorem Surroundings.tellsOf_of_stores (own : row.isLink = false)
    (cut : storagePath? row.storageId = some path) (stores : e.backend.Stores path)
    (stays : FileTree.leavesRoot path = false) :
    e.TellsOf s row ∧ e.bytesOf? s row = some row.storageId := by
  obtain ⟨tells, held⟩ := Surroundings.tells_of_holds cut ((Backend.stores_iff stays).mp stores)
  constructor
  · refine ⟨fun _ => tells, fun isLink => ?_⟩
    rw [own] at isLink
    cases isLink
  · rw [e.bytesOf?_own own, if_pos held]

theorem fetch_after_upload {autoLink : Bool} (carries : ∀ n c, e.Carries n c)
    (parsed : ContentHash.parse text = .ok hash)
    (live : s.find? (storageId caller.owner hash) = some row) (owned : row.owner = caller.owner)
    (tells : e.TellsOf s row) (leads : e.bytesOf? s row = some id)
    (inTime : (e.now.later? e.issuer.seconds).isSome) :
    ∃ g, (Operation.fetch caller text autoLink).Yields e s (.ok g) s ∧ g.Reads row id := by
  obtain ⟨expiresAt, ends⟩ := Option.isSome_iff_exists.mp inTime
  exact ⟨_, Operation.yields_fetch_found carries parsed live owned tells leads ends,
    rfl, _, rfl, rfl, rfl⟩

theorem register_after_upload {m : Metadata} {autoLink : Bool} {size : Int}
    (carries : ∀ n c, e.Carries n c) (parsed : ContentHash.parse text = .ok hash)
    (sized : m.size = .ok size) (live : s.find? (storageId caller.owner hash) = some row)
    (owned : row.owner = caller.owner) (tells : e.TellsOf s row)
    (leads : e.bytesOf? s row = some id) (inTime : (e.now.later? e.issuer.seconds).isSome) :
    ∃ second, (Operation.register caller text m autoLink).Yields e s (.ok second) s ∧
      second.created = false ∧ second.granted.Reads row id ∧ second.granted.write = none := by
  obtain ⟨expiresAt, ends⟩ := Option.isSome_iff_exists.mp inTime
  exact ⟨_, Operation.yields_register_known carries parsed sized live owned tells leads ends,
    rfl, ⟨rfl, _, rfl, rfl, rfl⟩, rfl⟩

/-- **What is registered can be fetched, and an upload completes it.** In a reachable store, what a
registration was answered with is fetched as the same record, if no call fails and the bytes are as
they were, with a grant for everything that was offered, and nothing is changed. A grant for writing
has a URL, and once bytes are at the path inside, they are read: fetching grants reading them, and
so does registering again, which creates nothing and grants nothing else. Neither changes a row. -/
theorem registering_leads_to_bytes (free : CollisionFree used) (reachable : Reachable used s)
    (parsed : ContentHash.parse text = .ok hash) (mem : (caller.owner, hash) ∈ used) {m : Metadata}
    {autoLink : Bool}
    (answered : (Operation.register caller text m autoLink e ⟨s, n⟩).1 = .ok first) :
    let s' := (Operation.register caller text m autoLink e ⟨s, n⟩).2.store
    (∀ (e' : Surroundings) (text' : String) (k : Journal), ContentHash.parse text' = .ok hash →
      e'.backend = e.backend → e'.Faultless used hash →
      (e'.now.later? e'.issuer.seconds).isSome →
      let fetched := Operation.fetch caller text' false e' ⟨s', k⟩
      ∃ g, fetched.1 = .ok g ∧ fetched.2.store = s' ∧ g.record = first.granted.record ∧
        ∀ method id, first.granted.Offers method id → g.Offers method id) ∧
    ∀ grant, first.granted.Gives grant → grant.method = .put →
      ∃ path, storagePath? grant.storageId = some path ∧
        e.issuer.url? grant =
          some (e.issuer.publicUrl ++ "/" ++ path ++ "?token=" ++ e.issuer.token grant) ∧
        ∀ (e' : Surroundings) (text' : String) (k : Journal), ContentHash.parse text' = .ok hash →
          (∀ n c, e'.Carries n c) → e'.backend.Stores path →
          (e'.now.later? e'.issuer.seconds).isSome →
          (∀ autoLink',
            let fetched := Operation.fetch caller text' autoLink' e' ⟨s', k⟩
            ∃ g, fetched.1 = .ok g ∧ fetched.2.store = s' ∧
              g.Reads first.granted.record grant.storageId) ∧
          ∀ m' autoLink' size, m'.size = .ok size →
            let again := Operation.register caller text' m' autoLink' e' ⟨s', k⟩
            ∃ second, again.1 = .ok second ∧ again.2.store = s' ∧ second.created = false ∧
              second.granted.Reads first.granted.record grant.storageId ∧
              second.granted.write = none := by
  intro s'
  have wellFormed := reachable.wellFormed free
  obtain ⟨w, created, expiresAt, registers, rfl⟩ := Operation.register_awarded parsed answered
  have sound := registers.sound wellFormed free mem
  have after : s'.WellFormed used := registers.wellFormed wellFormed free mem
  constructor
  · intro e' text' k parsed' sameFiles faultless inTime fetched
    obtain ⟨g, yields, record, offers⟩ :=
      sound.fetched after free mem sameFiles faultless parsed' inTime
    exact ⟨g, yields.result k, yields.left k, record, offers expiresAt⟩
  · intro grant gives put
    obtain ⟨own, named, -⟩ := Award.granted_put gives put
    have hasKey := (Store.find?_some sound.live).2.1
    have isId := isStorageId_storageId caller.owner hash
    rw [← hasKey] at isId
    have cut := storagePath?_of_isStorageId isId
    have stays := FileTree.leavesRoot_shardedPath isId
    refine ⟨_, (congrArg storagePath? named).trans cut, by rw [Issuer.url?, named, cut]; rfl, ?_⟩
    intro e' text' k parsed' carries stores inTime
    obtain ⟨tells, leads⟩ := Surroundings.tellsOf_of_stores (s := s') own cut stores stays
    rw [← named] at leads
    constructor
    · intro autoLink' fetched
      obtain ⟨g, yields, reads⟩ :=
        fetch_after_upload carries parsed' sound.live sound.owned tells leads inTime
      exact ⟨g, yields.result k, yields.left k, reads⟩
    · intro m' autoLink' size sized again
      obtain ⟨second, yields, known, reads, none⟩ :=
        register_after_upload carries parsed' sized sound.live sound.owned tells leads inTime
      exact ⟨second, yields.result k, yields.left k, known, reads, none⟩

end Completing

theorem registering_leads_to_bytes_uploading :
    let ends :=
      Operation.register .ann ContentHash.zeros.hex .empty false (.calm .empty) ⟨.empty, 0⟩
    ∃ first grant, ends.1 = .ok first ∧ first.granted.Gives grant ∧ grant.method = .put ∧
      (∃ g, (Operation.fetch .ann ContentHash.zeros.hex false (.calm .empty)
          ⟨ends.2.store, 0⟩).1 = .ok g ∧ g.record = first.granted.record) ∧
      ∃ g, (Operation.fetch .ann ContentHash.zeros.hex false .stocked ⟨ends.2.store, 0⟩).1 = .ok g ∧
        g.Reads first.granted.record grant.storageId := by
  intro ends
  have parsed := ContentHash.zeros.parse_hex
  have mem : (Caller.ann.owner, ContentHash.zeros) ∈ ({("ann", .zeros)} : Set _) := rfl
  let w : Award := ⟨Store.empty.written (ownDraft "ann" .zeros .empty 0) ⟨0, 0⟩, none, true⟩
  have answered : ends.1 = .ok ⟨w.granted (.calm .empty) .ann ⟨3600, 0⟩, true⟩ :=
    congrArg Prod.fst (Operation.register_first .empty rfl)
  obtain ⟨agrees, completes⟩ :=
    registering_leads_to_bytes (collisionFree_singleton _) .empty parsed mem answered
  obtain ⟨g, fetched, -, record, -⟩ := agrees (.calm .empty) _ 0 parsed rfl
    Surroundings.faultless_calm (by decide)
  obtain ⟨path, cut, -, uploaded⟩ := completes _ (.inr rfl) rfl
  have told : (storagePath? (storageId "ann" .zeros)).map Surroundings.stocked.backend.holds =
      some (.ok true) := by
    decide +kernel
  obtain ⟨path', cut', held⟩ := Option.map_eq_some_iff.mp told
  obtain rfl := Option.some.inj (cut'.symm.trans cut)
  have isId := isStorageId_storageId "ann" .zeros
  obtain rfl := Option.some.inj (cut'.symm.trans (storagePath?_of_isStorageId isId))
  have stores := (Backend.stores_iff (FileTree.leavesRoot_shardedPath isId)).mpr held
  obtain ⟨reads, -⟩ :=
    uploaded .stocked _ 0 parsed (fun _ _ => ⟨rfl, fun _ => rfl⟩) stores (by decide)
  obtain ⟨g', fetched', -, readsBytes⟩ := reads false
  exact ⟨_, _, answered, .inr rfl, rfl, ⟨g, fetched, record⟩, g', fetched', readsBytes⟩

end ContentStore
