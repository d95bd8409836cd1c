import ContentStore.Proofs.Reachable

/-!
# What grants open

A grant for reading should name a live row that owns its bytes (`Store.Owns`), at the time it is
given out. Registering and fetching look the row up before they grant, and all that they grant is
sound (`Granted.Sound`): it concerns the caller's own live row, the bytes to read are there, and
where there are none the caller may write.
-/

namespace ContentStore

/-- A live row that owns its bytes stands under the storage id. -/
def Store.Owns (s : Store) (id : String) : Prop :=
  ∃ row, s.find? id = some row ∧ row.isLink = false

/-- An award for the caller's own live row of some content, for which either there are bytes to
read, under a live row that owns them, or the caller is to bring them. -/
structure Award.Sound (w : Award) (e : Surroundings) (s : Store) (caller : Caller)
    (hash : ContentHash) : Prop where
  live : s.find? (storageId caller.owner hash) = some w.record
  owned : w.record.owner = caller.owner
  reads : ∀ id, w.readFrom = some id → id = w.record.realStorageId ∧ e.holds id = true ∧
    ∃ row, s.find? id = some row ∧ row.isLink = false ∧ row.sha256 = hash.hex
  writes : w.readFrom = none → w.record.isLink = false ∧ w.writable = true

/-- What `Award.Sound` says, said of the grants given out. -/
structure Granted.Sound (g : Granted) (e : Surroundings) (s : Store) (caller : Caller)
    (hash : ContentHash) : Prop where
  live : s.find? (storageId caller.owner hash) = some g.record
  owned : g.record.owner = caller.owner
  read : ∀ grant, g.read = some grant → grant.method = .get ∧
    grant.storageId = g.record.realStorageId ∧ e.holds grant.storageId = true ∧
    ∃ row, s.find? grant.storageId = some row ∧ row.isLink = false ∧ row.sha256 = hash.hex
  write : ∀ grant, g.write = some grant →
    grant.method = .put ∧ grant.storageId = g.record.storageId
  upload : g.read = none → g.record.isLink = false ∧ g.write.isSome

section Awards

variable {used : Set (String × ContentHash)} {e : Surroundings} {s s' : Store} {caller : Caller}
  {owner : String} {hash : ContentHash} {row : Record} {w : Award}

theorem Award.write_granted {expiresAt : Time.Instant} (owned : w.record.owner = caller.owner) :
    (w.granted e caller expiresAt).write.isSome = (w.writable && !w.record.isLink) := by
  unfold granted
  cases w.writable && !w.record.isLink <;> simp [owned]

theorem Award.read_granted {expiresAt : Time.Instant} :
    (w.granted e caller expiresAt).read.isSome = w.readFrom.isSome := by
  simp [granted]

theorem Award.Sound.granted {expiresAt : Time.Instant} (sound : w.Sound e s caller hash) :
    (w.granted e caller expiresAt).Sound e s caller hash := by
  refine ⟨sound.live, sound.owned, ?_, ?_, ?_⟩
  · intro grant given
    obtain ⟨id, reads, rfl⟩ := Option.map_eq_some_iff.mp given
    obtain ⟨real, held, target⟩ := sound.reads id reads
    exact ⟨rfl, real, held, target⟩
  · intro grant given
    unfold Award.granted at given
    dsimp only at given
    split at given
    · cases given
      exact ⟨rfl, rfl⟩
    · cases given
  · intro none
    obtain ⟨own, writable⟩ := sound.writes (Option.map_eq_none_iff.mp none)
    refine ⟨own, ?_⟩
    rw [write_granted sound.owned, own, writable]
    rfl

/-! ### Where rows lead -/

/-- The bytes that a live row leads to lie under a live row that owns them. -/
theorem Surroundings.bytesOf?_sound {key real : String} (found : s.find? key = some row)
    (leads : e.bytesOf? s row = some real) :
    real = row.realStorageId ∧ e.holds real = true ∧
      ∃ target, s.find? real = some target ∧ target.isLink = false ∧
        target.sha256 = row.sha256 := by
  obtain ⟨-, hasKey, -⟩ := Store.find?_some found
  unfold bytesOf? at leads
  obtain ⟨leads, held⟩ := Option.filter_eq_some_iff.mp leads
  split at leads
  · next isLink =>
      obtain ⟨target, aims, rfl⟩ := Option.map_eq_some_iff.mp leads
      obtain ⟨live, own, same⟩ := Store.target?_eq_some_iff.mp aims
      have named := (Store.find?_some live).2.1
      refine ⟨by rw [Record.realStorageId_of_isLink isLink, named], held, target, ?_, own, same⟩
      rw [named]
      exact live
  · next own =>
      have own : row.isLink = false := by simpa using own
      cases leads
      refine ⟨(Record.realStorageId_of_not_isLink own).symm, held, row, ?_, own, rfl⟩
      rw [hasKey]
      exact found

/-- What a new link is made to: a live row of another owner that owns bytes which are there. -/
theorem Store.WellFormed.source (wellFormed : s.WellFormed used) (free : CollisionFree used)
    (mem : (owner, hash) ∈ used) {target : Record} (source : e.source? s owner hash = some target) :
    s.find? target.storageId = some target ∧ target.isLink = false ∧
      target.sha256 = hash.hex ∧ e.holds target.storageId = true ∧ target.storageId ≠ "" ∧
      target.storageId ≠ storageId owner hash := by
  obtain ⟨candidate, held⟩ := e.source?_some source
  obtain ⟨old, content, foreign, live, own⟩ := mem_candidates_iff.mp candidate
  obtain ⟨hash', -, -, keyed⟩ := wellFormed.keyed target old
  refine ⟨wellFormed.distinct.find?_eq_some_iff.mpr ⟨old, rfl, live⟩, own, content, held, ?_, ?_⟩
  · rw [keyed]
    exact storageId_ne_empty _ _
  · exact fun same => foreign (wellFormed.of_key free mem old same).1

/-- A new link is a link to its target, and both rows are live. -/
theorem Store.WellFormed.linkTo (wellFormed : s.WellFormed used) (free : CollisionFree used)
    (mem : (owner, hash) ∈ used) (given : Option String) (now : Time.Instant) {target : Record}
    (source : e.source? s owner hash = some target) :
    let d := s.linkTo owner hash given target
    (s.written d now).isLink = true ∧ (s.written d now).owner = owner ∧
      (s.written d now).realStorageId = target.storageId ∧
      (s.put d now).find? (storageId owner hash) = some (s.written d now) ∧
      (s.put d now).find? target.storageId = some target := by
  intro d
  obtain ⟨live, -, -, -, named, apart⟩ := wellFormed.source free mem source
  have isLink : (s.written d now).isLink = true := by
    rw [isLink_written]
    exact decide_eq_true named
  have agree := wellFormed.agree free mem (wellFormed.isFor_linkTo given source)
  refine ⟨isLink, owner_written agree, ?_, ?_, ?_⟩
  · rw [Record.realStorageId_of_isLink isLink, linkedObject_written]
    rfl
  · rw [find?_put]
    exact if_pos rfl
  · rw [find?_put]
    exact (if_neg apart).trans live

/-- What is awarded for reading is where the row leads. -/
theorem Award.Sound.leads (sound : w.Sound e s caller hash) (wellFormed : s.WellFormed used)
    (free : CollisionFree used) (mem : (caller.owner, hash) ∈ used) {id : String}
    (reads : w.readFrom = some id) : e.bytesOf? s w.record = some id := by
  obtain ⟨real, held, target, live, own, content⟩ := sound.reads id reads
  obtain ⟨row, hasKey, -⟩ := Store.find?_some sound.live
  have digits := (wellFormed.of_key free mem row hasKey).2
  cases isLink : w.record.isLink with
  | false =>
      rw [Record.realStorageId_of_not_isLink isLink] at real
      rw [e.bytesOf?_own isLink, ← real, if_pos held]
  | true =>
      rw [Record.realStorageId_of_isLink isLink] at real
      have aims : s.target? w.record = some target :=
        Store.target?_eq_some_iff.mpr ⟨real ▸ live, own, content.trans digits.symm⟩
      have named := (Store.find?_some live).2.1
      rw [e.bytesOf?_link isLink aims, named, if_pos held]

/-! ### Every award for what was found is sound -/

theorem Resolves.sound {autoLink : Bool} {given : Option String} {r : Resolution}
    (resolves : Resolves e s caller.owner hash autoLink given r s') (wellFormed : s.WellFormed used)
    (free : CollisionFree used) (mem : (caller.owner, hash) ∈ used) :
    r.award.Sound e s' caller hash := by
  cases resolves with
  | @backed row found own held =>
      obtain ⟨old, hasKey, -⟩ := Store.find?_some found
      obtain ⟨owned, content⟩ := wellFormed.of_key free mem old hasKey
      refine ⟨found, owned, ?_, fun reads => nomatch reads⟩
      rintro id ⟨⟩
      refine ⟨(Record.realStorageId_of_not_isLink own).symm, held, row, ?_, own, content⟩
      rw [hasKey]
      exact found
  | @link row target found isLink leads held =>
      obtain ⟨old, hasKey, -⟩ := Store.find?_some found
      obtain ⟨owned, content⟩ := wellFormed.of_key free mem old hasKey
      have bytes : e.bytesOf? s row = some target.storageId := by
        rw [e.bytesOf?_link isLink leads, if_pos held]
      refine ⟨found, owned, ?_, fun reads => nomatch reads⟩
      rintro id ⟨⟩
      rw [← content]
      exact Surroundings.bytesOf?_sound found bytes
  | linked _ _ source =>
      obtain ⟨isLink, owned, real, live, aim⟩ := wellFormed.linkTo free mem given e.now source
      obtain ⟨-, own, content, held, -⟩ := wellFormed.source free mem source
      refine ⟨live, owned, ?_, fun reads => nomatch reads⟩
      rintro id ⟨⟩
      exact ⟨real.symm, held, _, aim, own, content⟩

/-- A row written to wait for its bytes is the caller's to write. -/
theorem Store.WellFormed.sound_put {d : Draft} (wellFormed : s.WellFormed used)
    (free : CollisionFree used) (mem : (caller.owner, hash) ∈ used)
    (drafted : d.IsFor caller.owner hash) (own : d.linkedObject = "") :
    (Award.mk (s.written d e.now) none true).Sound e (s.put d e.now) caller hash := by
  refine ⟨?_, ?_, (fun id reads => nomatch reads), fun _ => ⟨?_, rfl⟩⟩
  · rw [find?_put]
    exact if_pos drafted.key.symm
  · exact (owner_written (wellFormed.agree free mem drafted)).trans drafted.owned
  · rw [isLink_written]
    exact decide_eq_false fun linked => linked own

theorem Registers.sound {m : Metadata} {autoLink created : Bool}
    (registers : Registers e s caller hash m autoLink w created s')
    (wellFormed : s.WellFormed used) (free : CollisionFree used)
    (mem : (caller.owner, hash) ∈ used) : w.Sound e s' caller hash := by
  cases registers with
  | known found owned leads =>
      obtain ⟨old, hasKey, -⟩ := Store.find?_some found
      refine ⟨found, owned, ?_, fun reads => nomatch reads⟩
      rintro id ⟨⟩
      rw [← (wellFormed.of_key free mem old hasKey).2]
      exact Surroundings.bytesOf?_sound found leads
  | relinked _ _ _ _ resolves => exact resolves.sound wellFormed free mem
  | linked _ _ resolves => exact resolves.sound wellFormed free mem
  | repaired found _ _ _ sized _ =>
      obtain ⟨old, -, -⟩ := Store.find?_some found
      have nonneg := Metadata.sizeFor_nonneg sized (wellFormed.sized _ old)
      exact wellFormed.sound_put free mem (wellFormed.isFor_revised free mem found nonneg) rfl
  | created _ _ sized _ =>
      exact wellFormed.sound_put free mem ⟨rfl, rfl, rfl, Metadata.size_nonneg sized⟩ rfl

theorem Registers.wellFormed {m : Metadata} {autoLink created : Bool}
    (registers : Registers e s caller hash m autoLink w created s')
    (wellFormed : s.WellFormed used) (free : CollisionFree used)
    (mem : (caller.owner, hash) ∈ used) : s'.WellFormed used := by
  have effect : Effect e s caller.owner (· = hash) s' := registers.effect wellFormed free mem rfl
  refine effect.wellFormed wellFormed fun hash' named => ?_
  rw [named]
  exact mem

/-- Registering awards reading or writing, never both: where bytes are found under the caller's
own row, the row is confirmed before anything is resolved. -/
theorem Registers.one {m : Metadata} {autoLink created : Bool}
    (registers : Registers e s caller hash m autoLink w created s')
    (sound : w.Sound e s' caller hash) :
    w.readFrom.isSome = !(w.writable && !w.record.isLink) := by
  have written : w.readFrom = none → w.readFrom.isSome = !(w.writable && !w.record.isLink) := by
    intro none
    obtain ⟨own, writable⟩ := sound.writes none
    rw [none, own, writable]
    rfl
  cases registers with
  | known => rfl
  | @relinked row r _ found _ misses _ resolves =>
      cases resolves with
      | @backed row' found' own held =>
          cases Option.some.inj (found'.symm.trans found)
          rcases misses with lost | ⟨isLink, -⟩
          · rw [e.bytesOf?_own own, if_pos held] at lost
            cases lost
          · rw [own] at isLink
            cases isLink
      | link => rfl
      | linked => rfl
  | linked found _ resolves =>
      cases resolves with
      | backed found' => exact nomatch found'.symm.trans found
      | link => rfl
      | linked => rfl
  | repaired => exact written rfl
  | created => exact written rfl

theorem Fetches.sound {autoLink : Bool} (fetches : Fetches e s caller hash autoLink w s')
    (wellFormed : s.WellFormed used) (free : CollisionFree used)
    (mem : (caller.owner, hash) ∈ used) : w.Sound e s' caller hash := by
  cases fetches with
  | resolved resolves => exact resolves.sound wellFormed free mem
  | waiting found own owned =>
      exact ⟨found, owned, (fun id reads => nomatch reads), fun _ => ⟨own, rfl⟩⟩

/-- Fetching awards writing exactly for a record that owns its bytes. -/
theorem Fetches.writes_iff {autoLink : Bool} (fetches : Fetches e s caller hash autoLink w s')
    (wellFormed : s.WellFormed used) (free : CollisionFree used)
    (mem : (caller.owner, hash) ∈ used) :
    (w.writable && !w.record.isLink) = true ↔ w.record.isLink = false := by
  cases fetches with
  | waiting _ own => simp [own]
  | resolved resolves =>
      cases resolves with
      | backed _ own => simp [Resolution.award, own]
      | link _ isLink => simp [Resolution.award, isLink]
      | linked _ _ source =>
          have isLink := (wellFormed.linkTo free mem none e.now source).1
          simp [Resolution.award, isLink]

/-- Fetching awards no reading exactly where the bytes of a record that owns them are missing. -/
theorem Fetches.waits_iff {autoLink : Bool} (fetches : Fetches e s caller hash autoLink w s')
    (wellFormed : s.WellFormed used) (free : CollisionFree used)
    (mem : (caller.owner, hash) ∈ used) (candid : e.Candid) :
    w.readFrom = none ↔ w.record.isLink = false ∧ e.holds w.record.storageId = false := by
  cases fetches with
  | waiting _ own _ missing => exact iff_of_true rfl ⟨own, missing candid⟩
  | resolved resolves =>
      cases resolves with
      | backed _ _ held => simp [Resolution.award, held]
      | link _ isLink => simp [Resolution.award, isLink]
      | linked _ _ source =>
          have isLink := (wellFormed.linkTo free mem none e.now source).1
          simp [Resolution.award, isLink]

/-! ### Registering and fetching -/

/-- **Registering and fetching grant soundly and completely.** In a reachable store, what either
of them answers for some content concerns the caller's live row of it; a grant for reading opens
bytes that are there, under a live row that owns them, and without one the caller may write.
Registering gives exactly one of the two grants. Fetching grants writing exactly for a record that
owns its bytes, and withholds reading exactly where those are missing. -/
theorem grants_sound_and_complete (free : CollisionFree used) (reachable : Reachable used s)
    {text : String} (parsed : ContentHash.parse text = .ok hash)
    (mem : (caller.owner, hash) ∈ used) (e : Surroundings) (n : Journal) :
    (∀ m autoLink a, (Operation.register caller text m autoLink e ⟨s, n⟩).1 = .ok a →
      a.granted.Sound e (Operation.register caller text m autoLink e ⟨s, n⟩).2.store caller hash ∧
        a.granted.read.isSome = !a.granted.write.isSome) ∧
    ∀ autoLink g, (Operation.fetch caller text autoLink e ⟨s, n⟩).1 = .ok g →
      g.Sound e (Operation.fetch caller text autoLink e ⟨s, n⟩).2.store caller hash ∧
        (g.write.isSome ↔ g.record.isLink = false) ∧
        (e.Candid →
          (g.read = none ↔ g.record.isLink = false ∧ e.holds g.record.storageId = false)) := by
  have wellFormed := reachable.wellFormed free
  constructor
  · intro m autoLink a answered
    have ends : (Operation.register caller text m autoLink).Ensures e s
        (fun a s' => a.granted.Sound e s' caller hash ∧
          a.granted.read.isSome = !a.granted.write.isSome) fun _ _ => True := by
      refine Operation.ensures_register (fun hash' w created s' parsed' registers => ?_)
        fun _ => trivial
      cases Except.ok.inj (parsed'.symm.trans parsed)
      have sound := registers.sound wellFormed free mem
      refine Operation.ensures_award (fun expiresAt _ => ⟨sound.granted, ?_⟩) fun _ => trivial
      rw [Award.read_granted, Award.write_granted sound.owned]
      exact registers.one sound
    exact ends.answered answered
  · intro autoLink g answered
    have ends : (Operation.fetch caller text autoLink).Ensures e s
        (fun g s' => g.Sound e s' caller hash ∧ (g.write.isSome ↔ g.record.isLink = false) ∧
          (e.Candid →
            (g.read = none ↔ g.record.isLink = false ∧ e.holds g.record.storageId = false)))
        fun _ _ => True := by
      refine Operation.ensures_fetch (fun hash' w s' parsed' fetches => ?_)
        (fun _ _ _ _ _ _ => trivial) fun _ => trivial
      cases Except.ok.inj (parsed'.symm.trans parsed)
      have sound := fetches.sound wellFormed free mem
      refine Operation.ensures_award (fun expiresAt _ => ⟨sound.granted, ?_, fun candid => ?_⟩)
        fun _ => trivial
      · rw [Award.write_granted sound.owned]
        exact fetches.writes_iff wellFormed free mem
      · rw [← Option.isNone_iff_eq_none, ← Option.not_isSome, Award.read_granted,
          Option.not_isSome, Option.isNone_iff_eq_none]
        exact fetches.waits_iff wellFormed free mem candid
    exact ends.answered answered

end Awards

/-- Ann is to bring the bytes; once they are there Bob reads them through a link to her record, and
can never write them. -/
theorem grants_sound_and_complete_linking :
    let brought :=
      Operation.register .ann ContentHash.zeros.hex .empty false (.calm .empty) ⟨.empty, 0⟩
    let linked := Operation.register .bob ContentHash.zeros.hex .empty true .stocked ⟨.annAlone, 0⟩
    let fetched := Operation.fetch .bob ContentHash.zeros.hex false .stocked ⟨.freshLink, 0⟩
    (∃ a, brought.1 = .ok a ∧ a.granted.Sound (.calm .empty) brought.2.store .ann .zeros ∧
      a.granted.read.isSome = !a.granted.write.isSome) ∧
    (∃ a, linked.1 = .ok a ∧ a.granted.Sound .stocked linked.2.store .bob .zeros ∧
      a.granted.record.isLink = true ∧ a.granted.read.isSome = true ∧
      a.granted.write.isSome = false) ∧
    ∃ g, fetched.1 = .ok g ∧ g.Sound .stocked fetched.2.store .bob .zeros ∧
      g.record.isLink = true ∧ g.read.isSome = true ∧ g.write.isSome = false := by
  dsimp only
  have parsed := ContentHash.zeros.parse_hex
  have mem : (Caller.bob.owner, ContentHash.zeros) ∈
      ({("ann", .zeros), ("bob", .zeros)} : Set _) := Set.mem_insert_of_mem _ rfl
  obtain ⟨⟨a, granted, reads⟩, g, refetched, rereads⟩ := Store.freshLink_read
  obtain ⟨isLink, read⟩ := Bool.and_eq_true_iff.mp reads
  obtain ⟨isLink', read'⟩ := Bool.and_eq_true_iff.mp rereads
  refine ⟨?_, ⟨a, granted, ?_⟩, g, refetched, ?_⟩
  · have answered := congrArg Prod.fst (Operation.register_first .empty rfl)
    exact ⟨_, answered, (grants_sound_and_complete (collisionFree_singleton _) .empty parsed rfl
      (.calm .empty) 0).1 .empty false _ answered⟩
  · obtain ⟨sound, one⟩ := (grants_sound_and_complete collisionFree_zeros
      (Store.reachable_annAlone (Set.mem_insert _ _)) parsed mem .stocked 0).1 .empty true a granted
    rw [read] at one
    exact ⟨sound, isLink, read, by simpa using one⟩
  · obtain ⟨sound, writes, -⟩ := (grants_sound_and_complete collisionFree_zeros
      Store.reachable_freshLink parsed mem .stocked 0).2 false g refetched
    rw [isLink'] at writes
    exact ⟨sound, isLink', read', by simpa using writes⟩

end ContentStore
