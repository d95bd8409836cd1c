import ContentStore.Proofs.Actions
import ContentStore.Proofs.Rows

/-!
# Reachable stores

A store is reachable if some sequence of actions leads to it from the empty store: each action by
any caller, in any surroundings (clock, bytes present, outages), with plans set in between.
`Action.effect` lists everything that one action can do to the store. From it follows that every
reachable store is well-formed: keys are distinct, each row stands under the key of its owner and
its content, and no size is negative.
-/

namespace ContentStore

/-! ### Runs -/

/-- The stores that a run leads to in which every action is `allowed` in its surroundings. -/
inductive ReachableUnder (allowed : Surroundings → Store → Prop)
    (used : Set (String × ContentHash)) : Store → Prop where
  | empty : ReachableUnder allowed used Store.empty
  | act {s : Store} {e : Surroundings} {caller : Caller} {a : Action} :
      ReachableUnder allowed used s → allowed e s → a.Within caller used →
      ReachableUnder allowed used (a.after caller e s)
  | plan {s : Store} {owner : String} {plan : Plan} :
      ReachableUnder allowed used s → ReachableUnder allowed used (s.setPlan owner plan)

/-- The stores that any run leads to. -/
def Reachable (used : Set (String × ContentHash)) : Store → Prop :=
  ReachableUnder (fun _ _ => True) used

theorem ReachableUnder.mono {allowed allowed' : Surroundings → Store → Prop}
    {used : Set (String × ContentHash)} {s : Store} (reachable : ReachableUnder allowed used s)
    (weaker : ∀ e s, allowed e s → allowed' e s) : ReachableUnder allowed' used s := by
  induction reachable with
  | empty => exact .empty
  | act _ able within ih => exact .act ih (weaker _ _ able) within
  | plan _ ih => exact .plan ih

/-! ### A small world -/

/-- The hash of zeros. -/
def ContentHash.zeros : ContentHash :=
  ⟨List.replicate 32 0, List.length_replicate⟩

def Caller.ann : Caller :=
  ⟨"ann", "ann", .user⟩

def Caller.bob : Caller :=
  ⟨"bob", "bob", .user⟩

/-- Surroundings in which every call is carried out, with the bytes of a file tree. -/
def Surroundings.calm (tree : FileTree) : Surroundings where
  now := ⟨0, 0⟩
  backend := .fileTree "/" tree
  connection := .ready
  defaultPlan := ⟨"standard", 100⟩
  issuer := ⟨"", "", 3600, ""⟩
  outage := fun _ _ => none

/-- Surroundings with the bytes of one owner. -/
def Surroundings.stocked : Surroundings :=
  .calm ⟨[((storagePath? (storageId "ann" .zeros)).map FileTree.names).getD []], []⟩

set_option maxRecDepth 10000 in
/-- Two owners have different keys for the hash of zeros. -/
theorem collisionFree_zeros : CollisionFree {("ann", ContentHash.zeros), ("bob", .zeros)} :=
  collisionFree_pair (by decide +kernel)

/-- Ann is the first to register anything: the hash of zeros, with a size of zero. -/
theorem Operation.register_first (m : Metadata) (sized : m.size = .ok 0) :
    register .ann ContentHash.zeros.hex m false (.calm .empty) ⟨.empty, 0⟩ =
      (.ok ⟨(Award.mk (Store.empty.written (ownDraft "ann" .zeros m 0) ⟨0, 0⟩) none true).granted
          (.calm .empty) .ann ⟨3600, 0⟩, true⟩,
        ⟨Store.empty.put (ownDraft "ann" .zeros m 0) ⟨0, 0⟩, .calling 0 4⟩) := by
  rw [register, bind_run, ContentHash.require_eq_ok_iff.mpr ContentHash.zeros.parse_hex, sized]
  rfl

theorem after_first (m : Metadata) (sized : m.size = .ok 0) :
    (Action.register ContentHash.zeros.hex m false).after .ann (.calm .empty) .empty =
      Store.empty.put (ownDraft "ann" .zeros m 0) ⟨0, 0⟩ := by
  rw [Action.after, Operation.left, Operation.register_first m sized]

/-- An action whose texts are the digits of some contents names only these. -/
theorem Action.within_of_texts {a : Action} {caller : Caller} {used : Set (String × ContentHash)}
    (hashes : List ContentHash) (spelled : a.texts = hashes.map (·.hex))
    (mem : ∀ hash ∈ hashes, (caller.owner, hash) ∈ used) : a.Within caller used := by
  rintro hash ⟨text, isText, parsed⟩
  rw [spelled] at isText
  obtain ⟨hash', isHash, rfl⟩ := List.mem_map.mp isText
  rw [ContentHash.parse_hex] at parsed
  rw [← Except.ok.inj parsed]
  exact mem hash' isHash

/-- Ann alone has registered the hash of zeros. -/
def Store.annAlone : Store :=
  Store.empty.put (ownDraft "ann" .zeros .empty 0) ⟨0, 0⟩

/-- The one row. -/
def Record.annsZeros : Record :=
  (ownDraft "ann" .zeros .empty 0).fresh (Uuid.numbered 0) ⟨0, 0⟩

theorem Store.rows_annAlone : annAlone.rows = [.annsZeros] :=
  rfl

theorem Store.reachable_annAlone {used : Set (String × ContentHash)}
    (mem : ("ann", .zeros) ∈ used) : Reachable used .annAlone := by
  rw [annAlone, ← after_first .empty rfl]
  exact .act .empty trivial (Action.within_of_texts [.zeros] rfl (by simpa [Caller.ann] using mem))

/-- Bob has a link to a record of Ann's, the bytes of which are there. -/
def Store.freshLink : Store :=
  (Action.register ContentHash.zeros.hex .empty true).after .bob .stocked <|
    (Action.register ContentHash.zeros.hex .empty false).after .ann .stocked .empty

theorem Store.reachable_freshLink : Reachable {("ann", .zeros), ("bob", .zeros)} .freshLink := by
  refine .act (.act .empty trivial ?_) trivial ?_
  · exact Action.within_of_texts [.zeros] rfl (by simp [Caller.ann])
  · exact Action.within_of_texts [.zeros] rfl (by simp [Caller.bob])

/-- A run that ends with an answer of this kind has an answer. -/
theorem exists_ok_of_any {ε α : Type} {result : Except ε α} {p : α → Bool}
    (any : result.toOption.any p = true) : ∃ a, result = .ok a ∧ p a = true := by
  obtain ⟨a, ok, holds⟩ := (Option.any_eq_true _ _).mp any
  cases result with
  | error failure => cases ok
  | ok _ =>
      cases ok
      exact ⟨a, rfl, holds⟩

set_option maxRecDepth 10000 in
/-- Bob is granted reading through his link, when he makes it and when he comes back to it. -/
theorem Store.freshLink_read :
    (∃ a, (Operation.register .bob ContentHash.zeros.hex .empty true .stocked
        ⟨.annAlone, 0⟩).1 = .ok a ∧ (a.granted.record.isLink && a.granted.read.isSome) = true) ∧
      ∃ g, (Operation.fetch .bob ContentHash.zeros.hex false .stocked ⟨.freshLink, 0⟩).1 = .ok g ∧
        (g.record.isLink && g.read.isSome) = true :=
  ⟨exists_ok_of_any (by decide +kernel), exists_ok_of_any (by decide +kernel)⟩

set_option maxRecDepth 10000 in
/-- Where the bytes that Bob's link leads to are gone, he is to bring them himself. -/
theorem Store.freshLink_repaired :
    ∃ first, (Operation.register .bob ContentHash.zeros.hex .empty false (.calm .empty)
        ⟨.freshLink, 0⟩).1 = .ok first ∧
      (!first.created && first.granted.write.any (·.method == .put)) = true :=
  exists_ok_of_any (by decide +kernel)

/-! ### Well-formed stores -/

/-- A draft of an owner's row for some content. -/
structure Draft.IsFor (d : Draft) (owner : String) (hash : ContentHash) : Prop where
  key : d.storageId = ContentStore.storageId owner hash
  owned : d.owner = owner
  content : d.sha256 = hash.hex
  sized : 0 ≤ d.size

/-- The row stands under the key of its owner and its content. -/
def Record.Keyed (used : Set (String × ContentHash)) (r : Record) : Prop :=
  ∃ hash, (r.owner, hash) ∈ used ∧ r.sha256 = hash.hex ∧
    r.storageId = ContentStore.storageId r.owner hash

/-- What holds of the rows of every reachable store. -/
structure Store.WellFormed (used : Set (String × ContentHash)) (s : Store) : Prop where
  distinct : s.Distinct
  keyed : ∀ r ∈ s.rows, r.Keyed used
  sized : ∀ r ∈ s.rows, 0 ≤ r.size

namespace Store.WellFormed

variable {used : Set (String × ContentHash)} {s : Store} {owner : String} {hash : ContentHash}
  {r : Record} {d : Draft} {now : Time.Instant}

theorem empty : Store.empty.WellFormed used where
  distinct := List.nodup_nil
  keyed := fun _ mem => nomatch mem
  sized := fun _ mem => nomatch mem

/-- The key tells the owner and the content of a row. -/
theorem of_key (wellFormed : s.WellFormed used) (free : CollisionFree used)
    (mem : (owner, hash) ∈ used) (row : r ∈ s.rows) (hasKey : r.storageId = storageId owner hash) :
    r.owner = owner ∧ r.sha256 = hash.hex := by
  obtain ⟨hash', mem', content, keyed⟩ := wellFormed.keyed r row
  obtain ⟨sameOwner, sameHash⟩ := free.storageId_inj mem' mem (keyed.symm.trans hasKey)
  exact ⟨sameOwner, by rw [content, sameHash]⟩

/-- The owner and the content of a row tell its key. -/
theorem key_of_content (wellFormed : s.WellFormed used) (row : r ∈ s.rows)
    (content : r.sha256 = hash.hex) :
    (r.owner, hash) ∈ used ∧ r.storageId = storageId r.owner hash := by
  obtain ⟨hash', mem, content', keyed⟩ := wellFormed.keyed r row
  cases ContentHash.hex_injective (content'.symm.trans content)
  exact ⟨mem, keyed⟩

/-- No size that counts is negative. -/
theorem counted_nonneg (wellFormed : s.WellFormed used) (excluding : List String) :
    ∀ n ∈ (s.counted owner excluding).map (·.size), 0 ≤ n := by
  intro n mem
  obtain ⟨r, counts, rfl⟩ := List.mem_map.mp mem
  exact wellFormed.sized r (List.mem_filter.mp counts).1

/-- Only the owner has rows under the owner's keys. -/
theorem agree (wellFormed : s.WellFormed used) (free : CollisionFree used)
    (mem : (owner, hash) ∈ used) (drafted : d.IsFor owner hash) :
    ∀ r ∈ s.rows, r.storageId = d.storageId → r.owner = d.owner := by
  intro r row hasKey
  rw [drafted.owned]
  exact (wellFormed.of_key free mem row (hasKey.trans drafted.key)).1

theorem put (wellFormed : s.WellFormed used) (mem : (owner, hash) ∈ used)
    (drafted : d.IsFor owner hash) : (s.put d now).WellFormed used := by
  refine ⟨wellFormed.distinct.put, fun r row => ?_, fun r row => ?_⟩
  · rcases mem_put_iff.mp row with rfl | ⟨old, -⟩
    · rcases written_cases s d now with ⟨-, eq⟩ | ⟨row', old, -, eq⟩
      · rw [eq]
        refine ⟨hash, ?_, drafted.content, ?_⟩
        · rw [Draft.fresh, drafted.owned]
          exact mem
        · rw [Draft.fresh, drafted.owned, drafted.key]
      · rw [eq]
        exact wellFormed.keyed row' old
    · exact wellFormed.keyed r old
  · rcases mem_put_iff.mp row with rfl | ⟨old, -⟩
    · rw [size_written]
      exact drafted.sized
    · exact wellFormed.sized r old

theorem markGarbage {key : String} (wellFormed : s.WellFormed used) :
    (s.markGarbage key now).WellFormed used := by
  refine ⟨wellFormed.distinct.markGarbage, fun r row => ?_, fun r row => ?_⟩
  · rcases mem_markGarbage_iff.mp row with ⟨r', old, -, -, rfl⟩ | ⟨old, -⟩
    · exact wellFormed.keyed r' old
    · exact wellFormed.keyed r old
  · rcases mem_markGarbage_iff.mp row with ⟨r', old, -, -, rfl⟩ | ⟨old, -⟩
    · exact wellFormed.sized r' old
    · exact wellFormed.sized r old

theorem setPlan {plan : Plan} (wellFormed : s.WellFormed used) :
    (s.setPlan owner plan).WellFormed used :=
  ⟨wellFormed.distinct, wellFormed.keyed, wellFormed.sized⟩

end Store.WellFormed

/-! ### What one action does -/

/-- What an action that names some contents can do to the rows of its owner. -/
inductive Effect (e : Surroundings) (s : Store) (owner : String) (names : ContentHash → Prop) :
    Store → Prop where
  | nothing : Effect e s owner names s
  /-- A row gets new metadata and keeps its size. -/
  | renamed {hash : ContentHash} {row : Record} {d : Draft} :
      names hash → s.find? (storageId owner hash) = some row → d.IsFor owner hash →
      d.size = row.size → Effect e s owner names (s.put d e.now)
  /-- A row that owns its bytes is written. -/
  | sized {hash : ContentHash} {d : Draft} :
      names hash → d.IsFor owner hash → d.linkedObject = "" →
      e.Admits s owner [storageId owner hash] d.size → Effect e s owner names (s.put d e.now)
  /-- A link to the bytes of another owner is written. -/
  | linked {hash : ContentHash} {given : Option String} {target : Record} :
      names hash → (s.linkTo owner hash given target).IsFor owner hash →
      e.source? s owner hash = some target →
      e.Admits s owner [storageId owner hash] target.size →
      Effect e s owner names (s.put (s.linkTo owner hash given target) e.now)
  /-- A row for new content is written, and the old one becomes garbage. -/
  | moved {hash newHash : ContentHash} {d : Draft} :
      names hash → names newHash → newHash ≠ hash → d.IsFor owner newHash →
      d.linkedObject = "" →
      e.Admits s owner [storageId owner hash, storageId owner newHash] d.size →
      Effect e s owner names ((s.put d e.now).markGarbage (storageId owner hash) e.now)
  /-- A move that stops before the old row becomes garbage. -/
  | doubled {hash newHash : ContentHash} {d : Draft} {f : Failure} :
      names hash → names newHash → newHash ≠ hash → d.IsFor owner newHash →
      d.linkedObject = "" →
      e.Admits s owner [storageId owner hash, storageId owner newHash] d.size →
      e.Answers (.write (storageId owner newHash)) → e.Stops (.erase (storageId owner hash)) f →
      Effect e s owner names (s.put d e.now)
  | erased {hash : ContentHash} :
      names hash → Effect e s owner names (s.markGarbage (storageId owner hash) e.now)

theorem Metadata.size_nonneg {m : Metadata} {n : Int} (sized : m.size = .ok n) : 0 ≤ n := by
  unfold size normalizeSize at sized
  split at sized
  · cases sized
  · split at sized
    · cases sized
    · next nonneg =>
        cases sized
        exact Int.not_lt.mp nonneg

theorem Metadata.sizeFor_nonneg {m : Metadata} {row : Record} {n : Int}
    (sized : m.sizeFor row = .ok n) (old : 0 ≤ row.size) : 0 ≤ n := by
  unfold sizeFor at sized
  split at sized
  · exact size_nonneg sized
  · cases sized
    exact old

section Effects

variable {used : Set (String × ContentHash)} {e : Surroundings} {s s' : Store} {caller : Caller}
  {hash : ContentHash} {names : ContentHash → Prop} {owner : String}

/-- The live row found under an owner's key is drafted anew as that owner's row. -/
theorem Store.WellFormed.isFor_revised {row : Record} {m : Metadata} {size : Int}
    (wellFormed : s.WellFormed used) (free : CollisionFree used) (mem : (owner, hash) ∈ used)
    (found : s.find? (storageId owner hash) = some row) (nonneg : 0 ≤ size) :
    (row.revised m size).IsFor owner hash := by
  obtain ⟨old, hasKey, -⟩ := find?_some found
  obtain ⟨owned, content⟩ := wellFormed.of_key free mem old hasKey
  exact ⟨hasKey, owned, content, nonneg⟩

theorem Store.WellFormed.isFor_renamed {row : Record} {m : Metadata}
    (wellFormed : s.WellFormed used) (free : CollisionFree used) (mem : (owner, hash) ∈ used)
    (found : s.find? (storageId owner hash) = some row) : (row.renamed m).IsFor owner hash := by
  obtain ⟨old, hasKey, -⟩ := find?_some found
  obtain ⟨owned, content⟩ := wellFormed.of_key free mem old hasKey
  exact ⟨hasKey, owned, content, wellFormed.sized row old⟩

theorem Store.WellFormed.isFor_linkTo (wellFormed : s.WellFormed used) (given : Option String)
    {target : Record} (source : e.source? s owner hash = some target) :
    (s.linkTo owner hash given target).IsFor owner hash :=
  ⟨rfl, rfl, rfl, wellFormed.sized target (mem_candidates_iff.mp (e.source?_some source).1).1⟩

theorem Resolves.effect {autoLink : Bool} {given : Option String} {r : Resolution}
    (resolves : Resolves e s owner hash autoLink given r s') (wellFormed : s.WellFormed used)
    (named : names hash) : Effect e s owner names s' := by
  cases resolves with
  | backed => exact .nothing
  | link => exact .nothing
  | linked _ _ source admits =>
      exact .linked named (wellFormed.isFor_linkTo _ source) source admits

theorem Registers.effect {m : Metadata} {autoLink created : Bool} {w : Award}
    (registers : Registers e s caller hash m autoLink w created s')
    (wellFormed : s.WellFormed used) (free : CollisionFree used)
    (mem : (caller.owner, hash) ∈ used) (named : names hash) :
    Effect e s caller.owner names s' := by
  cases registers with
  | known => exact .nothing
  | relinked _ _ _ _ resolves => exact resolves.effect wellFormed named
  | linked _ _ resolves => exact resolves.effect wellFormed named
  | repaired found _ _ _ sized admits =>
      obtain ⟨old, hasKey, -⟩ := Store.find?_some found
      rw [hasKey] at admits
      have nonneg := Metadata.sizeFor_nonneg sized (wellFormed.sized _ old)
      exact .sized named (wellFormed.isFor_revised free mem found nonneg) rfl admits
  | created _ _ sized admits =>
      exact .sized named ⟨rfl, rfl, rfl, Metadata.size_nonneg sized⟩ rfl admits

theorem Fetches.effect {autoLink : Bool} {w : Award}
    (fetches : Fetches e s caller hash autoLink w s') (wellFormed : s.WellFormed used)
    (named : names hash) : Effect e s caller.owner names s' := by
  cases fetches with
  | resolved resolves => exact resolves.effect wellFormed named
  | waiting => exact .nothing

/-- A text that a revision moves to names the content. -/
theorem Revision.text_of_moveTo? {revision : Revision} {newHash : ContentHash}
    (moves : revision.moveTo? hash = some newHash) :
    ∃ text, revision.newHash = some text ∧ ContentHash.parse text = .ok newHash := by
  unfold Revision.moveTo? at moves
  obtain ⟨parsed, -⟩ := Option.filter_eq_some_iff.mp moves
  obtain ⟨text, given, parsed⟩ := Option.bind_eq_some_iff.mp parsed
  refine ⟨text, given, ?_⟩
  cases result : ContentHash.parse text with
  | error fault => simp [result, Except.toOption] at parsed
  | ok h =>
      rw [result, Except.toOption, Option.some.injEq] at parsed
      rw [parsed]

theorem MoveReady.isFor {newHash : ContentHash} {m : Metadata} {row : Record} {size : Int}
    (ready : MoveReady e s caller hash newHash m row size) (wellFormed : s.WellFormed used) :
    (row.moved caller.owner newHash m size).IsFor caller.owner newHash := by
  obtain ⟨old, -, -⟩ := Store.find?_some ready.live
  exact ⟨rfl, rfl, rfl, Metadata.sizeFor_nonneg ready.sized (wellFormed.sized _ old)⟩

theorem MoveReady.admits_keys {newHash : ContentHash} {m : Metadata} {row : Record} {size : Int}
    (ready : MoveReady e s caller hash newHash m row size) :
    e.Admits s caller.owner [storageId caller.owner hash, storageId caller.owner newHash] size := by
  rw [← (Store.find?_some ready.live).2.1]
  exact ready.admits

/-- After a move the new row is live and the old row is garbage. -/
theorem MoveReady.moved {newHash : ContentHash} {m : Metadata} {row : Record} {size : Int}
    (ready : MoveReady e s caller hash newHash m row size)
    (free : CollisionFree used) (mem : (caller.owner, hash) ∈ used)
    (newMem : (caller.owner, newHash) ∈ used) :
    let d := row.moved caller.owner newHash m size
    let left := (s.put d e.now).markGarbage row.storageId e.now
    left.find? (storageId caller.owner newHash) = some (s.written d e.now) ∧
      left.find? (storageId caller.owner hash) = none ∧
      ∃ r ∈ left.rows, r.storageId = storageId caller.owner hash ∧ r.garbage = true := by
  intro d left
  obtain ⟨old, hasKey, live⟩ := Store.find?_some ready.live
  have apart : storageId caller.owner newHash ≠ row.storageId := fun same =>
    ready.other (free.storageId_inj newMem mem (same.trans hasKey)).2
  refine ⟨?_, ?_, ?_⟩
  · rw [Store.find?_markGarbage, if_neg apart, Store.find?_put]
    exact if_pos rfl
  · rw [Store.find?_markGarbage, if_pos hasKey.symm]
  · have kept : row ∈ (s.put d e.now).rows := Store.mem_put_iff.mpr (Or.inr ⟨old, apart.symm⟩)
    exact ⟨_, Store.mem_markGarbage_iff.mpr (Or.inl ⟨row, kept, rfl, live, rfl⟩), hasKey, rfl⟩

/-- Both contents of a move are named by its texts. -/
theorem names_of_moveTo? {text : String} {revision : Revision} {newHash : ContentHash}
    (parsed : ContentHash.parse text = .ok hash) (moves : revision.moveTo? hash = some newHash) :
    (Action.update text revision).Names hash ∧ (Action.update text revision).Names newHash := by
  obtain ⟨newText, given, newParsed⟩ := Revision.text_of_moveTo? moves
  refine ⟨.first rfl parsed, ⟨newText, List.mem_cons_of_mem _ ?_, newParsed⟩⟩
  simp [given]

theorem Updates.effect {text : String} {revision : Revision} {w : Award}
    (updates : Updates e s caller hash revision w s') (parsed : ContentHash.parse text = .ok hash)
    (wellFormed : s.WellFormed used) (free : CollisionFree used)
    (mem : (caller.owner, hash) ∈ used) :
    Effect e s caller.owner (Action.update text revision).Names s' := by
  have named : (Action.update text revision).Names hash := .first rfl parsed
  cases updates with
  | renamed _ found =>
      exact .renamed named found (wellFormed.isFor_renamed free mem found) rfl
  | revised _ found _ _ sized admits =>
      obtain ⟨old, -, -⟩ := Store.find?_some found
      have nonneg := Metadata.sizeFor_nonneg sized (wellFormed.sized _ old)
      exact .sized named (wellFormed.isFor_revised free mem found nonneg) rfl admits
  | moved moves ready =>
      have both := names_of_moveTo? parsed moves
      rw [(Store.find?_some ready.live).2.1]
      exact .moved both.1 both.2 ready.other (ready.isFor wellFormed) rfl ready.admits_keys

theorem MoveCut.effect {text : String} {revision : Revision} {f : Failure}
    (cut : MoveCut e s caller hash revision f s') (parsed : ContentHash.parse text = .ok hash)
    (wellFormed : s.WellFormed used) :
    Effect e s caller.owner (Action.update text revision).Names s' := by
  cases cut with
  | erase moves ready wrote stops =>
      have both := names_of_moveTo? parsed moves
      rw [(Store.find?_some ready.live).2.1] at stops
      exact .doubled both.1 both.2 ready.other (ready.isFor wellFormed) rfl ready.admits_keys
        wrote stops
  | probe moves ready stops =>
      have both := names_of_moveTo? parsed moves
      rw [(Store.find?_some ready.live).2.1]
      exact .moved both.1 both.2 ready.other (ready.isFor wellFormed) rfl ready.admits_keys

/-- One action has one of the effects listed, whatever it is hit by. -/
theorem Action.effect {a : Action} (wellFormed : s.WellFormed used) (free : CollisionFree used)
    (within : a.Within caller used) : Effect e s caller.owner a.Names (a.after caller e s) := by
  have ends := a.ends caller e s
  generalize a.after caller e s = s' at ends
  cases ends with
  | unchanged => exact .nothing
  | awarded awards =>
      cases awards with
      | @registered text m autoLink _ hash _ _ parsed registers =>
          have named : (Action.register text m autoLink).Names hash := .first rfl parsed
          exact registers.effect wellFormed free (within hash named) named
      | @fetched text autoLink _ _ _ parsed fetches =>
          exact fetches.effect wellFormed (.first rfl parsed)
      | @updated text revision hash _ _ parsed updates =>
          have mem := within hash (.first rfl parsed)
          exact updates.effect parsed wellFormed free mem
  | @denied text autoLink _ _ _ parsed resolves =>
      exact resolves.effect wellFormed (.first rfl parsed)
  | cut parsed cut => exact cut.effect parsed wellFormed
  | @deleted text _ parsed => exact .erased (.first rfl parsed)

/-! ### What all reachable stores have in common -/

theorem Effect.wellFormed (effect : Effect e s owner names s') (wellFormed : s.WellFormed used)
    (within : ∀ hash, names hash → (owner, hash) ∈ used) : s'.WellFormed used := by
  cases effect with
  | nothing => exact wellFormed
  | renamed named _ drafted => exact wellFormed.put (within _ named) drafted
  | sized named drafted => exact wellFormed.put (within _ named) drafted
  | linked named drafted => exact wellFormed.put (within _ named) drafted
  | moved _ newNamed _ drafted => exact (wellFormed.put (within _ newNamed) drafted).markGarbage
  | doubled _ newNamed _ drafted => exact wellFormed.put (within _ newNamed) drafted
  | erased => exact wellFormed.markGarbage

theorem ReachableUnder.wellFormed {allowed : Surroundings → Store → Prop}
    (reachable : ReachableUnder allowed used s) (free : CollisionFree used) :
    s.WellFormed used := by
  induction reachable with
  | empty => exact .empty
  | act _ _ within ih => exact (Action.effect ih free within).wellFormed ih within
  | plan _ ih => exact ih.setPlan

end Effects
end ContentStore
