import ContentStore.Proofs.Grants
import ContentStore.Proofs.Identity
import Mathlib.Logic.Relation

/-!
# The graph of links

Every link names a row of another owner with the same content, and following links from row to row
never comes back to where it began (`Store.LinkGraph`). A target may become a link later, so chains
of any length arise; but a link is only ever made to a row that owns its bytes, that is to a row
without a way on, and such an edge closes no cycle (`acyclic_of_dead_ends`).

A row becomes a link, or a link to something else, only by copying size and type from such a target
(`Surroundings.Copies`); whatever else is done to a link, it keeps these and its target until it
owns its bytes.
-/

namespace ContentStore

/-! ### Paths -/

section Paths

variable {α : Type} {old new : α → α → Prop}

/-- Where every new edge ends at a dead end, a path is an old one or ends at a dead end. -/
theorem transGen_of_dead_ends (edges : ∀ a b, new a b → old a b ∨ ∀ c, ¬new b c) {a b : α}
    (path : Relation.TransGen new a b) : Relation.TransGen old a b ∨ ∀ c, ¬new b c := by
  induction path with
  | single edge =>
      rcases edges _ _ edge with edge | dead
      · exact .inl (.single edge)
      · exact .inr dead
  | tail _ edge ih =>
      rcases ih with path | dead
      · rcases edges _ _ edge with edge | dead
        · exact .inl (.tail path edge)
        · exact .inr dead
      · exact absurd edge (dead _)

/-- New edges that end at dead ends close no cycle. -/
theorem acyclic_of_dead_ends (edges : ∀ a b, new a b → old a b ∨ ∀ c, ¬new b c)
    (acyclic : ∀ a, ¬Relation.TransGen old a a) (a : α) : ¬Relation.TransGen new a a := by
  intro cycle
  rcases transGen_of_dead_ends edges cycle with path | dead
  · exact acyclic a path
  · obtain ⟨c, edge, -⟩ := Relation.TransGen.head'_iff.mp cycle
    exact dead c edge

end Paths

/-! ### Links -/

/-- The row of the one key is a link to the other key. -/
def Store.Links (s : Store) (a b : String) : Prop :=
  ∃ r ∈ s.rows, r.isLink = true ∧ r.storageId = a ∧ r.linkedObject = b

/-- What a link has from its target. -/
def Record.mirrored (r : Record) : Int × String × String :=
  (r.size, r.mimeType, r.linkedObject)

/-- The links of a store name rows of other owners with the same content, and form no cycle. -/
structure Store.LinkGraph (s : Store) : Prop where
  aimed : ∀ r ∈ s.rows, r.isLink = true → ∃ target ∈ s.rows, target.storageId = r.linkedObject ∧
    target.owner ≠ r.owner ∧ target.sha256 = r.sha256
  acyclic : ∀ id, ¬Relation.TransGen s.Links id id

/-- The link has its size and type from a target of another owner that is live, owns its bytes and
has them, before the step from `s` to `s'` and after it. -/
structure Surroundings.Copies (e : Surroundings) (s s' : Store) (link target : Record) : Prop where
  before : target ∈ s.rows
  after : target ∈ s'.rows
  live : target.garbage = false
  own : target.isLink = false
  held : e.holds target.storageId = true
  mirrors : link.mirrored = (target.size, target.mimeType, target.storageId)
  foreign : target.owner ≠ link.owner
  content : target.sha256 = link.sha256

section Graph

variable {used : Set (String × ContentHash)} {e : Surroundings} {s s' : Store} {owner : String}
  {names : ContentHash → Prop} {d : Draft} {r : Record}

theorem Record.isLink_of_mirrored {r r' : Record} (same : r'.mirrored = r.mirrored)
    (isLink : r.isLink = true) : r'.isLink = true := by
  have aims : r'.linkedObject = r.linkedObject := congrArg (·.2.2) same
  rw [Record.isLink, aims]
  exact isLink

/-- Turning a row into garbage changes neither what identifies it nor what it has from a target. -/
theorem Store.exists_of_mem_markGarbage {key : String} {now : Time.Instant}
    (row : r ∈ (s.markGarbage key now).rows) :
    ∃ r' ∈ s.rows, r'.identity = r.identity ∧ r'.mirrored = r.mirrored := by
  rcases mem_markGarbage_iff.mp row with ⟨r', old, -, -, rfl⟩ | ⟨old, -⟩
  · exact ⟨r', old, rfl, rfl⟩
  · exact ⟨r, old, rfl, rfl⟩

/-! ### One write -/

/-- A new link copies from its target. -/
theorem Store.WellFormed.copies_linkTo {hash : ContentHash} {target : Record}
    (wellFormed : s.WellFormed used) (free : CollisionFree used) (mem : (owner, hash) ∈ used)
    (given : Option String) (source : e.source? s owner hash = some target) :
    let d := s.linkTo owner hash given target
    e.Copies s (s.put d e.now) (s.written d e.now) target := by
  intro d
  obtain ⟨found, own, content, held, -, apart⟩ := wellFormed.source free mem source
  obtain ⟨old, -, live⟩ := Store.find?_some found
  have foreign := (mem_candidates_iff.mp (e.source?_some source).1).2.2.1
  -- The written row is the owner's row of that content, also if it was there before.
  have drafted : d.IsFor owner hash := wellFormed.isFor_linkTo given source
  have written : s.written d e.now ∈ (s.put d e.now).rows := mem_put_iff.mpr (.inl rfl)
  have hasKey : (s.written d e.now).storageId = storageId owner hash := storageId_written _ _ _
  have put : (s.put d e.now).WellFormed used := wellFormed.put mem drafted
  obtain ⟨owned, digits⟩ := put.of_key free mem written hasKey
  refine ⟨old, mem_put_iff.mpr (.inr ⟨old, apart⟩), live, own, held, ?_, ?_, ?_⟩
  · rw [Record.mirrored, size_written, mimeType_written, linkedObject_written]
    rfl
  · rw [owned]
    exact foreign
  · rw [digits, content]

/-- A written link was the same link before, or it copies from its target. -/
theorem Draft.Due.link_cases (due : d.Due e s owner names) (wellFormed : s.WellFormed used)
    (free : CollisionFree used) (within : ∀ hash, names hash → (owner, hash) ∈ used)
    (isLink : (s.written d e.now).isLink = true) :
    (∃ r ∈ s.rows, r.identity = (s.written d e.now).identity ∧
        r.mirrored = (s.written d e.now).mirrored) ∨
      ∃ target, e.Copies s (s.put d e.now) (s.written d e.now) target := by
  rw [Store.isLink_written] at isLink
  have aims : d.linkedObject ≠ "" := of_decide_eq_true isLink
  cases due with
  | own => exact absurd rfl aims
  | revised => exact absurd rfl aims
  | moved => exact absurd rfl aims
  | @renamed _ row m _ found =>
      obtain ⟨old, -, -⟩ := Store.find?_some found
      have identity : (s.written (row.renamed m) e.now).identity = row.identity :=
        wellFormed.distinct.identity_written old rfl
      refine .inl ⟨row, old, identity.symm, ?_⟩
      rw [Record.mirrored, Record.mirrored, Store.size_written, Store.mimeType_written,
        Store.linkedObject_written]
      rfl
  | @linked hash given target named source =>
      exact .inr ⟨target, wellFormed.copies_linkTo free (within hash named) given source⟩

/-- After an action, a link was the same link before, or it copies from its target. -/
theorem Writes.link_cases (writes : Writes e s owner names s') (wellFormed : s.WellFormed used)
    (free : CollisionFree used) (within : ∀ hash, names hash → (owner, hash) ∈ used)
    (row : r ∈ s'.rows) (isLink : r.isLink = true) :
    (∃ r' ∈ s.rows, r'.identity = r.identity ∧ r'.mirrored = r.mirrored) ∨
      ∃ target, e.Copies s s' r target := by
  cases writes with
  | nothing => exact .inl ⟨r, row, rfl, rfl⟩
  | row due =>
      rcases Store.mem_put_iff.mp row with rfl | ⟨old, -⟩
      · exact due.link_cases wellFormed free within isLink
      · exact .inl ⟨r, old, rfl, rfl⟩
  | garbage => exact .inl (Store.exists_of_mem_markGarbage row)
  | @moved d key due own =>
      obtain ⟨r', row', identity, mirrored⟩ := Store.exists_of_mem_markGarbage row
      rcases Store.mem_put_iff.mp row' with rfl | ⟨old, -⟩
      · -- The row that was written owns its bytes.
        have stillLink := Record.isLink_of_mirrored mirrored isLink
        rw [Store.isLink_written, own] at stillLink
        cases stillLink
      · exact .inl ⟨r', old, identity, mirrored⟩

/-! ### Runs -/

/-- A target from which a link copies leads nowhere on. -/
theorem Surroundings.Copies.dead_end {target : Record} (copies : e.Copies s s' r target)
    (distinct : s'.Distinct) (id : String) : ¬s'.Links target.storageId id := by
  rintro ⟨r', row', isLink, same, -⟩
  have one : r' = target := distinct.eq_of_key row' copies.after same
  rw [one, copies.own] at isLink
  cases isLink

theorem Writes.linkGraph (writes : Writes e s owner names s') (wellFormed : s.WellFormed used)
    (free : CollisionFree used) (within : ∀ hash, names hash → (owner, hash) ∈ used)
    (distinct : s'.Distinct) (graph : s.LinkGraph) : s'.LinkGraph := by
  have keeps := writes.keeps_rows wellFormed.distinct
  constructor
  · intro r row isLink
    rcases writes.link_cases wellFormed free within row isLink with
      ⟨r', old, identity, mirrored⟩ | ⟨target, copies⟩
    · have wasLink := Record.isLink_of_mirrored mirrored isLink
      obtain ⟨target, stood, named, foreign, content⟩ := graph.aimed r' old wasLink
      obtain ⟨target', stands, same⟩ := keeps target stood
      simp only [Record.identity, Identity.mk.injEq] at identity same
      obtain ⟨-, sameKey, sameOwner, sameContent, -⟩ := same
      obtain ⟨-, -, owned, digits, -⟩ := identity
      have aims : r'.linkedObject = r.linkedObject := congrArg (·.2.2) mirrored
      refine ⟨target', stands, ?_, ?_, ?_⟩
      · rw [sameKey, named, aims]
      · rw [sameOwner, ← owned]
        exact foreign
      · rw [sameContent, content, digits]
    · have aims : r.linkedObject = target.storageId := congrArg (·.2.2) copies.mirrors
      exact ⟨target, copies.after, aims.symm, copies.foreign, copies.content⟩
  · refine acyclic_of_dead_ends ?_ graph.acyclic
    rintro a b ⟨r, row, isLink, rfl, rfl⟩
    rcases writes.link_cases wellFormed free within row isLink with
      ⟨r', old, identity, mirrored⟩ | ⟨target, copies⟩
    · have wasLink := Record.isLink_of_mirrored mirrored isLink
      have sameAim : r'.linkedObject = r.linkedObject := congrArg (·.2.2) mirrored
      exact .inl ⟨r', old, wasLink, Record.storageId_of_identity identity, sameAim⟩
    · have aims : r.linkedObject = target.storageId := congrArg (·.2.2) copies.mirrors
      rw [aims]
      exact .inr (copies.dead_end distinct)

theorem ReachableUnder.linkGraph {allowed : Surroundings → Store → Prop}
    (reachable : ReachableUnder allowed used s) (free : CollisionFree used) : s.LinkGraph := by
  induction reachable with
  | empty =>
      constructor
      · intro r row
        cases row
      · intro id cycle
        obtain ⟨_, ⟨r, row, -⟩, -⟩ := Relation.TransGen.head'_iff.mp cycle
        cases row
  | @act s e caller a reachable _ within ih =>
      have wellFormed := reachable.wellFormed free
      have writes := a.writes caller e s
      have distinct := ((Action.effect (e := e) wellFormed free within).wellFormed wellFormed
        within).distinct
      exact writes.linkGraph wellFormed free within distinct ih
  | plan _ ih => exact ⟨ih.aimed, ih.acyclic⟩

/-- A link of the store before is still there after an action: it owns its bytes now, or it has the
same size, type and target, or it has copied from a target. -/
theorem Writes.link_goes_on (writes : Writes e s owner names s') (wellFormed : s.WellFormed used)
    (free : CollisionFree used) (within : ∀ hash, names hash → (owner, hash) ∈ used)
    (row : r ∈ s.rows) :
    ∃ r' ∈ s'.rows, r'.identity = r.identity ∧ (r'.isLink = false ∨ r'.mirrored = r.mirrored ∨
      ∃ target, e.Copies s s' r' target) := by
  obtain ⟨r', row', identity⟩ := writes.keeps_rows wellFormed.distinct r row
  refine ⟨r', row', identity, ?_⟩
  cases isLink : r'.isLink with
  | false => exact .inl rfl
  | true =>
      rcases writes.link_cases wellFormed free within row' isLink with
        ⟨r'', old, identity', mirrored⟩ | copies
      · have sameKey := Record.storageId_of_identity (identity'.trans identity)
        have one : r'' = r := wellFormed.distinct.eq_of_key old row sameKey
        rw [one] at mirrored
        exact .inr (.inl mirrored.symm)
      · exact .inr (.inr copies)

/-- **Links name targets and never turn in a circle.** In every reachable store each link, garbage
or not, names a row of another owner with the same content, and no chain of links comes back to its
start. A row that is a link after an action was the same link before, with the same size, type and
target, or it has them from a target that is live, owns its bytes and has them at that step. And a
link before an action keeps size, type and target, unless it copies them anew or owns its bytes from
then on. -/
theorem links_aim_without_cycle (free : CollisionFree used) (reachable : Reachable used s) :
    (∀ r ∈ s.rows, r.isLink = true → ∃ target ∈ s.rows, target.storageId = r.linkedObject ∧
        target.owner ≠ r.owner ∧ target.sha256 = r.sha256) ∧
      (∀ id, ¬Relation.TransGen s.Links id id) ∧
      ∀ (e : Surroundings) (caller : Caller) (a : Action), a.Within caller used →
        let s' := a.after caller e s
        (∀ r ∈ s'.rows, r.isLink = true →
          (∃ r' ∈ s.rows, r'.identity = r.identity ∧ r'.mirrored = r.mirrored) ∨
            ∃ target, e.Copies s s' r target) ∧
        ∀ r ∈ s.rows, r.isLink = true → ∃ r' ∈ s'.rows, r'.identity = r.identity ∧
          (r'.isLink = false ∨ r'.mirrored = r.mirrored ∨ ∃ target, e.Copies s s' r' target) := by
  have graph := reachable.linkGraph free
  have wellFormed := reachable.wellFormed free
  refine ⟨graph.aimed, graph.acyclic, ?_⟩
  intro e caller a within s'
  have writes := a.writes caller e s
  constructor
  · intro r row isLink
    exact writes.link_cases wellFormed free within row isLink
  · intro r row _
    exact writes.link_goes_on wellFormed free within row

end Graph

set_option maxRecDepth 10000 in
theorem links_aim_without_cycle_linking :
    (∃ r ∈ Store.freshLink.rows, r.isLink = true ∧ ∃ target ∈ Store.freshLink.rows,
        target.storageId = r.linkedObject ∧ target.owner ≠ r.owner) ∧
      ¬Relation.TransGen Store.freshLink.Links (storageId "bob" .zeros)
        (storageId "bob" .zeros) := by
  obtain ⟨aimed, acyclic, -⟩ :=
    links_aim_without_cycle collisionFree_zeros Store.reachable_freshLink
  constructor
  · have some : Store.freshLink.rows.any (·.isLink) = true := by decide +kernel
    obtain ⟨r, row, isLink⟩ := List.any_eq_true.mp some
    obtain ⟨target, stands, named, foreign, -⟩ := aimed r row isLink
    exact ⟨r, row, isLink, target, stands, named, foreign⟩
  · exact acyclic _

end ContentStore
