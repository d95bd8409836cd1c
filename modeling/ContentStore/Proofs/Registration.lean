import ContentStore.Proofs.Revisions

/-!
# The decision table of registering

Where nothing fails, what an answered registration does depends on three things: whether the caller
has a live row of the content, whether that row leads to bytes, and, if a link is asked for, whether
somebody else has the bytes (`register_decides`).

| live row | leads to bytes | somebody else has them | the caller's row becomes | `created` |
|---|---|---|---|---|
| yes | yes | | what it was | no |
| yes | no | yes | a link to the most senior record | no |
| yes | no | no, or no link is asked for | a record that waits, of the row and the metadata | no |
| no | | yes | a link to the most senior record | yes |
| no | | no, or no link is asked for | a record that waits, of the metadata | yes |

Two of the conditions are asked more than once on the way, with different fallbacks: registering
looks where a known row leads and resolves after that, which looks there again. That the answers
agree is what `Surroundings.leads_iff` and `Surroundings.misses_iff` are for.
-/

namespace ContentStore

/-! ### The specification -/

/-- The particulars of a record of which nothing has been said. -/
def Particulars.blank : Particulars :=
  ⟨"", 0, ""⟩

/-- What registering has written where the owner's row leads to no bytes. -/
inductive Surroundings.Decides (e : Surroundings) (s s' : Store) (owner : String)
    (hash : ContentHash) (m : Metadata) (autoLink : Bool) (new : Record) : Prop where
  /-- A link, if that is asked for and there is a record to link to. -/
  | linked {target : Record} :
      autoLink = true → e.Offers s owner hash target →
      s.Relinked s' owner hash m.objectName new target →
      e.Decides s s' owner hash m autoLink new
  /-- A record that waits for its bytes, with what is given, and the rest from the live row. -/
  | own :
      (autoLink = true → ∀ target, ¬e.Offers s owner hash target) →
      s'.LiveRow owner hash new → new.isLink = false →
      (∀ row, s.LiveRow owner hash row → m.Revises row.particulars new.particulars) →
      ((∀ row, ¬s.LiveRow owner hash row) → m.Revises .blank new.particulars) →
      s.DifferAt s' (storageId owner hash) → s'.plans = s.plans →
      e.Decides s s' owner hash m autoLink new

section Registering

variable {used : Set (String × ContentHash)} {e : Surroundings} {s s' : Store} {caller : Caller}
  {owner text : String} {hash : ContentHash} {m : Metadata} {autoLink created : Bool}
  {row : Record} {w : Award} {first : Registered} {size : Int} {n : Journal}

/-! ### Where rows lead -/

/-- Where every call is carried out, no question to the tables is stopped. -/
theorem Surroundings.not_stops_of_carries (carries : ∀ n c, e.Carries n c) {c : Call}
    (asks : c.asksTables = true) {f : Failure} : ¬e.Stops c f := by
  intro stops
  cases stops with
  | outage met => exact nomatch met.symm.trans (carries _ _).1
  | disconnected _ off =>
      rw [query, (carries 0 c).2 asks] at off
      cases off
  | keeper => cases asks
  | noPath => cases asks

theorem Surroundings.misses_iff (carries : ∀ n c, e.Carries n c) :
    e.Misses s row ↔ e.bytesOf? s row = none := by
  refine ⟨?_, .inl⟩
  rintro (lost | ⟨-, f, stops⟩)
  · exact lost
  · exact absurd stops (not_stops_of_carries carries rfl)

/-- Where nobody's copy has bytes, no row leads to any. -/
theorem Surroundings.not_leads_of_no_bytes (wellFormed : s.WellFormed used)
    (nobody : ∀ owner, (owner, hash) ∈ used → e.holds (storageId owner hash) = false) :
    ¬e.Leads s owner hash := by
  have bare {row : Record} (stands : row ∈ s.rows) (content : row.sha256 = hash.hex) :
      e.holds row.storageId ≠ true := by
    obtain ⟨copy, keyed⟩ := wellFormed.key_of_content stands content
    rw [keyed, nobody row.owner copy]
    exact Bool.false_ne_true
  rintro (⟨liveRow, -, held⟩ | ⟨-, -, backs, -⟩)
  · exact bare liveRow.stands liveRow.content held
  · exact bare backs.stands backs.content backs.held

section Keys

variable (wellFormed : s.WellFormed used) (free : CollisionFree used) (mem : (owner, hash) ∈ used)

include wellFormed free mem

/-- The owner has no live row of the content exactly if nothing is found under the key. -/
theorem Store.WellFormed.find?_eq_none_iff_liveRow :
    s.find? (storageId owner hash) = none ↔ ∀ row, ¬s.LiveRow owner hash row := by
  constructor
  · intro absent row liveRow
    have found := (wellFormed.find?_eq_some_iff_liveRow free mem).mpr liveRow
    exact nomatch found.symm.trans absent
  · intro never
    cases found : s.find? (storageId owner hash) with
    | none => rfl
    | some row =>
        exact absurd ((wellFormed.find?_eq_some_iff_liveRow free mem).mp found) (never row)

/-- The owner's live row leads to bytes by the specification exactly if it is found to. -/
theorem Surroundings.leads_iff :
    e.Leads s owner hash ↔
      ∃ row real, s.find? (storageId owner hash) = some row ∧ e.bytesOf? s row = some real := by
  constructor
  · rintro (@⟨row, liveRow, own, held⟩ | @⟨row, target, liveRow, isLink, backs, named⟩)
    · refine ⟨row, row.storageId, (wellFormed.find?_eq_some_iff_liveRow free mem).mpr liveRow, ?_⟩
      rw [e.bytesOf?_own own, if_pos held]
    · obtain ⟨aims, held⟩ := (wellFormed.target?_held_iff liveRow.content).mpr ⟨backs, named⟩
      refine ⟨row, target.storageId,
        (wellFormed.find?_eq_some_iff_liveRow free mem).mpr liveRow, ?_⟩
      rw [e.bytesOf?_link isLink aims, if_pos held]
  · rintro ⟨row, real, found, leads⟩
    by_contra lost
    exact nomatch leads.symm.trans (wellFormed.bytesOf?_of_not_leads free mem found lost)

theorem Surroundings.not_leads_of_lost (found : s.find? (storageId owner hash) = some row)
    (lost : e.bytesOf? s row = none) : ¬e.Leads s owner hash := by
  rw [leads_iff wellFormed free mem]
  rintro ⟨row', real, found', leads⟩
  cases Option.some.inj (found'.symm.trans found)
  exact nomatch leads.symm.trans lost

theorem Surroundings.not_leads_of_absent (absent : s.find? (storageId owner hash) = none) :
    ¬e.Leads s owner hash := by
  rw [leads_iff wellFormed free mem]
  rintro ⟨row, real, found, -⟩
  exact nomatch found.symm.trans absent

/-! ### What is written -/

/-- Where the owner's live row leads to no bytes, resolving makes a link to the most senior record
of another owner that has them. -/
theorem Resolves.relinked {given : Option String} {r : Resolution}
    (resolves : Resolves e s owner hash autoLink given r s') (lost : ¬e.Leads s owner hash) :
    ∃ target, e.Offers s owner hash target ∧ s.Relinked s' owner hash given r.award.record target ∧
      s'.nextId = s.nextId + 1 ∧ r.award.record.updatedAt = e.now := by
  have leads := Surroundings.leads_iff (e := e) wellFormed free mem
  cases resolves with
  | @backed row found own held =>
      have real : e.bytesOf? s row = some row.storageId := by rw [e.bytesOf?_own own, if_pos held]
      exact absurd (leads.mpr ⟨row, _, found, real⟩) lost
  | @link row target found isLink aims held =>
      have real : e.bytesOf? s row = some target.storageId := by
        rw [e.bytesOf?_link isLink aims, if_pos held]
      exact absurd (leads.mpr ⟨row, _, found, real⟩) lost
  | @linked target asked _ source _ =>
      have offers := wellFormed.source?_eq_some_iff.mp source
      have titles : s.Titles owner hash given target
          (linkName given (s.find? (storageId owner hash)) target) :=
        (wellFormed.titles_iff free mem).mpr rfl
      exact ⟨target, offers, wellFormed.relinked_put free mem offers titles, rfl,
        Store.updatedAt_written⟩

/-- A record that waits for its bytes is written where there is nobody to link to. -/
theorem Surroundings.decides_own {d : Draft} (drafted : d.IsFor owner hash)
    (own : d.linkedObject = "") (nobody : autoLink = true → e.source? s owner hash = none)
    (known : ∀ row, s.find? (storageId owner hash) = some row →
      m.Revises row.particulars ⟨d.objectName, d.size, d.mimeType⟩)
    (unknown : s.find? (storageId owner hash) = none →
      m.Revises .blank ⟨d.objectName, d.size, d.mimeType⟩) :
    e.Decides s (s.put d e.now) owner hash m autoLink (s.written d e.now) := by
  refine .own (fun asked target offers => ?_) (wellFormed.liveRow_put free mem drafted) ?_ ?_ ?_ ?_
    rfl
  · exact nomatch (nobody asked).symm.trans (wellFormed.source?_eq_some_iff.mpr offers)
  · rw [Record.isLink_eq_false_iff, Store.linkedObject_written, own]
  · intro row liveRow
    rw [Store.particulars_written]
    exact known row ((wellFormed.find?_eq_some_iff_liveRow free mem).mpr liveRow)
  · intro never
    rw [Store.particulars_written]
    exact unknown ((wellFormed.find?_eq_none_iff_liveRow free mem).mpr never)
  · rw [← drafted.key]
    exact Store.differAt_put

end Keys

/-- Metadata that says nothing of the size gives zero. -/
theorem Metadata.revises_blank (sized : m.size = .ok size) :
    m.Revises .blank ⟨m.objectName.getD "", size, m.mimeType.getD ""⟩ := by
  refine ⟨rfl, rfl, fun noText noNumber => ?_, fun _ => sized⟩
  rw [Metadata.size, noText, noNumber] at sized
  exact (Except.ok.inj sized).symm

/-! ### What registering comes to -/

section Registers

variable (registers : Registers e s caller hash m autoLink w created s')
  (wellFormed : s.WellFormed used) (free : CollisionFree used) (mem : (caller.owner, hash) ∈ used)

include registers wellFormed free mem

theorem Registers.created_iff : created = true ↔ ∀ row, ¬s.LiveRow caller.owner hash row := by
  rw [← wellFormed.find?_eq_none_iff_liveRow free mem]
  cases registers with
  | known found => simp [found]
  | relinked found => simp [found]
  | repaired found => simp [found]
  | linked absent => simp [absent]
  | created absent => simp [absent]

/-- Something is written only where the caller's row leads to no bytes. -/
theorem Registers.eq_or_lost (carries : ∀ n c, e.Carries n c) :
    s' = s ∨ ¬e.Leads s caller.owner hash := by
  have lost {row : Record} (found : s.find? (storageId caller.owner hash) = some row)
      (misses : e.Misses s row) : ¬e.Leads s caller.owner hash :=
    Surroundings.not_leads_of_lost wellFormed free mem found
      ((Surroundings.misses_iff carries).mp misses)
  cases registers with
  | known => exact .inl rfl
  | relinked found _ misses => exact .inr (lost found misses)
  | repaired found _ misses => exact .inr (lost found misses)
  | linked absent => exact .inr (Surroundings.not_leads_of_absent wellFormed free mem absent)
  | created absent => exact .inr (Surroundings.not_leads_of_absent wellFormed free mem absent)

/-- Where the caller's row leads to no bytes, it is written. -/
theorem Registers.decides (candid : e.Candid) (lost : ¬e.Leads s caller.owner hash) :
    s'.nextId = s.nextId + 1 ∧ w.record.updatedAt = e.now ∧
      e.Decides s s' caller.owner hash m autoLink w.record := by
  cases registers with
  | known found _ leads =>
      exact absurd ((Surroundings.leads_iff wellFormed free mem).mpr ⟨_, _, found, leads⟩) lost
  | relinked _ _ _ asked resolves =>
      obtain ⟨target, offers, relinked, supply, written⟩ :=
        resolves.relinked wellFormed free mem lost
      exact ⟨supply, written, .linked asked offers relinked⟩
  | @repaired row size found owned _ nobody sized _ =>
      obtain ⟨old, -, -⟩ := Store.find?_some found
      have nonneg := Metadata.sizeFor_nonneg sized (wellFormed.sized row old)
      refine ⟨rfl, Store.updatedAt_written, Surroundings.decides_own wellFormed free mem
        (wellFormed.isFor_revised free mem found nonneg) rfl (fun asked => nobody asked candid)
        (fun row' found' => ?_) fun absent => ?_⟩
      · cases Option.some.inj (found'.symm.trans found)
        exact Metadata.revises_of_sizeFor sized
      · exact nomatch found.symm.trans absent
  | linked absent asked resolves =>
      obtain ⟨target, offers, relinked, supply, written⟩ :=
        resolves.relinked wellFormed free mem lost
      exact ⟨supply, written, .linked asked offers relinked⟩
  | created absent nobody sized _ =>
      refine ⟨rfl, Store.updatedAt_written, Surroundings.decides_own wellFormed free mem
        ⟨rfl, rfl, rfl, Metadata.size_nonneg sized⟩ rfl (fun asked => nobody asked candid)
        (fun row found => ?_) fun _ => ?_⟩
      · exact nomatch found.symm.trans absent
      · exact Metadata.revises_blank sized

end Registers

/-- Whichever row was written is live. -/
theorem Surroundings.Decides.live {new : Record}
    (decides : e.Decides s s' owner hash m autoLink new) : s'.LiveRow owner hash new := by
  cases decides with
  | linked _ _ relinked => exact relinked.row
  | own _ live => exact live

/-- **Registering follows its decision table.** Take a reachable store and a registration that is
answered where nothing fails. It says that the content is new exactly if the caller has no live row
of it. It leaves the store as it is exactly if the caller's live row leads to bytes; seen from the
rows alone, that is so if the clock has moved on since the row was last written. Otherwise it writes
the caller's row and no other, as `Surroundings.Decides` says: a link to the most senior record of
another owner that has the bytes, if a link is asked for and there is one, and else a record that
waits for its bytes, with what the metadata gives and the rest from the live row, or blank. -/
theorem register_decides (free : CollisionFree used) (reachable : Reachable used s)
    (parsed : ContentHash.parse text = .ok hash) (mem : (caller.owner, hash) ∈ used)
    (faultless : e.Faultless used hash)
    (answered : (Operation.register caller text m autoLink e ⟨s, n⟩).1 = .ok first) :
    let s' := (Operation.register caller text m autoLink e ⟨s, n⟩).2.store
    (first.created = true ↔ ∀ row, ¬s.LiveRow caller.owner hash row) ∧
    (s' = s ↔ e.Leads s caller.owner hash) ∧
    ((∀ row, s.LiveRow caller.owner hash row → row.updatedAt ≠ e.now) →
      (s'.rows = s.rows ↔ e.Leads s caller.owner hash)) ∧
    (¬e.Leads s caller.owner hash → first.granted.record.updatedAt = e.now ∧
      e.Decides s s' caller.owner hash m autoLink first.granted.record) := by
  intro s'
  have wellFormed := reachable.wellFormed free
  have candid := Surroundings.candid_of_carries faultless.carries
  obtain ⟨w, created, expiresAt, registers, rfl⟩ := Operation.register_awarded parsed answered
  have same (leads : e.Leads s caller.owner hash) : s' = s :=
    (registers.eq_or_lost wellFormed free mem faultless.carries).resolve_right (absurd leads)
  have decides : ¬e.Leads s caller.owner hash → _ :=
    registers.decides wellFormed free mem candid
  refine ⟨registers.created_iff wellFormed free mem, ⟨fun unchanged => ?_, same⟩,
    fun earlier => ⟨fun unchanged => ?_, fun leads => by rw [same leads]⟩,
    fun lost => (decides lost).2⟩
  · by_contra lost
    have supply : s'.nextId = s.nextId + 1 := (decides lost).1
    rw [unchanged] at supply
    omega
  · by_contra lost
    obtain ⟨-, written, decided⟩ := decides lost
    obtain ⟨stands, owned, content, live⟩ := decided.live
    have stands : w.record ∈ s'.rows := stands
    rw [unchanged] at stands
    exact earlier w.record ⟨stands, owned, content, live⟩ written

end Registering

/-- Bob's first registration makes a link to Ann's record; once the bytes are gone, his next one
makes a record of his own out of it, which waits for them. -/
theorem register_decides_linking :
    let linked := Operation.register .bob ContentHash.zeros.hex .empty true .stocked ⟨.annAlone, 0⟩
    let repaired :=
      Operation.register .bob ContentHash.zeros.hex .empty false (.calm .empty) ⟨.freshLink, 0⟩
    (∃ first, linked.1 = .ok first ∧ first.created = true ∧
      first.granted.record.isLink = true ∧
      Surroundings.stocked.Decides .annAlone linked.2.store "bob" .zeros .empty true
        first.granted.record) ∧
    ∃ first, repaired.1 = .ok first ∧ first.created = false ∧
      first.granted.record.isLink = false ∧
      (Surroundings.calm .empty).Decides .freshLink repaired.2.store "bob" .zeros .empty false
        first.granted.record := by
  dsimp only
  have parsed := ContentHash.zeros.parse_hex
  have mem : (Caller.bob.owner, ContentHash.zeros) ∈
      ({("ann", .zeros), ("bob", .zeros)} : Set _) := Set.mem_insert_of_mem _ rfl
  constructor
  · obtain ⟨first, answered, reads⟩ := Store.freshLink_read.1
    obtain ⟨isLink, -⟩ := Bool.and_eq_true_iff.mp reads
    obtain ⟨created, -, -, decides⟩ := register_decides collisionFree_zeros
      (Store.reachable_annAlone (Set.mem_insert _ _)) parsed mem Surroundings.faultless_stocked
      answered
    exact ⟨first, answered, created.mpr fun _ => Store.not_liveRow_annAlone, isLink,
      (decides Surroundings.not_leads_annAlone).2⟩
  · obtain ⟨first, answered, repaired⟩ := Store.freshLink_repaired
    obtain ⟨known, -⟩ := Bool.and_eq_true_iff.mp repaired
    have lost : ¬(Surroundings.calm .empty).Leads .freshLink "bob" .zeros :=
      Surroundings.not_leads_of_no_bytes (Store.reachable_freshLink.wellFormed collisionFree_zeros)
        fun owner copy => (Surroundings.calm_tells owner (by simpa using copy)).2
    obtain ⟨-, -, -, decides⟩ := register_decides collisionFree_zeros Store.reachable_freshLink
      parsed mem Surroundings.faultless_calm_pair answered
    have decided := (decides lost).2
    refine ⟨first, answered, (Bool.not_eq_true' _).mp known, ?_, decided⟩
    cases decided with
    | linked asked => cases asked
    | own _ _ own => exact own

end ContentStore
