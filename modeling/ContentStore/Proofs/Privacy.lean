import ContentStore.Proofs.Alike
import ContentStore.Proofs.Requests
import ContentStore.Proofs.TwoRuns

/-!
# What answers reveal

Answers do not reveal the records of other owners. Two stores may differ in all rows that are not
the owner's and that no row of the owner's names; an owner who asks for no link gets the same answer
from both, or the same failure, and leaves both alike (`Operation.discreet_run`). So it is over HTTP
(`foreign_records_unseen`): a record of somebody else looks like none at all.

An operation is `Discreet` if this holds of it. What it reads is read under the owner's keys or
under those that the owner's links name, and this is where SHA-256 must not collide: an owner with
the key of another one's record would see that record.
-/

namespace ContentStore

/-- The action asks for links to the bytes of others. -/
def Action.asksToLink : Action → Bool
  | .register _ _ autoLink => autoLink
  | .fetch _ autoLink => autoLink
  | _ => false

namespace Operation

variable {α β : Type} {used : Set (String × ContentHash)} {owner : String} {e : Surroundings}
  {s t : Store} {caller : Caller} {hash : ContentHash} {row : Record}
  {bad : Store → Store → Prop}

/-- Run from two stores that are alike for the owner, the operation ends in the same way, and the
stores are alike after it. -/
def Discreet (x : Operation α) (used : Set (String × ContentHash)) (owner : String)
    (e : Surroundings) (s t : Store) : Prop :=
  x.Agree e s t (fun _ => Store.Paired used owner) (Store.Paired used owner)

theorem Discreet.bind {x : Operation α} {f : α → Operation β}
    (discreet : x.Discreet used owner e s t)
    (rest : ∀ a s' t', Store.Paired used owner s' t' → (f a).Discreet used owner e s' t') :
    (x >>= f).Discreet used owner e s t := by
  refine agree_bind (discreet.mono (fun a s' t' paired => ?_) fun s' t' paired => paired)
  exact rest a s' t' paired

theorem discreet_grantAccess {readFrom : Option String} {writable : Bool}
    (paired : Store.Paired used owner s t) :
    (grantAccess caller row readFrom writable).Discreet used owner e s t :=
  agree_award (w := ⟨row, readFrom, writable⟩) (fun _ => paired) paired

/-! ### Finding bytes -/

theorem agree_follow {good : Record → Store → Store → Prop}
    (same : s.find? row.linkedObject = t.find? row.linkedObject)
    (found : ∀ target, good target s t) (lost : bad s t) :
    (follow row).Agree e s t good bad := by
  unfold follow
  refine agree_bind (agree_find same ?_ lost)
  cases s.find? row.linkedObject with
  | none => exact agree_refuse lost
  | some target =>
      dsimp only
      split
      · exact agree_pure (found target)
      · exact agree_refuse lost

theorem agree_resolveExisting {good : Option Resolution → Store → Store → Prop}
    (same : s.find? row.linkedObject = t.find? row.linkedObject)
    (answered : ∀ found, good found s t) (stopped : bad s t) :
    (resolveExisting row).Agree e s t good bad := by
  unfold resolveExisting
  split
  · refine agree_bind (agree_attempt (agree_follow same (fun target => ?_) ⟨stopped, ?_⟩))
    · refine agree_bind (agree_bytesPresent (fun held => ?_) stopped)
      split <;> exact agree_pure (answered _)
    · intro r
      cases r with
      | noBytes => exact agree_pure (answered _)
      | _ => exact agree_refuse stopped
  · refine agree_bind (agree_bytesPresent (fun held => ?_) stopped)
    split <;> exact agree_pure (answered _)

theorem agree_knownBytes {good : Option String → Store → Store → Prop}
    (same : s.find? row.linkedObject = t.find? row.linkedObject)
    (answered : ∀ found, good found s t) (stopped : bad s t) :
    (knownBytes row).Agree e s t good bad := by
  unfold knownBytes
  split
  · refine agree_bind (agree_attempt (agree_follow same (fun target => ?_) ⟨stopped, fun r => ?_⟩))
    · refine agree_bind (agree_bytesPresent (fun held => ?_) stopped)
      split <;> exact agree_pure (answered _)
    · exact agree_pure (answered _)
  · refine agree_bind (agree_bytesPresent (fun held => ?_) stopped)
    split <;> exact agree_pure (answered _)

theorem agree_resolve {given : Option String} {good : Resolution → Store → Store → Prop}
    (paired : Store.Paired used owner s t) (free : CollisionFree used)
    (mem : (owner, hash) ∈ used) (found : ∀ r, good r s t) (lost : bad s t) :
    (resolve owner hash false given).Agree e s t good bad := by
  unfold resolve
  refine agree_bind (agree_find (paired.find?_eq free mem) ?_ lost)
  cases live : s.find? (storageId owner hash) with
  | none => exact agree_bind (agree_pure (agree_refuse lost))
  | some row =>
      have same := paired.find?_linkedObject free mem live
      refine agree_bind (agree_resolveExisting same (fun resolution => ?_) lost)
      cases resolution with
      | none => exact agree_refuse lost
      | some r => exact agree_pure (found r)

/-! ### Registering and fetching -/

theorem discreet_checkQuota {excluding : List String} {size : Int}
    (paired : Store.Paired used caller.owner s t) :
    (checkQuota caller.owner excluding size).Discreet used caller.owner e s t :=
  agree_checkQuota (paired.usage?_eq _) paired.alike.plan paired paired

theorem discreet_write {d : Draft} (paired : Store.Paired used caller.owner s t)
    (free : CollisionFree used) (mem : (caller.owner, hash) ∈ used)
    (drafted : d.IsFor caller.owner hash) (own : d.linkedObject = "") :
    (write d).Discreet used caller.owner e s t :=
  agree_write (paired.written_eq free mem drafted.key) (paired.put free mem drafted (.inl own))
    paired

theorem discreet_registerKnown {m : Metadata} {size : Int}
    (paired : Store.Paired used caller.owner s t) (free : CollisionFree used)
    (mem : (caller.owner, hash) ∈ used)
    (found : s.find? (storageId caller.owner hash) = some row) (sized : m.size = .ok size) :
    (registerKnown caller hash row m size false).Discreet used caller.owner e s t := by
  unfold registerKnown
  have same := paired.find?_linkedObject free mem found
  refine agree_bind (agree_knownBytes same (fun known => ?_) paired)
  cases known with
  | some real => exact discreet_grantAccess paired
  | none =>
      refine agree_bind (agree_pure ?_)
      have nonneg : 0 ≤ if m.givesSize then size else row.size := by
        split
        · exact Metadata.size_nonneg sized
        · exact paired.left.sized row (Store.find?_some found).1
      have drafted := paired.left.isFor_revised (m := m) free mem found nonneg
      refine (discreet_checkQuota paired).bind fun _ s' t' checked => ?_
      refine (discreet_write checked free mem drafted rfl).bind fun record s' t' after => ?_
      exact discreet_grantAccess after

theorem discreet_registerNew {m : Metadata} {size : Int}
    (paired : Store.Paired used caller.owner s t) (free : CollisionFree used)
    (mem : (caller.owner, hash) ∈ used) (sized : m.size = .ok size) :
    (registerNew caller hash m size false).Discreet used caller.owner e s t := by
  unfold registerNew
  refine agree_bind (agree_pure ?_)
  have drafted : (ownDraft caller.owner hash m size).IsFor caller.owner hash :=
    ⟨rfl, rfl, rfl, Metadata.size_nonneg sized⟩
  refine (discreet_checkQuota paired).bind fun _ s' t' checked => ?_
  refine (discreet_write checked free mem drafted rfl).bind fun record s' t' after => ?_
  exact discreet_grantAccess after

theorem discreet_register {text : String} {m : Metadata}
    (paired : Store.Paired used caller.owner s t) (free : CollisionFree used)
    (within : (Action.register text m false).Within caller used) :
    (register caller text m false).Discreet used caller.owner e s t := by
  unfold register
  refine agree_bind (agree_ofExcept (fun hash parsed => ?_) paired)
  have parsed := ContentHash.require_eq_ok_iff.mp parsed
  have mem := within hash (.first rfl parsed)
  refine agree_bind (agree_ofExcept (fun size sized => ?_) paired)
  refine agree_bind (agree_find (paired.find?_eq free mem) ?_ paired)
  cases found : s.find? (storageId caller.owner hash) with
  | none =>
      refine (discreet_registerNew paired free mem sized).bind fun g s' t' after => ?_
      exact agree_pure after
  | some row =>
      dsimp only
      unfold requireOwner
      split
      · refine agree_bind (agree_pure ?_)
        refine (discreet_registerKnown paired free mem found sized).bind fun g s' t' after => ?_
        exact agree_pure after
      · exact agree_bind (agree_refuse paired)

theorem discreet_fetch {text : String} (paired : Store.Paired used caller.owner s t)
    (free : CollisionFree used) (within : (Action.fetch text false).Within caller used) :
    (fetch caller text false).Discreet used caller.owner e s t := by
  unfold fetch
  refine agree_bind (agree_ofExcept (fun hash parsed => ?_) paired)
  have parsed := ContentHash.require_eq_ok_iff.mp parsed
  have mem := within hash (.first rfl parsed)
  refine agree_bind (agree_attempt (agree_resolve paired free mem (fun r => ?_) ⟨paired, ?_⟩))
  · dsimp only
    unfold requireOwner
    split
    · rw [grantResolution_eq]
      exact agree_bind (agree_pure (discreet_grantAccess paired))
    · exact agree_bind (agree_refuse paired)
  · intro r
    cases r with
    | noBytes =>
        refine agree_bind (agree_find (paired.find?_eq free mem) ?_ paired)
        cases s.find? (storageId caller.owner hash) with
        | none => exact agree_refuse paired
        | some row =>
            dsimp only
            split
            · exact discreet_grantAccess paired
            · exact agree_refuse paired
    | _ => exact agree_refuse paired

/-! ### Updating -/

theorem discreet_moveContent {newHash : ContentHash} {m : Metadata} {size : Int}
    (paired : Store.Paired used caller.owner s t) (free : CollisionFree used)
    (mem : (caller.owner, hash) ∈ used) (newMem : (caller.owner, newHash) ∈ used)
    (found : s.find? (storageId caller.owner hash) = some row) (nonneg : 0 ≤ size) :
    (moveContent caller row newHash m size).Discreet used caller.owner e s t := by
  unfold moveContent
  have hasKey := (Store.find?_some found).2.1
  have drafted : (row.moved caller.owner newHash m size).IsFor caller.owner newHash :=
    ⟨rfl, rfl, rfl, nonneg⟩
  refine (discreet_checkQuota paired).bind fun _ s' t' checked => ?_
  refine (discreet_write checked free newMem drafted rfl).bind fun record s' t' wrote => ?_
  rw [hasKey]
  refine agree_bind (agree_markGarbage (wrote.find?_eq free mem) (fun was => ?_) wrote)
  have after : Store.Paired used caller.owner (s'.markGarbage (storageId caller.owner hash) e.now)
      (t'.markGarbage (storageId caller.owner hash) e.now) := wrote.markGarbage free mem
  refine agree_bind (agree_bytesPresent (fun held => ?_) after)
  split
  · exact discreet_grantAccess after
  · exact discreet_grantAccess after

theorem discreet_changeInPlace {m : Metadata} {size : Int}
    (paired : Store.Paired used caller.owner s t) (free : CollisionFree used)
    (mem : (caller.owner, hash) ∈ used)
    (found : s.find? (storageId caller.owner hash) = some row) (nonneg : 0 ≤ size) :
    (changeInPlace caller hash row m size).Discreet used caller.owner e s t := by
  unfold changeInPlace
  split
  · obtain ⟨old, hasKey, -⟩ := Store.find?_some found
    have owned := (paired.left.of_key free mem old hasKey).1
    have drafted := paired.left.isFor_renamed (m := m) free mem found
    -- A link keeps what it names, so that nothing new is named.
    have names : s.Names caller.owner (row.renamed m).linkedObject := ⟨row, old, owned, rfl⟩
    refine agree_bind (agree_write (paired.written_eq free mem drafted.key) ?_ paired)
    exact discreet_grantAccess (paired.put free mem drafted (.inr names))
  · have drafted := paired.left.isFor_revised (m := m) free mem found nonneg
    refine (discreet_checkQuota paired).bind fun _ s' t' checked => ?_
    refine (discreet_write checked free mem drafted rfl).bind fun record s' t' after => ?_
    exact discreet_grantAccess after

theorem discreet_updateTo {m : Metadata} {newHash : Option ContentHash}
    (paired : Store.Paired used caller.owner s t) (free : CollisionFree used)
    (mem : (caller.owner, hash) ∈ used)
    (newMem : ∀ h, newHash = some h → (caller.owner, h) ∈ used) :
    (updateTo caller hash m newHash).Discreet used caller.owner e s t := by
  unfold updateTo requireSome requireOwner
  refine agree_bind (agree_find (paired.find?_eq free mem) ?_ paired)
  cases found : s.find? (storageId caller.owner hash) with
  | none => exact agree_bind (agree_refuse paired)
  | some row =>
      refine agree_bind (agree_pure ?_)
      split
      · refine agree_bind (agree_pure (agree_bind (agree_ofExcept (fun size sized => ?_) paired)))
        have old := (Store.find?_some found).1
        have nonneg := Metadata.sizeFor_nonneg sized (paired.left.sized row old)
        cases newHash with
        | some newHash =>
            exact discreet_moveContent paired free mem (newMem newHash rfl) found nonneg
        | none => exact discreet_changeInPlace paired free mem found nonneg
      · exact agree_bind (agree_refuse paired)

theorem discreet_update {text : String} {revision : Revision}
    (paired : Store.Paired used caller.owner s t) (free : CollisionFree used)
    (within : (Action.update text revision).Within caller used) :
    (update caller text revision).Discreet used caller.owner e s t := by
  rw [update_eq]
  refine agree_bind (agree_ofExcept (fun hash parsed => ?_) paired)
  have parsed := ContentHash.require_eq_ok_iff.mp parsed
  have mem := within hash (.first rfl parsed)
  cases given : revision.newHash with
  | none =>
      refine agree_bind (agree_pure ?_)
      exact discreet_updateTo paired free mem fun h moves => by simp at moves
  | some newText =>
      refine agree_bind (agree_map (agree_ofExcept (fun newHash newParsed => ?_) paired))
      have newParsed := ContentHash.require_eq_ok_iff.mp newParsed
      refine discreet_updateTo paired free mem fun h moves => ?_
      cases Option.some.inj (Option.filter_eq_some_iff.mp moves).1
      exact within newHash ⟨newText, by simp [Action.texts, given], newParsed⟩

/-! ### Deleting and listing -/

theorem discreet_delete {text : String} (paired : Store.Paired used caller.owner s t)
    (free : CollisionFree used) (within : (Action.delete text).Within caller used) :
    (delete caller text).Discreet used caller.owner e s t := by
  unfold delete
  refine agree_bind (agree_ofExcept (fun hash parsed => ?_) paired)
  have parsed := ContentHash.require_eq_ok_iff.mp parsed
  have mem := within hash (.first rfl parsed)
  have same := paired.find?_eq free mem
  refine agree_bind (agree_find same ?_ paired)
  unfold requireSome requireOwner
  cases s.find? (storageId caller.owner hash) with
  | none => exact agree_bind (agree_refuse paired)
  | some row =>
      refine agree_bind (agree_pure ?_)
      split
      · refine agree_bind (agree_pure (agree_bind (agree_markGarbage same (fun was => ?_) paired)))
        have after : Store.Paired used caller.owner
            (s.markGarbage (storageId caller.owner hash) e.now)
            (t.markGarbage (storageId caller.owner hash) e.now) := paired.markGarbage free mem
        split
        · exact agree_pure after
        · exact agree_refuse after
      · exact agree_bind (agree_refuse paired)

theorem discreet_listPage {q : ListRequest} (paired : Store.Paired used caller.owner s t) :
    (listPage caller q).Discreet used caller.owner e s t := by
  unfold listPage
  refine agree_bind (agree_ofExcept (fun filter _ => ?_) paired)
  refine agree_bind (agree_list (paired.list_eq _ _) (fun records => ?_) paired)
  exact agree_pure paired

/-- An action that asks for no link is discreet. -/
theorem discreet_run {a : Action} (paired : Store.Paired used caller.owner s t)
    (free : CollisionFree used) (within : a.Within caller used) (alone : a.asksToLink = false) :
    (a.run caller).Discreet used caller.owner e s t := by
  cases a with
  | register text m autoLink =>
      cases alone
      exact discreet_register paired free within
  | fetch text autoLink =>
      cases alone
      exact discreet_fetch paired free within
  | update text revision => exact discreet_update paired free within
  | delete text => exact discreet_delete paired free within
  | list q => exact discreet_listPage paired

/-! ### Answers over HTTP -/

/-- The URL of a grant reads nothing of the store. -/
theorem agree_urlOf? {grant? : Option Grant} {good : Option String → Store → Store → Prop}
    (answered : ∀ url, good url s t) (stopped : bad s t) :
    (urlOf? grant?).Agree e s t good bad := by
  cases grant? with
  | none => exact agree_pure (answered none)
  | some grant =>
      refine agree_map (agree_bind (agree_pathOf (fun path => ?_) stopped))
      exact agree_bind (agree_surroundings (agree_pure (answered _)))

theorem agree_grantedBody {g : Granted} {good : Json → Store → Store → Prop}
    (answered : ∀ body, good body s t) (stopped : bad s t) :
    (grantedBody g).Agree e s t good bad := by
  unfold grantedBody
  refine agree_bind (agree_urlOf? (fun writeUrl => ?_) stopped)
  refine agree_bind (agree_urlOf? (fun readUrl => ?_) stopped)
  exact agree_pure (answered _)

theorem discreet_reply {a : Action} {answer : a.Answer}
    (paired : Store.Paired used owner s t) : (a.reply answer).Discreet used owner e s t := by
  cases a with
  | register => exact agree_bind (agree_grantedBody (fun body => agree_pure paired) paired)
  | fetch => exact agree_bind (agree_grantedBody (fun body => agree_pure paired) paired)
  | update => exact agree_bind (agree_grantedBody (fun body => agree_pure paired) paired)
  | delete => exact agree_pure paired
  | list => exact agree_pure paired

theorem Discreet.answered {x : Operation Http.Response}
    (discreet : x.Discreet used owner e s t) : (answered x).Discreet used owner e s t := by
  unfold Operation.answered
  refine agree_bind (agree_attempt (discreet.mono (fun a s' t' paired => ?_)
    fun s' t' paired => ⟨paired, fun r => ?_⟩))
  · exact agree_pure paired
  · exact agree_pure paired

theorem discreet_respond {a : Action} (paired : Store.Paired used caller.owner s t)
    (free : CollisionFree used) (within : a.Within caller used) (alone : a.asksToLink = false) :
    (a.respond caller).Discreet used caller.owner e s t := by
  refine Discreet.answered ?_
  refine (discreet_run paired free within alone).bind fun answer s' t' after => ?_
  exact discreet_reply after

theorem agree_ping {good : Unit → Store → Store → Prop} (answered : good () s t)
    (stopped : bad s t) : ping.Agree e s t good bad := by
  refine agree_call (if e.connection = .closed then .error closedStore else .ok ()) s t ?_ ?_
    (fun _ _ => answered) stopped
  · cases e.connection <;> rfl
  · cases e.connection <;> rfl

/-- A report reads nothing of the store but the next identifier. -/
theorem discreet_readiness (paired : Store.Paired used owner s t) :
    readiness.Discreet used owner e s t := by
  have metadata : metadataFault.Discreet used owner e s t := by
    unfold metadataFault
    refine agree_bind (agree_attempt (agree_ping ?_ ⟨paired, fun r => ?_⟩))
    · exact agree_pure paired
    · exact agree_pure paired
  have backend : ∀ s' t', Store.Paired used owner s' t' →
      backendFault.Discreet used owner e s' t' := by
    intro s' t' paired
    have fresh : freshId.Agree e s' t' (fun _ => Store.Paired used owner)
        (Store.Paired used owner) := by
      intro n
      refine ⟨_, s', t', n, rfl, ?_, paired⟩
      rw [freshId, paired.alike.supply]
    unfold backendFault
    refine Discreet.bind fresh fun id s' t' paired => ?_
    refine agree_bind (agree_attempt (agree_bytesPresent (fun held => ?_) ⟨paired, fun r => ?_⟩))
    · cases held <;> exact agree_pure paired
    · exact agree_bind (agree_surroundings (agree_pure paired))
  unfold readiness
  refine metadata.bind fun _ s' t' paired => ?_
  refine (backend s' t' paired).bind fun _ s' t' paired => ?_
  exact agree_pure paired

end Operation

/-! ### Two runs -/

/-- The demand is nobody's, or it is for an action of the owner's that asks for no link. -/
def Http.Demand.IsOf (owner : String) (used : Set (String × ContentHash)) : Demand → Prop
  | settled _ => True
  | report => True
  | action caller a => caller.owner = owner ∧ a.Within caller used ∧ a.asksToLink = false

theorem Operation.discreet_serve {used : Set (String × ContentHash)} {e : Surroundings}
    {s t : Store} {owner : String} {r : Http.Request} (paired : Store.Paired used owner s t)
    (free : CollisionFree used) (own : r.demand.IsOf owner used) :
    (serve r).Discreet used owner e s t := by
  rw [serve_eq]
  cases demand : r.demand with
  | settled response => exact agree_pure paired
  | report => exact discreet_readiness paired
  | action caller a =>
      rw [demand] at own
      obtain ⟨rfl, within, alone⟩ := own
      exact discreet_respond paired free within alone

/-- **Answers do not reveal the records of others.** Take two reachable stores that have in common
an owner's rows, garbage or not, the rows that these name, the owner's plan and the supply of
identifiers. Every action of the owner that asks for no link has the same answer in both, or the
same failure, and leaves both with all of this in common again. So has every request that demands
such an action: it is answered with the same status and the same body. -/
theorem foreign_records_unseen {used : Set (String × ContentHash)} {s t : Store} {owner : String}
    (free : CollisionFree used) (left : Reachable used s) (right : Reachable used t)
    (alike : Store.Alike owner s t) (e : Surroundings) :
    (∀ (caller : Caller) (a : Action), caller.owner = owner → a.Within caller used →
      a.asksToLink = false →
        (a.run caller e ⟨s, 0⟩).1 = (a.run caller e ⟨t, 0⟩).1 ∧
          Store.Alike owner (a.after caller e s) (a.after caller e t)) ∧
      ∀ r : Http.Request, r.demand.IsOf owner used →
        (Operation.serve r e ⟨s, 0⟩).1 = (Operation.serve r e ⟨t, 0⟩).1 ∧
          Store.Alike owner (Operation.serve r e ⟨s, 0⟩).2.store
            (Operation.serve r e ⟨t, 0⟩).2.store := by
  have paired : Store.Paired used owner s t :=
    ⟨alike, left.wellFormed free, right.wellFormed free⟩
  constructor
  · rintro caller a rfl within alone
    have discreet := Operation.discreet_run (e := e) paired free within alone
    refine ⟨discreet.result 0, ?_⟩
    rw [Action.after_eq_run, Action.after_eq_run]
    exact (discreet.stores 0).alike
  · intro r own
    have discreet := Operation.discreet_serve (e := e) paired free own
    exact ⟨discreet.result 0, (discreet.stores 0).alike⟩

/-- Bob asks for a listing of his records. -/
def Http.Request.listing : Request :=
  ⟨"GET", ⟨"/objects", none⟩,
    [(ownerHeader, "bob"), (subjectHeader, "bob"), (kindHeader, "USER")], []⟩

set_option maxRecDepth 10000 in
theorem Http.Request.demand_listing : listing.demand = .action .bob (.list ⟨.all, none, none⟩) := by
  rfl

theorem foreign_records_unseen_registering :
    let secret : Metadata := ⟨some "secret", none, none, none⟩
    let s := (Action.register ContentHash.zeros.hex .empty false).after .ann (.calm .empty) .empty
    let t := (Action.register ContentHash.zeros.hex secret false).after .ann (.calm .empty) .empty
    let a : Action := .register ContentHash.zeros.hex .empty false
    s.rows ≠ t.rows ∧
      (a.run .bob (.calm .empty) ⟨s, 0⟩).1 = (a.run .bob (.calm .empty) ⟨t, 0⟩).1 ∧
      (Operation.serve .listing (.calm .empty) ⟨s, 0⟩).1 =
        (Operation.serve .listing (.calm .empty) ⟨t, 0⟩).1 := by
  intro secret s t a
  let used : Set (String × ContentHash) := {("ann", .zeros), ("bob", .zeros)}
  have spelled : ∀ m, (Action.register ContentHash.zeros.hex m false).Within .ann used ∧
      (Action.register ContentHash.zeros.hex m false).Within .bob used := fun m =>
    ⟨Action.within_of_texts [.zeros] rfl (by simp [Caller.ann, used]),
      Action.within_of_texts [.zeros] rfl (by simp [Caller.bob, used])⟩
  have left : Reachable used s := .act .empty trivial (spelled .empty).1
  have right : Reachable used t := .act .empty trivial (spelled secret).1
  have first : s = Store.empty.put (ownDraft "ann" .zeros .empty 0) ⟨0, 0⟩ := after_first _ rfl
  have other : t = Store.empty.put (ownDraft "ann" .zeros secret 0) ⟨0, 0⟩ := after_first _ rfl
  -- All that there is in either store is one row of Ann's.
  have foreign : ∀ m, ∀ r ∈ (Store.empty.put (ownDraft "ann" .zeros m 0) ⟨0, 0⟩).rows,
      r.owner ≠ "bob" := by
    intro m r row
    cases List.mem_singleton.mp row
    change "ann" ≠ "bob"
    decide
  have rest : ∀ d, (Store.empty.put d ⟨0, 0⟩).plan? "bob" = none ∧
      (Store.empty.put d ⟨0, 0⟩).nextId = 1 := fun d => ⟨rfl, rfl⟩
  have alike : Store.Alike "bob" s t := by
    rw [first, other]
    refine ⟨fun r owned => ?_, fun r names => ?_, ?_, ?_⟩
    · exact iff_of_false (fun row => foreign _ r row owned) fun row => foreign _ r row owned
    · obtain ⟨own, row, owned, -⟩ := names
      exact absurd owned (foreign _ own row)
    · rw [(rest _).1, (rest _).1]
    · rw [(rest _).2, (rest _).2]
  have unseen := foreign_records_unseen collisionFree_zeros left right alike (.calm .empty)
  refine ⟨?_, (unseen.1 .bob a rfl (spelled .empty).2 rfl).1, (unseen.2 .listing ?_).1⟩
  · rw [first, other]
    intro same
    exact absurd (congrArg Record.objectName (List.singleton_inj.mp same)) (by decide)
  · rw [Http.Request.demand_listing]
    exact ⟨rfl, Action.within_of_texts [] rfl (by simp), rfl⟩

end ContentStore
