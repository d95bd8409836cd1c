import ContentStore.Proofs.Resolution

/-!
# Outcomes of the service

What registering, fetching, updating, deleting and listing can do, each said once. A call that
succeeds ends in an *award*: a record, the storage id to read from, and whether the caller may
write. `Registers`, `Fetches` and `Updates` say which award a call comes to and which store it
leaves behind. A call that fails leaves the store alone, except for a move that stops between its
steps (`MoveCut`) and for an award whose tokens would outlive the calendar.
-/

namespace ContentStore

/-- What a caller is given access to. -/
structure Award where
  record : Record
  readFrom : Option String
  writable : Bool

/-- The grants for an award. -/
def Award.grant (w : Award) (caller : Caller) : Operation Granted :=
  Operation.grantAccess caller w.record w.readFrom w.writable

/-- The grant that starts now and ends at a given time. -/
def Issuer.grantUntil (i : Issuer) (method : Method) (storageId subject : String)
    (now expiresAt : Time.Instant) : Grant :=
  { claims :=
      { issuer := i.name, subject := subject, audience := storageId,
        issuedAt := now.seconds, expiresAt := expiresAt.seconds, method := method }
    issuedAt := now
    expiresAt := expiresAt }

/-- The answer to a caller who is given an award. -/
def Award.granted (w : Award) (e : Surroundings) (caller : Caller) (expiresAt : Time.Instant) :
    Granted :=
  { record := w.record
    read := w.readFrom.map fun id => e.issuer.grantUntil .get id caller.owner e.now expiresAt
    write :=
      if w.writable && !w.record.isLink && w.record.owner = caller.owner then
        some (e.issuer.grantUntil .put w.record.storageId caller.owner e.now expiresAt)
      else none
    now := e.now
    expiresAt := expiresAt }

/-- The award for bytes that were found. -/
def Resolution.award : Resolution → Award
  | backed r => ⟨r, some r.storageId, true⟩
  | link l t => ⟨l, some t.storageId, false⟩
  | linked l t => ⟨l, some t.storageId, false⟩

/-- The size that an update gives a row. -/
def Metadata.sizeFor (m : Metadata) (row : Record) : Except Refusal Int :=
  if m.givesSize then m.size else .ok row.size

theorem Metadata.sizeFor_eq {m : Metadata} {row : Record} {size : Int} (sized : m.size = .ok size) :
    m.sizeFor row = .ok (if m.givesSize then size else row.size) := by
  unfold sizeFor
  split
  · exact sized
  · rfl

/-- The other content that a revision moves a record to, if it names any. -/
def Revision.moveTo? (r : Revision) (hash : ContentHash) : Option ContentHash :=
  (r.newHash.bind fun text => (ContentHash.parse text).toOption).filter (· ≠ hash)

/-- A row from which registering finds no bytes: there are none, or its link cannot be followed. -/
def Surroundings.Misses (e : Surroundings) (s : Store) (row : Record) : Prop :=
  e.bytesOf? s row = none ∨
    row.isLink = true ∧ ∃ f, e.Stops (.lookup row.linkedObject) f

/-- What registering comes to, whether it says that the content is new, and the store after it. -/
inductive Registers (e : Surroundings) (s : Store) (caller : Caller) (hash : ContentHash)
    (m : Metadata) (autoLink : Bool) : Award → Bool → Store → Prop where
  | known {row : Record} {real : String} :
      s.find? (storageId caller.owner hash) = some row → row.owner = caller.owner →
      e.bytesOf? s row = some real →
      Registers e s caller hash m autoLink ⟨row, some real, false⟩ false s
  | relinked {row : Record} {r : Resolution} {s' : Store} :
      s.find? (storageId caller.owner hash) = some row → row.owner = caller.owner →
      e.Misses s row → autoLink = true → Resolves e s caller.owner hash true m.objectName r s' →
      Registers e s caller hash m autoLink r.award false s'
  | repaired {row : Record} {size : Int} :
      s.find? (storageId caller.owner hash) = some row → row.owner = caller.owner →
      e.Misses s row → (autoLink = true → e.Candid → e.source? s caller.owner hash = none) →
      m.sizeFor row = .ok size → e.Admits s caller.owner [row.storageId] size →
      Registers e s caller hash m autoLink
        ⟨s.written (row.revised m size) e.now, none, true⟩ false (s.put (row.revised m size) e.now)
  | linked {r : Resolution} {s' : Store} :
      s.find? (storageId caller.owner hash) = none → autoLink = true →
      Resolves e s caller.owner hash true m.objectName r s' →
      Registers e s caller hash m autoLink r.award true s'
  | created {size : Int} :
      s.find? (storageId caller.owner hash) = none →
      (autoLink = true → e.Candid → e.source? s caller.owner hash = none) → m.size = .ok size →
      e.Admits s caller.owner [storageId caller.owner hash] size →
      Registers e s caller hash m autoLink
        ⟨s.written (ownDraft caller.owner hash m size) e.now, none, true⟩ true
        (s.put (ownDraft caller.owner hash m size) e.now)

/-- What fetching comes to, and the store after it. -/
inductive Fetches (e : Surroundings) (s : Store) (caller : Caller) (hash : ContentHash)
    (autoLink : Bool) : Award → Store → Prop where
  | resolved {r : Resolution} {s' : Store} :
      Resolves e s caller.owner hash autoLink none r s' → r.record.owner = caller.owner →
      Fetches e s caller hash autoLink r.award s'
  | waiting {row : Record} :
      s.find? (storageId caller.owner hash) = some row → row.isLink = false →
      row.owner = caller.owner → (e.Candid → e.holds row.storageId = false) →
      Fetches e s caller hash autoLink ⟨row, none, true⟩ s

/-- A move to other content that has passed every check before its first write. -/
structure MoveReady (e : Surroundings) (s : Store) (caller : Caller) (hash newHash : ContentHash)
    (m : Metadata) (row : Record) (size : Int) : Prop where
  live : s.find? (storageId caller.owner hash) = some row
  owned : row.owner = caller.owner
  other : newHash ≠ hash
  sized : m.sizeFor row = .ok size
  admits : e.Admits s caller.owner [row.storageId, storageId caller.owner newHash] size

/-- What updating comes to, and the store after it. -/
inductive Updates (e : Surroundings) (s : Store) (caller : Caller) (hash : ContentHash)
    (revision : Revision) : Award → Store → Prop where
  | renamed {row : Record} :
      revision.moveTo? hash = none → s.find? (storageId caller.owner hash) = some row →
      row.owner = caller.owner → row.isLink = true →
      Updates e s caller hash revision
        ⟨s.written (row.renamed revision.metadata) e.now,
          some (s.written (row.renamed revision.metadata) e.now).realStorageId, false⟩
        (s.put (row.renamed revision.metadata) e.now)
  | revised {row : Record} {size : Int} :
      revision.moveTo? hash = none → s.find? (storageId caller.owner hash) = some row →
      row.owner = caller.owner → row.isLink = false → revision.metadata.sizeFor row = .ok size →
      e.Admits s caller.owner [storageId caller.owner hash] size →
      Updates e s caller hash revision
        ⟨s.written (row.revised revision.metadata size) e.now,
          some (storageId caller.owner hash), true⟩
        (s.put (row.revised revision.metadata size) e.now)
  | moved {row : Record} {newHash : ContentHash} {size : Int} :
      revision.moveTo? hash = some newHash →
      MoveReady e s caller hash newHash revision.metadata row size →
      Updates e s caller hash revision
        ⟨s.written (row.moved caller.owner newHash revision.metadata size) e.now,
          if e.holds (storageId caller.owner newHash) then some (storageId caller.owner newHash)
          else none, true⟩
        ((s.put (row.moved caller.owner newHash revision.metadata size) e.now).markGarbage
          row.storageId e.now)

/-- A move that stops after its first write: when the old row is to become garbage, or when the
bytes of the new content are looked for. -/
inductive MoveCut (e : Surroundings) (s : Store) (caller : Caller) (hash : ContentHash)
    (revision : Revision) : Failure → Store → Prop where
  | erase {row : Record} {newHash : ContentHash} {size : Int} {f : Failure} :
      revision.moveTo? hash = some newHash →
      MoveReady e s caller hash newHash revision.metadata row size →
      e.Answers (.write (storageId caller.owner newHash)) → e.Stops (.erase row.storageId) f →
      MoveCut e s caller hash revision f
        (s.put (row.moved caller.owner newHash revision.metadata size) e.now)
  | probe {row : Record} {newHash : ContentHash} {size : Int} {f : Failure} :
      revision.moveTo? hash = some newHash →
      MoveReady e s caller hash newHash revision.metadata row size →
      e.Stops (.probe (storageId caller.owner newHash)) f →
      MoveCut e s caller hash revision f
        ((s.put (row.moved caller.owner newHash revision.metadata size) e.now).markGarbage
          row.storageId e.now)

namespace Operation

/-- A row that stays with its content gets new metadata. -/
def changeInPlace (caller : Caller) (hash : ContentHash) (row : Record) (m : Metadata)
    (size : Int) : Operation Granted := do
  if row.isLink then
    let record ← write (row.renamed m)
    grantAccess caller record (some record.realStorageId) false
  else
    checkQuota caller.owner [storageId caller.owner hash] size
    let record ← write (row.revised m size)
    grantAccess caller record (some (storageId caller.owner hash)) true

/-- An update of which it is known to which other content it moves the row, if to any. -/
def updateTo (caller : Caller) (hash : ContentHash) (m : Metadata)
    (newHash : Option ContentHash) : Operation Granted := do
  let row ← requireSome (← find (storageId caller.owner hash))
  requireOwner caller row
  let size ← ofExcept (m.sizeFor row)
  match newHash with
  | some newHash => moveContent caller row newHash m size
  | none => changeInPlace caller hash row m size

end Operation

theorem Revision.moveTo?_of_none {r : Revision} {hash : ContentHash} (given : r.newHash = none) :
    r.moveTo? hash = (none : Option ContentHash).filter (· ≠ hash) := by
  rw [moveTo?, given, Option.bind_none]

theorem Revision.moveTo?_of_some {r : Revision} {hash newHash : ContentHash} {text : String}
    (given : r.newHash = some text) (parsed : ContentHash.parse text = .ok newHash) :
    r.moveTo? hash = (some newHash).filter (· ≠ hash) := by
  rw [moveTo?, given, Option.bind_some, parsed, Except.toOption]

theorem ContentHash.require_eq_ok_iff {text : String} {hash : ContentHash} :
    ContentHash.require text = .ok hash ↔ ContentHash.parse text = .ok hash := by
  unfold ContentHash.require
  split
  · next parsed => rw [parsed, Except.ok.injEq, Except.ok.injEq]
  · next fault parsed => simp [parsed]

namespace Operation

variable {e : Surroundings} {s : Store} {caller : Caller} {bad : Failure → Store → Prop}

/-! ### Granting -/

/-- An award is granted as a whole, or not at all where the calendar ends too soon. -/
theorem award_run (e : Surroundings) (caller : Caller) (w : Award) (p : Progress) :
    w.grant caller e p =
      match e.now.later? e.issuer.seconds with
      | some expiresAt => (.ok (w.granted e caller expiresAt), p)
      | none => (.error (.aborted .endOfTime), p) := by
  obtain ⟨record, readFrom, writable⟩ := w
  have issued : ∀ method id,
      (some <$> grant method id caller.owner : Operation (Option Grant)) e p =
      match e.now.later? e.issuer.seconds with
      | some expiresAt =>
          (.ok (some (e.issuer.grantUntil method id caller.owner e.now expiresAt)), p)
      | none => (.error (.aborted .endOfTime), p) := by
    intro method id
    rw [map_run, grant, Issuer.issue?]
    cases e.now.later? e.issuer.seconds <;> rfl
  unfold Award.grant grantAccess Award.granted
  cases ends : e.now.later? e.issuer.seconds with
  | none =>
      cases readFrom <;> dsimp only <;> split <;>
        simp [bind_run, pure_run, issued, ends, surroundings, abort, fail]
  | some expiresAt =>
      cases readFrom <;> dsimp only <;> split <;>
        simp [bind_run, pure_run, issued, ends, surroundings]

theorem ensures_award {w : Award} {good : Granted → Store → Prop}
    (granted : ∀ expiresAt, e.now.later? e.issuer.seconds = some expiresAt →
      good (w.granted e caller expiresAt) s)
    (expired : e.now.later? e.issuer.seconds = none → bad (.aborted .endOfTime) s) :
    (w.grant caller).Ensures e s good bad := by
  intro n
  rw [award_run]
  cases ends : e.now.later? e.issuer.seconds with
  | none => exact expired ends
  | some expiresAt => exact granted expiresAt ends

theorem grantResolution_eq (r : Resolution) : grantResolution caller r = r.award.grant caller := by
  cases r <;> rfl

/-! ### Registering -/

theorem ensures_knownBytes {row : Record} {good : Option String → Store → Prop}
    (known : ∀ real, e.bytesOf? s row = some real → good (some real) s)
    (missed : e.Misses s row → good none s) (stopped : ∀ f, bad f s) :
    (knownBytes row).Ensures e s good bad := by
  unfold knownBytes
  split
  · next isLink =>
      refine ensures_bind (ensures_attempt (ensures_follow (fun target found => ?_)
        (fun lost => ?_) fun f stops => ?_))
      · refine ensures_bind (ensures_bytesPresent (fun _ => ?_) fun f _ => stopped f)
        have leads := e.bytesOf?_link isLink found
        split
        · next held => exact ensures_pure (known _ (by rw [leads, if_pos held]))
        · next absent => exact ensures_pure (missed (.inl (by rw [leads, if_neg absent])))
      · exact ensures_pure (missed (.inl (e.bytesOf?_lost isLink lost)))
      · -- Whatever stops the lookup of the target, the link counts as leading nowhere.
        cases f with
        | refused r => exact ensures_pure (missed (.inr ⟨isLink, _, stops⟩))
        | aborted why => exact stopped _
  · next own =>
      have leads : e.bytesOf? s row = if e.holds row.storageId then some row.storageId else none :=
        e.bytesOf?_own (by simpa using own)
      refine ensures_bind (ensures_bytesPresent (fun _ => ?_) fun f _ => stopped f)
      split
      · next held => exact ensures_pure (known _ (by rw [leads, if_pos held]))
      · next absent => exact ensures_pure (missed (.inl (by rw [leads, if_neg absent])))

theorem ensures_tryLink {hash : ContentHash} {m : Metadata} {autoLink : Bool}
    {good : Option Resolution → Store → Prop}
    (found : ∀ r s', autoLink = true → Resolves e s caller.owner hash true m.objectName r s' →
      good (some r) s')
    (nowhere : (autoLink = true → e.Candid → e.source? s caller.owner hash = none) → good none s)
    (failed : ∀ f, bad f s) : (tryLink caller hash m autoLink).Ensures e s good bad := by
  unfold tryLink
  split
  · next asked =>
      refine ensures_bind (ensures_attempt (ensures_resolve (fun r s' resolves => ?_)
        fun f unresolved => ?_))
      · exact ensures_pure (found r s' asked resolves)
      · cases f with
        | aborted why => exact failed _
        | refused r =>
            cases r with
            | noBytes =>
                exact ensures_pure (nowhere fun _ candid => (unresolved.lacks candid).2 rfl)
            | _ => exact ensures_refuse (failed _)
  · next unasked => exact ensures_pure (nowhere fun asked => absurd asked unasked)

theorem ensures_registerKnown {hash : ContentHash} {row : Record} {m : Metadata} {size : Int}
    {autoLink : Bool} {good : Granted → Store → Prop}
    (live : s.find? (storageId caller.owner hash) = some row) (owned : row.owner = caller.owner)
    (sized : m.size = .ok size)
    (awarded : ∀ w s', Registers e s caller hash m autoLink w false s' →
      (w.grant caller).Ensures e s' good bad)
    (failed : ∀ f, bad f s) :
    (registerKnown caller hash row m size autoLink).Ensures e s good bad := by
  unfold registerKnown
  refine ensures_bind (ensures_knownBytes (fun real leads => ?_) (fun misses => ?_) failed)
  · exact awarded _ _ (.known live owned leads)
  · refine ensures_bind (ensures_tryLink (fun r s' asked resolves => ?_) (fun nowhere => ?_) failed)
    · dsimp only
      rw [grantResolution_eq]
      exact awarded _ _ (.relinked live owned misses asked resolves)
    · refine ensures_bind (ensures_checkQuota (fun admits => ?_) fun f _ => failed f)
      refine ensures_bind (ensures_write (fun _ => ?_) fun f _ => failed f)
      exact awarded _ _ (.repaired live owned misses nowhere (Metadata.sizeFor_eq sized) admits)

theorem ensures_registerNew {hash : ContentHash} {m : Metadata} {size : Int} {autoLink : Bool}
    {good : Granted → Store → Prop} (absent : s.find? (storageId caller.owner hash) = none)
    (sized : m.size = .ok size)
    (awarded : ∀ w s', Registers e s caller hash m autoLink w true s' →
      (w.grant caller).Ensures e s' good bad)
    (failed : ∀ f, bad f s) :
    (registerNew caller hash m size autoLink).Ensures e s good bad := by
  unfold registerNew
  refine ensures_bind (ensures_tryLink (fun r s' asked resolves => ?_) (fun nowhere => ?_) failed)
  · dsimp only
    rw [grantResolution_eq]
    exact awarded _ _ (.linked absent asked resolves)
  · refine ensures_bind (ensures_checkQuota (fun admits => ?_) fun f _ => failed f)
    refine ensures_bind (ensures_write (fun _ => ?_) fun f _ => failed f)
    exact awarded _ _ (.created absent nowhere sized admits)

theorem ensures_register {text : String} {m : Metadata} {autoLink : Bool}
    {good : Registered → Store → Prop}
    (awarded : ∀ hash w created s', ContentHash.parse text = .ok hash →
      Registers e s caller hash m autoLink w created s' →
      (w.grant caller).Ensures e s' (fun g => good ⟨g, created⟩) bad)
    (failed : ∀ f, bad f s) : (register caller text m autoLink).Ensures e s good bad := by
  unfold register
  refine ensures_bind (ensures_ofExcept (fun hash parsed => ?_) fun r _ => failed _)
  have parsed := ContentHash.require_eq_ok_iff.mp parsed
  refine ensures_bind (ensures_ofExcept (fun size sized => ?_) fun r _ => failed _)
  refine ensures_bind (ensures_find (fun _ => ?_) fun f _ => failed f)
  cases found : s.find? (storageId caller.owner hash) with
  | none =>
      refine ensures_bind (ensures_registerNew found sized (fun w s' registers => ?_) failed)
      exact (awarded hash w true s' parsed registers).mono (fun _ _ holds => ensures_pure holds)
        fun _ _ holds => holds
  | some row =>
      dsimp only
      unfold requireOwner
      split
      · next owned =>
          refine ensures_bind (ensures_pure (ensures_bind
            (ensures_registerKnown found owned sized (fun w s' registers => ?_) failed)))
          exact (awarded hash w false s' parsed registers).mono
            (fun _ _ holds => ensures_pure holds) fun _ _ holds => holds
      · exact ensures_bind (ensures_refuse (failed _))

/-- An answered registration has been awarded its record. -/
theorem register_awarded {text : String} {hash : ContentHash} {m : Metadata} {autoLink : Bool}
    {n : Journal} {first : Registered} (parsed : ContentHash.parse text = .ok hash)
    (answered : (register caller text m autoLink e ⟨s, n⟩).1 = .ok first) :
    ∃ w created expiresAt,
      Registers e s caller hash m autoLink w created
        (register caller text m autoLink e ⟨s, n⟩).2.store ∧
      first = ⟨w.granted e caller expiresAt, created⟩ := by
  have ends : (register caller text m autoLink).Ensures e s
      (fun first s' => ∃ w created expiresAt,
        Registers e s caller hash m autoLink w created s' ∧
          first = ⟨w.granted e caller expiresAt, created⟩) fun _ _ => True := by
    refine ensures_register (fun hash' w created s' parsed' registers => ?_) fun _ => trivial
    cases Except.ok.inj (parsed'.symm.trans parsed)
    exact ensures_award (fun expiresAt _ => ⟨w, created, expiresAt, registers, rfl⟩)
      fun _ => trivial
  exact ends.answered answered

/-! ### Fetching -/

theorem ensures_fetch {text : String} {autoLink : Bool} {good : Granted → Store → Prop}
    (awarded : ∀ hash w s', ContentHash.parse text = .ok hash →
      Fetches e s caller hash autoLink w s' → (w.grant caller).Ensures e s' good bad)
    (denied : ∀ hash r s', ContentHash.parse text = .ok hash →
      Resolves e s caller.owner hash autoLink none r s' → r.record.owner ≠ caller.owner →
      bad (.refused .noAccess) s')
    (failed : ∀ f, bad f s) : (fetch caller text autoLink).Ensures e s good bad := by
  unfold fetch
  refine ensures_bind (ensures_ofExcept (fun hash parsed => ?_) fun r _ => failed _)
  have parsed := ContentHash.require_eq_ok_iff.mp parsed
  refine ensures_bind (ensures_attempt (ensures_resolve (fun r s' resolves => ?_)
    fun f unresolved => ?_))
  · dsimp only
    unfold requireOwner
    split
    · next owned =>
        rw [grantResolution_eq]
        exact ensures_bind (ensures_pure (awarded hash _ s' parsed (.resolved resolves owned)))
    · next foreign =>
        exact ensures_bind (ensures_refuse (denied hash r s' parsed resolves foreign))
  · cases f with
    | aborted why => exact failed _
    | refused r =>
        cases r with
        | noBytes =>
            refine ensures_bind (ensures_find (fun _ => ?_) fun f _ => failed f)
            cases found : s.find? (storageId caller.owner hash) with
            | none => exact ensures_refuse (failed _)
            | some row =>
                dsimp only
                split
                · next waits =>
                    obtain ⟨own, owned⟩ : row.isLink = false ∧ row.owner = caller.owner := by
                      simpa using waits
                    refine awarded hash _ s parsed (.waiting found own owned fun candid => ?_)
                    have lacks := (unresolved.lacks candid).1 row found
                    rw [e.bytesOf?_own own] at lacks
                    simpa using lacks
                · exact ensures_refuse (failed _)
        | _ => exact ensures_refuse (failed _)

/-! ### Updating -/

theorem ensures_moveContent {hash newHash : ContentHash} {revision : Revision} {row : Record}
    {size : Int} {good : Granted → Store → Prop} (moves : revision.moveTo? hash = some newHash)
    (live : s.find? (storageId caller.owner hash) = some row) (owned : row.owner = caller.owner)
    (sized : revision.metadata.sizeFor row = .ok size)
    (awarded : ∀ w s', Updates e s caller hash revision w s' →
      (w.grant caller).Ensures e s' good bad)
    (cut : ∀ f s', MoveCut e s caller hash revision f s' → bad f s')
    (failed : ∀ f, bad f s) :
    (moveContent caller row newHash revision.metadata size).Ensures e s good bad := by
  have other : newHash ≠ hash := by simpa using (Option.filter_eq_some_iff.mp moves).2
  unfold moveContent
  refine ensures_bind (ensures_checkQuota (fun admits => ?_) fun f _ => failed f)
  have ready : MoveReady e s caller hash newHash revision.metadata row size :=
    ⟨live, owned, other, sized, admits⟩
  refine ensures_bind (ensures_write (fun wrote => ?_) fun f _ => failed f)
  refine ensures_bind (ensures_markGarbage (fun _ => ?_)
    fun f stops => cut f _ (.erase moves ready wrote stops))
  refine ensures_bind (ensures_bytesPresent (fun _ => ?_)
    fun f stops => cut f _ (.probe moves ready stops))
  have updates := Updates.moved moves ready
  cases held : e.holds (storageId caller.owner newHash) with
  | true =>
      rw [held, if_pos rfl] at updates
      exact awarded _ _ updates
  | false =>
      rw [held, if_neg Bool.false_ne_true] at updates
      exact awarded _ _ updates

/-- An update as its steps: what it names is read, the row is found, and then it is moved or changed
in place. -/
theorem update_eq (text : String) (revision : Revision) :
    update caller text revision = (do
      let hash ← ofExcept (ContentHash.require text)
      let newHash ←
        match revision.newHash with
        | none => pure none
        | some text => some <$> ofExcept (ContentHash.require text)
      updateTo caller hash revision.metadata (newHash.filter (· ≠ hash))) := by
  have body : ∀ (hash : ContentHash) (newHash : Option ContentHash),
      (do
        let row ← requireSome (← find (storageId caller.owner hash))
        requireOwner caller row
        let m := revision.metadata
        let size ← if m.givesSize then ofExcept m.size else pure row.size
        match newHash.filter (· ≠ hash) with
        | some newHash => moveContent caller row newHash m size
        | none =>
          if row.isLink then do
            let record ← write (row.renamed m)
            grantAccess caller record (some record.realStorageId) false
          else do
            let id := storageId caller.owner hash
            checkQuota caller.owner [id] size
            let record ← write (row.revised m size)
            grantAccess caller record (some id) true : Operation Granted) =
        updateTo caller hash revision.metadata (newHash.filter (· ≠ hash)) := by
    intro hash newHash
    unfold updateTo changeInPlace Metadata.sizeFor
    dsimp only
    cases revision.metadata.givesSize <;> rfl
  unfold update
  refine congrArg (ofExcept (ContentHash.require text) >>= ·) (funext fun hash => ?_)
  cases revision.newHash with
  | none => exact body hash none
  | some newText =>
      exact congrArg ((some <$> ofExcept (ContentHash.require newText)) >>= ·)
        (funext fun newHash => body hash newHash)

theorem ensures_changeInPlace {hash : ContentHash} {revision : Revision} {row : Record} {size : Int}
    {good : Granted → Store → Prop} (stays : revision.moveTo? hash = none)
    (live : s.find? (storageId caller.owner hash) = some row) (owned : row.owner = caller.owner)
    (sized : revision.metadata.sizeFor row = .ok size)
    (awarded : ∀ w s', Updates e s caller hash revision w s' →
      (w.grant caller).Ensures e s' good bad)
    (failed : ∀ f, bad f s) :
    (changeInPlace caller hash row revision.metadata size).Ensures e s good bad := by
  unfold changeInPlace
  split
  · next isLink =>
      refine ensures_bind (ensures_write (fun _ => ?_) fun f _ => failed f)
      exact awarded _ _ (.renamed stays live owned isLink)
  · next own =>
      have own : row.isLink = false := by simpa using own
      refine ensures_bind (ensures_checkQuota (fun admits => ?_) fun f _ => failed f)
      refine ensures_bind (ensures_write (fun _ => ?_) fun f _ => failed f)
      exact awarded _ _ (.revised stays live owned own sized admits)

theorem ensures_updateTo {hash : ContentHash} {revision : Revision} {good : Granted → Store → Prop}
    (awarded : ∀ w s', Updates e s caller hash revision w s' →
      (w.grant caller).Ensures e s' good bad)
    (cut : ∀ f s', MoveCut e s caller hash revision f s' → bad f s')
    (failed : ∀ f, bad f s) :
    (updateTo caller hash revision.metadata (revision.moveTo? hash)).Ensures e s good bad := by
  unfold updateTo requireSome requireOwner
  refine ensures_bind (ensures_find (fun _ => ?_) fun f _ => failed f)
  cases found : s.find? (storageId caller.owner hash) with
  | none => exact ensures_bind (ensures_refuse (failed _))
  | some row =>
      refine ensures_bind (ensures_pure ?_)
      split
      · next owned =>
          refine ensures_bind (ensures_pure ?_)
          refine ensures_bind (ensures_ofExcept (fun size sized => ?_) fun r _ => failed _)
          cases moves : revision.moveTo? hash with
          | some newHash => exact ensures_moveContent moves found owned sized awarded cut failed
          | none => exact ensures_changeInPlace moves found owned sized awarded failed
      · exact ensures_bind (ensures_refuse (failed _))

theorem ensures_update {text : String} {revision : Revision} {good : Granted → Store → Prop}
    (awarded : ∀ hash w s', ContentHash.parse text = .ok hash →
      Updates e s caller hash revision w s' → (w.grant caller).Ensures e s' good bad)
    (cut : ∀ hash f s', ContentHash.parse text = .ok hash →
      MoveCut e s caller hash revision f s' → bad f s')
    (failed : ∀ f, bad f s) : (update caller text revision).Ensures e s good bad := by
  rw [update_eq]
  refine ensures_bind (ensures_ofExcept (fun hash parsed => ?_) fun r _ => failed _)
  have parsed := ContentHash.require_eq_ok_iff.mp parsed
  have rest : (updateTo caller hash revision.metadata (revision.moveTo? hash)).Ensures e s good
      bad := by
    refine ensures_updateTo (fun w s' updates => ?_) (fun f s' broke => ?_) failed
    · exact awarded hash w s' parsed updates
    · exact cut hash f s' parsed broke
  cases given : revision.newHash with
  | none =>
      rw [Revision.moveTo?_of_none given] at rest
      exact ensures_bind (ensures_pure rest)
  | some newText =>
      refine ensures_bind (ensures_map (ensures_ofExcept (fun newHash newParsed => ?_)
        fun r _ => failed _))
      have newParsed := ContentHash.require_eq_ok_iff.mp newParsed
      rw [Revision.moveTo?_of_some given newParsed] at rest
      exact rest

/-- An answered update has been awarded its record. -/
theorem update_awarded {text : String} {hash : ContentHash} {revision : Revision} {n : Journal}
    {g : Granted} (parsed : ContentHash.parse text = .ok hash)
    (answered : (update caller text revision e ⟨s, n⟩).1 = .ok g) :
    ∃ w expiresAt,
      Updates e s caller hash revision w (update caller text revision e ⟨s, n⟩).2.store ∧
      g = w.granted e caller expiresAt := by
  have ends : (update caller text revision).Ensures e s
      (fun g s' => ∃ w expiresAt, Updates e s caller hash revision w s' ∧
        g = w.granted e caller expiresAt) fun _ _ => True := by
    refine ensures_update (fun hash' w s' parsed' updates => ?_) (fun _ _ _ _ _ => trivial)
      fun _ => trivial
    cases Except.ok.inj (parsed'.symm.trans parsed)
    exact ensures_award (fun expiresAt _ => ⟨w, expiresAt, updates, rfl⟩) fun _ => trivial
  exact ends.answered answered

/-- An answered update has read every text that names a content. -/
theorem parse_of_update {text : String} {revision : Revision} {n : Journal} {g : Granted}
    (answered : (update caller text revision e ⟨s, n⟩).1 = .ok g) :
    (∃ hash, ContentHash.parse text = .ok hash) ∧
      ∀ newText, revision.newHash = some newText →
        ∃ newHash, ContentHash.parse newText = .ok newHash := by
  rw [update_eq] at answered
  cases required : ContentHash.require text with
  | error r =>
      rw [required] at answered
      cases answered
  | ok hash =>
      rw [required] at answered
      refine ⟨⟨hash, ContentHash.require_eq_ok_iff.mp required⟩, fun newText given => ?_⟩
      cases newRequired : ContentHash.require newText with
      | error r =>
          rw [given, bind_run] at answered
          dsimp only [ofExcept, give] at answered
          rw [newRequired] at answered
          cases answered
      | ok newHash => exact ⟨newHash, ContentHash.require_eq_ok_iff.mp newRequired⟩

/-! ### Deleting and listing -/

theorem ensures_delete {text : String} {good : Record → Store → Prop}
    (deleted : ∀ hash row, ContentHash.parse text = .ok hash →
      s.find? (storageId caller.owner hash) = some row → row.owner = caller.owner →
      good { row with garbage := true } (s.markGarbage (storageId caller.owner hash) e.now))
    (failed : ∀ f, bad f s) : (delete caller text).Ensures e s good bad := by
  unfold delete
  refine ensures_bind (ensures_ofExcept (fun hash parsed => ?_) fun r _ => failed _)
  have parsed := ContentHash.require_eq_ok_iff.mp parsed
  refine ensures_bind (ensures_find (fun _ => ?_) fun f _ => failed f)
  unfold requireSome requireOwner
  cases found : s.find? (storageId caller.owner hash) with
  | none => exact ensures_bind (ensures_refuse (failed _))
  | some row =>
      refine ensures_bind (ensures_pure ?_)
      split
      · next owned =>
          refine ensures_bind (ensures_pure (ensures_bind (ensures_markGarbage (fun _ => ?_)
            fun f _ => failed f)))
          rw [found, if_pos Option.isSome_some]
          exact ensures_pure (deleted hash row parsed found owned)
      · exact ensures_bind (ensures_refuse (failed _))

/-- An answered deletion turned the live row into garbage. -/
theorem delete_erased {text : String} {hash : ContentHash} {gone : Record} {n : Journal}
    (parsed : ContentHash.parse text = .ok hash)
    (answered : (delete caller text e ⟨s, n⟩).1 = .ok gone) :
    ∃ row, s.find? (storageId caller.owner hash) = some row ∧ gone = { row with garbage := true } ∧
      (delete caller text e ⟨s, n⟩).2.store =
        s.markGarbage (storageId caller.owner hash) e.now := by
  have ends : (delete caller text).Ensures e s
      (fun gone s' => ∃ row, s.find? (storageId caller.owner hash) = some row ∧
        gone = { row with garbage := true } ∧
        s' = s.markGarbage (storageId caller.owner hash) e.now) fun _ _ => True := by
    refine ensures_delete (fun hash' row parsed' found _ => ?_) fun _ => trivial
    cases Except.ok.inj (parsed'.symm.trans parsed)
    exact ⟨row, found, rfl, rfl⟩
  exact ends.answered answered

theorem ensures_listPage {q : ListRequest} {good : Page → Store → Prop}
    (listed : ∀ filter, q.effectiveFilter = .ok filter →
      good (Page.ofRecords q.limit (s.list caller.owner filter (q.limit + 1))) s)
    (failed : ∀ f, bad f s) : (listPage caller q).Ensures e s good bad := by
  unfold listPage
  refine ensures_bind (ensures_ofExcept (fun filter effective => ?_) fun r _ => failed _)
  refine ensures_bind (ensures_list (fun _ => ?_) fun f _ => failed f)
  exact ensures_pure (listed filter effective)

end Operation
end ContentStore
