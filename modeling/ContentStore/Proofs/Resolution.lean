import ContentStore.Proofs.Ensures

/-!
# What resolving finds

`Resolves` and `Unresolved` say everything that `resolve` can do: which of its three answers it
gives and from which rows and bytes, what it has written by then, and with which failures it ends
(always before anything is written). The rules `ensures_follow`, `ensures_resolve` and so on
reduce an operation that resolves to these cases.
-/

namespace ContentStore

/-- The record that owns the bytes a link stands for. -/
def Store.target? (s : Store) (link : Record) : Option Record :=
  (s.find? link.linkedObject).filter (·.isTargetOf link)

/-- The storage id of the bytes that a row leads to, if they are present. -/
def Surroundings.bytesOf? (e : Surroundings) (s : Store) (row : Record) : Option String :=
  (if row.isLink then (s.target? row).map (·.storageId) else some row.storageId).filter e.holds

/-- The live row of a key, if there is one, leads to no bytes. -/
def Surroundings.Lacks (e : Surroundings) (s : Store) (key : String) : Prop :=
  ∀ row, s.find? key = some row → e.bytesOf? s row = none

/-- The record that a new link is made to. -/
def Surroundings.source? (e : Surroundings) (s : Store) (owner : String) (hash : ContentHash) :
    Option Record :=
  (s.candidates hash.hex owner).find? fun r => e.holds r.storageId

/-- The row of the link that resolving makes. -/
def Store.linkTo (s : Store) (owner : String) (hash : ContentHash) (given : Option String)
    (target : Record) : Draft :=
  linkDraft owner hash (linkName given (s.find? (storageId owner hash)) target) target

/-- What resolving finds, and the store that it leaves behind. -/
inductive Resolves (e : Surroundings) (s : Store) (owner : String) (hash : ContentHash)
    (autoLink : Bool) (given : Option String) : Resolution → Store → Prop where
  | backed {row : Record} :
      s.find? (storageId owner hash) = some row → row.isLink = false →
      e.holds row.storageId = true → Resolves e s owner hash autoLink given (.backed row) s
  | link {row target : Record} :
      s.find? (storageId owner hash) = some row → row.isLink = true →
      s.target? row = some target → e.holds target.storageId = true →
      Resolves e s owner hash autoLink given (.link row target) s
  | linked {target : Record} :
      autoLink = true → (e.Candid → e.Lacks s (storageId owner hash)) →
      e.source? s owner hash = some target →
      e.Admits s owner [storageId owner hash] target.size →
      Resolves e s owner hash autoLink given
        (.linked (s.written (s.linkTo owner hash given target) e.now) target)
        (s.put (s.linkTo owner hash given target) e.now)

/-- How resolving fails; nothing is written then. -/
inductive Unresolved (e : Surroundings) (s : Store) (owner : String) (hash : ContentHash)
    (autoLink : Bool) : Failure → Prop where
  | stopped {c : Call} {f : Failure} : e.Stops c f → Unresolved e s owner hash autoLink f
  | rejected {target : Record} {f : Failure} :
      autoLink = true → (e.Candid → e.Lacks s (storageId owner hash)) →
      e.source? s owner hash = some target →
      e.Rejects s owner [storageId owner hash] target.size f →
      Unresolved e s owner hash autoLink f
  | noBytes :
      (e.Candid → e.Lacks s (storageId owner hash)) →
      (autoLink = true → e.source? s owner hash = none) →
      Unresolved e s owner hash autoLink (.refused .noBytes)

/-- The verdict that there are no bytes is only reached where there are none. -/
theorem Unresolved.lacks {e : Surroundings} {s : Store} {owner : String} {hash : ContentHash}
    {autoLink : Bool} (unresolved : Unresolved e s owner hash autoLink (.refused .noBytes))
    (candid : e.Candid) :
    e.Lacks s (storageId owner hash) ∧ (autoLink = true → e.source? s owner hash = none) := by
  cases unresolved with
  | stopped stops => exact absurd rfl (stops.ne_noBytes candid)
  | rejected _ _ _ rejects => exact absurd rfl (rejects.ne_noBytes candid)
  | noBytes lacks none => exact ⟨lacks candid, none⟩

section Bytes

variable {e : Surroundings} {s : Store} {row target : Record}

theorem Store.target?_eq_some_iff :
    s.target? row = some target ↔
      s.find? row.linkedObject = some target ∧ target.isLink = false ∧
        target.sha256 = row.sha256 := by
  simp [Store.target?, Option.filter_eq_some_iff, Record.isTargetOf]

theorem Surroundings.bytesOf?_own (own : row.isLink = false) :
    e.bytesOf? s row = if e.holds row.storageId then some row.storageId else none := by
  cases held : e.holds row.storageId <;> simp [bytesOf?, own, held, Option.filter]

theorem Surroundings.bytesOf?_link (link : row.isLink = true)
    (found : s.target? row = some target) :
    e.bytesOf? s row = if e.holds target.storageId then some target.storageId else none := by
  cases held : e.holds target.storageId <;> simp [bytesOf?, link, found, held, Option.filter]

theorem Surroundings.bytesOf?_lost (link : row.isLink = true) (lost : s.target? row = none) :
    e.bytesOf? s row = none := by
  simp [bytesOf?, link, lost]

theorem Store.mem_candidates_iff {sha256 notOwner : String} {r : Record} :
    r ∈ s.candidates sha256 notOwner ↔
      r ∈ s.rows ∧ r.sha256 = sha256 ∧ r.owner ≠ notOwner ∧ r.garbage = false ∧
        r.isLink = false := by
  simp [Store.candidates, and_assoc]

theorem Surroundings.source?_some {owner : String} {hash : ContentHash}
    (source : e.source? s owner hash = some target) :
    target ∈ s.candidates hash.hex owner ∧ e.holds target.storageId = true :=
  ⟨List.mem_of_find?_eq_some source, by simpa using List.find?_some source⟩

end Bytes

namespace Operation

variable {e : Surroundings} {s : Store} {bad : Failure → Store → Prop}

/-! ### Rules -/

theorem ensures_follow {link : Record} {good : Record → Store → Prop}
    (found : ∀ target, s.target? link = some target → good target s)
    (lost : s.target? link = none → bad (.refused .noBytes) s)
    (stopped : ∀ f, e.Stops (.lookup link.linkedObject) f → bad f s) :
    (follow link).Ensures e s good bad := by
  unfold follow
  refine ensures_bind (ensures_find (fun _ => ?_) stopped)
  cases live : s.find? link.linkedObject with
  | none => exact ensures_refuse (lost (by simp [Store.target?, live]))
  | some target =>
      dsimp only
      split
      · next fits => exact ensures_pure (found target (by simp [Store.target?, live, fits]))
      · next unfit => exact ensures_refuse (lost (by simp [Store.target?, live, unfit]))

/-- Where the owner's live row leads. -/
theorem ensures_resolveExisting {row : Record} {good : Option Resolution → Store → Prop}
    (backed : row.isLink = false → e.holds row.storageId = true → good (some (.backed row)) s)
    (link : ∀ target, row.isLink = true → s.target? row = some target →
      e.holds target.storageId = true → good (some (.link row target)) s)
    (lacks : (e.Candid → e.bytesOf? s row = none) → good none s)
    (stopped : ∀ c f, e.Stops c f → bad f s) : (resolveExisting row).Ensures e s good bad := by
  unfold resolveExisting
  split
  · next isLink =>
      refine ensures_bind (ensures_attempt (ensures_follow (fun target found => ?_)
        (fun lost => ?_) fun f stops => ?_))
      · refine ensures_bind (ensures_bytesPresent (fun _ => ?_) (stopped _))
        split
        · next held => exact ensures_pure (link target isLink found held)
        · next absent =>
            exact ensures_pure (lacks fun _ => by rw [e.bytesOf?_link isLink found, if_neg absent])
      · exact ensures_pure (lacks fun _ => e.bytesOf?_lost isLink lost)
      · cases f with
        | aborted why => exact stopped _ _ stops
        | refused r =>
            cases r with
            | noBytes =>
                exact ensures_pure (lacks fun candid => absurd rfl (stops.ne_noBytes candid))
            | _ => exact ensures_refuse (stopped _ _ stops)
  · next own =>
      have own : row.isLink = false := by simpa using own
      refine ensures_bind (ensures_bytesPresent (fun _ => ?_) (stopped _))
      split
      · next held => exact ensures_pure (backed own held)
      · next absent =>
          exact ensures_pure (lacks fun _ => by rw [e.bytesOf?_own own, if_neg absent])

/-- The first of the candidates whose bytes are present, if every one can be asked about. -/
theorem ensures_firstPresent {records : List Record} {good : Option Record → Store → Prop}
    (found : good (records.find? fun r => e.holds r.storageId) s)
    (stopped : ∀ id f, e.Stops (.probe id) f → bad f s) :
    (firstPresent records).Ensures e s good bad := by
  induction records with
  | nil => exact ensures_pure found
  | cons r rest ih =>
      unfold firstPresent
      refine ensures_bind (ensures_bytesPresent (fun _ => ?_) (stopped _))
      cases held : e.holds r.storageId with
      | true =>
          rw [List.find?_cons_of_pos (by simpa using held)] at found
          exact ensures_pure found
      | false =>
          rw [List.find?_cons_of_neg (by simp [held])] at found
          exact ih found

theorem ensures_linkElsewhere {owner : String} {hash : ContentHash} {given : Option String}
    {good : Resolution → Store → Prop}
    (linked : ∀ target, e.source? s owner hash = some target →
      e.Admits s owner [storageId owner hash] target.size →
      good (.linked (s.written (s.linkTo owner hash given target) e.now) target)
        (s.put (s.linkTo owner hash given target) e.now))
    (rejected : ∀ target f, e.source? s owner hash = some target →
      e.Rejects s owner [storageId owner hash] target.size f → bad f s)
    (lost : e.source? s owner hash = none → bad (.refused .noBytes) s)
    (stopped : ∀ c f, (∀ id, c ≠ .lookup id) → e.Stops c f → bad f s) :
    (linkElsewhere owner hash given (s.find? (storageId owner hash))).Ensures e s good bad := by
  unfold linkElsewhere
  refine ensures_bind (ensures_candidates (fun _ => ?_) fun f => stopped _ f nofun)
  refine ensures_bind (ensures_firstPresent ?_ fun id f => stopped _ f nofun)
  cases source : (s.candidates hash.hex owner).find? fun r => e.holds r.storageId with
  | none => exact ensures_refuse (lost source)
  | some target =>
      refine ensures_bind (ensures_checkQuota (fun admits => ?_) fun f => rejected target f source)
      refine ensures_bind (ensures_write (fun _ => ?_) fun f => stopped _ f nofun)
      exact ensures_pure (linked target source admits)

/-- Resolving finds what `Resolves` says, or fails as `Unresolved` says with nothing written. -/
theorem ensures_resolve {owner : String} {hash : ContentHash} {autoLink : Bool}
    {given : Option String} {good : Resolution → Store → Prop}
    (found : ∀ r s', Resolves e s owner hash autoLink given r s' → good r s')
    (failed : ∀ f, Unresolved e s owner hash autoLink f → bad f s) :
    (resolve owner hash autoLink given).Ensures e s good bad := by
  have stopped : ∀ c f, e.Stops c f → bad f s := fun c f stops => failed f (.stopped stops)
  -- Where the owner's row leads nowhere, the search goes on elsewhere or ends.
  have elsewhere : (e.Candid → e.Lacks s (storageId owner hash)) →
      (if autoLink = true then linkElsewhere owner hash given (s.find? (storageId owner hash))
        else refuse .noBytes).Ensures e s good bad := by
    intro lacks
    split
    · next asked =>
        refine ensures_linkElsewhere (fun target source admits => ?_)
          (fun target f source rejects => ?_) (fun lost => ?_) fun c f _ => stopped c f
        · exact found _ _ (.linked asked lacks source admits)
        · exact failed f (.rejected asked lacks source rejects)
        · exact failed _ (.noBytes lacks fun _ => lost)
    · next unasked =>
        exact ensures_refuse (failed _ (.noBytes lacks fun asked => absurd asked unasked))
  unfold resolve
  refine ensures_bind (ensures_find (fun _ => ?_) (stopped _))
  cases live : s.find? (storageId owner hash) with
  | none =>
      have lacks : e.Lacks s (storageId owner hash) := fun row found => by
        rw [live] at found
        cases found
      rw [live] at elsewhere
      exact ensures_bind (ensures_pure (elsewhere fun _ => lacks))
  | some row =>
      have only : ∀ row', s.find? (storageId owner hash) = some row' → row' = row :=
        fun row' found => Option.some.inj (found.symm.trans live)
      rw [live] at elsewhere
      refine ensures_bind (ensures_resolveExisting (fun own held => ?_)
        (fun target isLink leads held => ?_) (fun lacks => ?_) stopped)
      · exact ensures_pure (found _ _ (.backed live own held))
      · exact ensures_pure (found _ _ (.link live isLink leads held))
      · exact elsewhere fun candid row' found => by
          rw [only row' found]
          exact lacks candid

end Operation
end ContentStore
