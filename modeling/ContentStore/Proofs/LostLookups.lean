import ContentStore.Proofs.Grants
import ContentStore.Proofs.Links
import ContentStore.Proofs.Runs

/-!
# When the target of a link cannot be looked up

A link whose target is gone leads nowhere; of a link whose target cannot be looked up nothing is
known. Resolving keeps the two apart and fails with what the lookup was refused with. Registering
does not: it takes every refusal for a target that is gone and goes on to repair the link. With the
wish to link it resolves first, which looks the target up once more, and only if that fails in the
same way does registering fail with it (`register_lost_target_iff`). Without the wish it makes the
link a record that waits for bytes.
-/

namespace ContentStore

/-- What a lookup that is not answered is refused with: it took too long, or the store failed. A sum
past 64 bits is a failure of the store too, but not one that a lookup has. -/
def Refusal.IsLost (r : Refusal) : Prop :=
  r = .timedOut "metadata lookup" ∨ ∃ detail, r = .database detail ∧ r ≠ sumOverflow

/-- Every call is carried out but the lookups of one key, which may or may not be. -/
def Surroundings.CarriesBut (e : Surroundings) (key : String) : Prop :=
  ∀ n c, c ≠ .lookup key → e.Carries n c

section Lost

variable {used : Set (String × ContentHash)} {e : Surroundings} {s : Store} {key owner : String}
  {hash : ContentHash} {r : Refusal} {row : Record} {k : Journal} {o : Outage}

/-! ### Nothing else fails like a lookup -/

theorem Refusal.IsLost.ne_noBytes (lost : r.IsLost) : r ≠ .noBytes := by
  rintro rfl
  rcases lost with late | ⟨detail, failed, -⟩
  · cases late
  · cases failed

namespace Surroundings

theorem CarriesBut.ready (carries : e.CarriesBut key) : e.connection = .ready :=
  (carries 0 (.usage "") (by simp)).2 rfl

theorem CarriesBut.looks_up (carries : e.CarriesBut key)
    (met : e.outage k.calls (.lookup key) = none) :
    e.Carries k.calls (.lookup key) :=
  ⟨met, fun _ => carries.ready⟩

theorem Stops.ne_of_isLost {c : Call} {f : Failure} (stops : e.Stops c f)
    (carries : e.CarriesBut key) (other : c ≠ .lookup key) (lost : r.IsLost) : f ≠ .refused r := by
  rintro rfl
  rcases stops.refusal_cases with ⟨n, o, met, -⟩ | ⟨-, off, -⟩ | ⟨-, path, failed⟩
  · exact nomatch (carries n c other).1.symm.trans met
  · exact off carries.ready
  · rcases lost with late | ⟨detail, database, -⟩ <;>
      rcases Backend.refusal_cases failed with same | ⟨_, same⟩ | ⟨_, same⟩
    · exact absurd (late.symm.trans same) (by decide)
    · exact nomatch late.symm.trans same
    · exact nomatch late.symm.trans same
    · exact nomatch database.symm.trans same
    · exact nomatch database.symm.trans same
    · exact nomatch database.symm.trans same

theorem Rejects.ne_of_isLost {excluding : List String} {size : Int} {f : Failure}
    (rejects : e.Rejects s owner excluding size f) (carries : e.CarriesBut key) (lost : r.IsLost) :
    f ≠ .refused r := by
  cases rejects with
  | exceeds =>
      rintro ⟨⟩
      rcases lost with late | ⟨detail, failed, -⟩
      · cases late
      · cases failed
  | overflow =>
      rintro ⟨⟩
      rcases lost with late | ⟨detail, -, other⟩
      · cases late
      · exact other rfl
  | usage stops => exact stops.ne_of_isLost carries nofun lost
  | plan stops => exact stops.ne_of_isLost carries nofun lost

end Surroundings

/-! ### Resolving -/

namespace Operation

variable {given : Option String} {autoLink : Bool}

theorem find_run_of_outage (met : e.outage k.calls (.lookup key) = some o) :
    find key e ⟨s, k⟩ = (.error (.refused (o.refusal (.lookup key))), ⟨s, k.calling 1⟩) := by
  rw [find, call, met]

theorem follow_run_of_outage (met : e.outage k.calls (.lookup row.linkedObject) = some o) :
    follow row e ⟨s, k⟩ =
      (.error (.refused (o.refusal (.lookup row.linkedObject))), ⟨s, k.calling 1⟩) := by
  rw [follow, bind_run, find_run_of_outage met]

/-- What resolving finds for a link, by what following it has come to. -/
def found (row : Record) : Except Refusal Record → Operation (Option Resolution)
  | .ok target => do
    if ← bytesPresent target.storageId then return some (.link row target) else return none
  | .error .noBytes => return none
  | .error r => refuse r

theorem found_of_ne (other : r ≠ .noBytes) : found row (.error r) = refuse r := by
  cases r with
  | noBytes => exact absurd rfl other
  | _ => rfl

/-- How resolving goes on from what it has found. -/
def onward (owner : String) (hash : ContentHash) (autoLink : Bool) (given : Option String)
    (existing : Option Record) : Option Resolution → Operation Resolution
  | some resolution => return resolution
  | none => if autoLink then linkElsewhere owner hash given existing else refuse .noBytes

/-- Resolving a link is to follow it, and to go on from there. -/
theorem resolve_run_of_link (live : s.find? (storageId owner hash) = some row)
    (isLink : row.isLink = true) (looked : e.Carries k.calls (.lookup (storageId owner hash))) :
    resolve owner hash autoLink given e ⟨s, k⟩ =
      (attempt (follow row) >>= fun target =>
        found row target >>= onward owner hash autoLink given (some row)) e ⟨s, k.calling 1⟩ := by
  rcases find_run e s k (storageId owner hash) with ⟨-, ran⟩ | ⟨hit, -⟩
  · rw [resolve, bind_run, ran, live]
    dsimp only
    rw [resolveExisting, if_pos isLink, bind_run, bind_run, bind_run]
    cases attempt (follow row) e ⟨s, k.calling 1⟩ with
    | mk target p =>
        cases target with
        | ok target => rfl
        | error failure => rfl
  · exact absurd looked hit

/-- Resolving a link whose target cannot be looked up fails with what the lookup was refused
with. -/
theorem resolve_run_of_lost (live : s.find? (storageId owner hash) = some row)
    (isLink : row.isLink = true) (looked : e.Carries k.calls (.lookup (storageId owner hash)))
    (met : e.outage (k.calls + 1) (.lookup row.linkedObject) = some o)
    (lost : (o.refusal (.lookup row.linkedObject)).IsLost) :
    resolve owner hash autoLink given e ⟨s, k⟩ =
      (.error (.refused (o.refusal (.lookup row.linkedObject))), ⟨s, k.calling 2⟩) := by
  rw [resolve_run_of_link live isLink looked, bind_run, attempt, follow_run_of_outage met]
  dsimp only
  rw [found_of_ne lost.ne_noBytes]
  rfl

section Others

variable (carries : e.CarriesBut key) (lost : r.IsLost)

include carries lost

/-- What comes after a link was followed does not fail like a lookup. -/
theorem ensures_found {target : Except Refusal Record} (other : target ≠ .error r)
    (live : s.find? (storageId owner hash) = some row) :
    (found row target >>= onward owner hash autoLink given (some row)).Ensures e s
      (fun _ _ => True) fun f _ => f ≠ .refused r := by
  have goesOn : ∀ here, (onward owner hash autoLink given (some row) here).Ensures e s
      (fun _ _ => True) fun f _ => f ≠ .refused r := by
    have noBytes : Failure.refused .noBytes ≠ .refused r :=
      fun same => lost.ne_noBytes (Failure.refused.inj same).symm
    intro here
    cases here with
    | some resolution => exact ensures_pure trivial
    | none =>
        unfold onward
        dsimp only
        split
        · rw [← live]
          refine ensures_linkElsewhere (fun _ _ _ => trivial) (fun _ f _ rejects => ?_)
            (fun _ => noBytes) fun c f outside stops => ?_
          · exact rejects.ne_of_isLost carries lost
          · exact stops.ne_of_isLost carries (outside key) lost
        · exact ensures_refuse noBytes
  refine ensures_bind ?_
  cases target with
  | ok target =>
      unfold found
      refine ensures_bind (ensures_bytesPresent (fun _ => ?_) fun f stops => ?_)
      · split
        · exact ensures_pure (goesOn _)
        · exact ensures_pure (goesOn _)
      · exact stops.ne_of_isLost carries nofun lost
  | error r' =>
      cases r' with
      | noBytes => exact ensures_pure (goesOn none)
      | _ =>
          refine ensures_refuse fun same => other ?_
          exact congrArg Except.error (Failure.refused.inj same)

end Others

/-- Following a link whose target is looked up in vain, if at all, comes to something else than this
failure. -/
theorem attempt_follow_run (carries : e.CarriesBut row.linkedObject) (lost : r.IsLost)
    (other : ∀ o, e.outage k.calls (.lookup row.linkedObject) = some o →
      o.refusal (.lookup row.linkedObject) ≠ r) :
    ∃ target, target ≠ .error r ∧
      attempt (follow row) e ⟨s, k⟩ = (.ok target, ⟨s, k.calling 1⟩) := by
  cases met : e.outage k.calls (.lookup row.linkedObject) with
  | some o =>
      refine ⟨.error (o.refusal (.lookup row.linkedObject)), ?_, ?_⟩
      · exact fun same => other o met (Except.error.inj same)
      · rw [attempt, follow_run_of_outage met]
  | none =>
      have noBytes : (.error .noBytes : Except Refusal Record) ≠ .error r :=
        fun same => lost.ne_noBytes (Except.error.inj same).symm
      rcases find_run e s k row.linkedObject with ⟨-, ran⟩ | ⟨hit, -⟩
      · rw [attempt, follow, bind_run, ran]
        cases s.find? row.linkedObject with
        | none => exact ⟨_, noBytes, rfl⟩
        | some target =>
            dsimp only
            by_cases fits : target.isTargetOf row = true
            · rw [if_pos fits]
              exact ⟨.ok target, nofun, rfl⟩
            · rw [if_neg fits]
              exact ⟨_, noBytes, rfl⟩
      · exact absurd (carries.looks_up met) hit

/-- Resolving fails like a lookup only if that of the target does. -/
theorem resolve_ne_of_other (carries : e.CarriesBut row.linkedObject) (lost : r.IsLost)
    (live : s.find? (storageId owner hash) = some row) (isLink : row.isLink = true)
    (looked : e.Carries k.calls (.lookup (storageId owner hash)))
    (other : ∀ o, e.outage (k.calls + 1) (.lookup row.linkedObject) = some o →
      o.refusal (.lookup row.linkedObject) ≠ r) :
    (resolve owner hash autoLink given e ⟨s, k⟩).1 ≠ .error (.refused r) := by
  intro failed
  obtain ⟨target, apart, ran⟩ := attempt_follow_run carries lost (k := k.calling 1) (s := s) other
  rw [resolve_run_of_link live isLink looked, bind_run, ran] at failed
  exact (ensures_found carries lost apart live).error (Prod.ext failed rfl) rfl

/-! ### Registering -/

/-- How registering goes on for a row that leads nowhere. -/
def repair (caller : Caller) (hash : ContentHash) (row : Record) (m : Metadata) (size : Int)
    (autoLink : Bool) : Operation Granted := do
  match ← tryLink caller hash m autoLink with
  | some resolution => grantResolution caller resolution
  | none => reaffirm caller row m (if m.givesSize then size else row.size)
where
  /-- The row becomes a record that waits for its bytes. -/
  reaffirm (caller : Caller) (row : Record) (m : Metadata) (size : Int) : Operation Granted := do
    checkQuota caller.owner [row.storageId] size
    let record ← write (row.revised m size)
    grantAccess caller record none true

variable {caller : Caller} {text : String} {m : Metadata} {size : Int} {n : Journal}

/-- Registering takes every refusal of the lookup of a target for a target that is gone. -/
theorem register_run_of_lost (parsed : ContentHash.parse text = .ok hash)
    (sized : m.size = .ok size)
    (looked : e.Carries n.calls (.lookup (storageId caller.owner hash)))
    (live : s.find? (storageId caller.owner hash) = some row) (owned : row.owner = caller.owner)
    (isLink : row.isLink = true)
    (met : e.outage (n.calls + 1) (.lookup row.linkedObject) = some o) :
    register caller text m autoLink e ⟨s, n⟩ =
      (do return ⟨← repair caller hash row m size autoLink, false⟩ : Operation Registered) e
        ⟨s, n.calling 2⟩ := by
  have nowhere : knownBytes row e ⟨s, n.calling 1⟩ = (.ok none, ⟨s, n.calling 2⟩) := by
    rw [knownBytes, if_pos isLink, bind_run, attempt, follow_run_of_outage met]
    rfl
  rcases find_run e s n (storageId caller.owner hash) with ⟨-, ran⟩ | ⟨hit, -⟩
  · rw [register, bind_run, ContentHash.require_eq_ok_iff.mpr parsed]
    dsimp only [ofExcept, give]
    rw [bind_run, sized]
    dsimp only [ofExcept, give]
    rw [bind_run, ran, live]
    dsimp only
    rw [bind_run, requireOwner, if_pos owned]
    dsimp only [pure_run]
    rw [bind_run, bind_run, registerKnown, bind_run, nowhere]
    rfl
  · exact absurd looked hit

/-- The search for bytes elsewhere fails as resolving does, if it is made. -/
theorem tryLink_ne_of_resolve {p : Progress}
    (other : autoLink = true →
      (resolve caller.owner hash true m.objectName e p).1 ≠ .error (.refused r)) :
    (tryLink caller hash m autoLink e p).1 ≠ .error (.refused r) := by
  cases autoLink with
  | false => exact nofun
  | true =>
      have other := other rfl
      rw [tryLink, if_pos rfl, bind_run, attempt]
      cases ran : resolve caller.owner hash true m.objectName e p with
      | mk result p' =>
          rw [ran] at other
          cases result with
          | ok resolution => exact nofun
          | error failure =>
              cases failure with
              | aborted why => exact nofun
              | refused r' =>
                  have apart : r' ≠ r := fun same => other (by rw [same])
                  cases r' with
                  | noBytes => exact nofun
                  | _ => exact fun failed => apart (Failure.refused.inj (Except.error.inj failed))

/-- The search for bytes elsewhere passes on every failure of resolving but the verdict that there
are none. -/
theorem tryLink_run_of_resolve {p p' : Progress} (lost : r.IsLost)
    (failed : resolve caller.owner hash true m.objectName e p = (.error (.refused r), p')) :
    tryLink caller hash m true e p = (.error (.refused r), p') := by
  rw [tryLink, if_pos rfl, bind_run, attempt, failed]
  cases r with
  | noBytes => exact absurd rfl lost.ne_noBytes
  | _ => rfl

section Repairing

variable (carries : e.CarriesBut row.linkedObject) (lost : r.IsLost)

include carries lost

theorem ensures_reaffirm {row' : Record} :
    (repair.reaffirm caller row' m size).Ensures e s (fun _ _ => True)
      fun f _ => f ≠ .refused r := by
  have granted : ∀ (w : Award) s', (w.grant caller).Ensures e s' (fun _ _ => True)
      fun f _ => f ≠ .refused r := fun w s' => ensures_award (fun _ _ => trivial) fun _ => nofun
  unfold repair.reaffirm
  refine ensures_bind (ensures_checkQuota (fun _ => ?_) fun f rejects => ?_)
  · refine ensures_bind (ensures_write (fun _ => ?_) fun f stops => ?_)
    · exact granted ⟨_, _, _⟩ _
    · exact stops.ne_of_isLost carries nofun lost
  · exact rejects.ne_of_isLost carries lost

/-- Repairing fails like a lookup only if the search for bytes elsewhere does. -/
theorem repair_ne_of_tryLink
    (other : (tryLink caller hash m autoLink e ⟨s, k⟩).1 ≠ .error (.refused r)) :
    (repair caller hash row m size autoLink e ⟨s, k⟩).1 ≠ .error (.refused r) := by
  unfold repair
  rw [bind_run]
  cases ran : tryLink caller hash m autoLink e ⟨s, k⟩ with
  | mk result p =>
      rw [ran] at other
      cases result with
      | error failure => exact fun failed => other (congrArg _ (Except.error.inj failed))
      | ok found =>
          cases found with
          | some resolution =>
              dsimp only
              rw [grantResolution_eq, award_run]
              cases e.now.later? e.issuer.seconds <;> exact nofun
          | none =>
              intro failed
              exact (ensures_reaffirm carries lost).error (Prod.ext failed rfl) rfl

end Repairing

/-- Registering does not fail like a lookup where the target is lost no more than once. -/
theorem register_ne_of_once (parsed : ContentHash.parse text = .ok hash) (sized : m.size = .ok size)
    (looked : ∀ k, e.Carries k (.lookup (storageId caller.owner hash)))
    (live : s.find? (storageId caller.owner hash) = some row) (owned : row.owner = caller.owner)
    (isLink : row.isLink = true) (carries : e.CarriesBut row.linkedObject)
    (met : e.outage (n.calls + 1) (.lookup row.linkedObject) = some o)
    (lost : (o.refusal (.lookup row.linkedObject)).IsLost)
    (once : autoLink = true → ∀ o', e.outage (n.calls + 3) (.lookup row.linkedObject) = some o' →
      o'.refusal (.lookup row.linkedObject) ≠ o.refusal (.lookup row.linkedObject)) :
    (register caller text m autoLink e ⟨s, n⟩).1 ≠
      .error (.refused (o.refusal (.lookup row.linkedObject))) := by
  intro failed
  have other : (repair caller hash row m size autoLink e ⟨s, n.calling 2⟩).1 ≠
      .error (.refused (o.refusal (.lookup row.linkedObject))) := by
    refine repair_ne_of_tryLink carries lost (tryLink_ne_of_resolve fun asked => ?_)
    exact resolve_ne_of_other carries lost live isLink (looked (n.calls + 2)) (once asked)
  rw [register_run_of_lost parsed sized (looked n.calls) live owned isLink met, bind_run] at failed
  cases ran : repair caller hash row m size autoLink e ⟨s, n.calling 2⟩ with
  | mk result p =>
      rw [ran] at failed other
      cases result with
      | ok g => cases failed
      | error failure => exact other (congrArg _ (Except.error.inj failed))

/-- Within the quota a row becomes a record that waits for its bytes. -/
theorem reaffirm_run {expiresAt : Time.Instant} (carries : e.CarriesBut key)
    (admits : e.Admits s caller.owner [row.storageId] size)
    (ends : e.now.later? e.issuer.seconds = some expiresAt) :
    repair.reaffirm caller row m size e ⟨s, k⟩ =
      (.ok ((Award.mk (s.written (row.revised m size) e.now) none true).granted e caller expiresAt),
        ⟨s.put (row.revised m size) e.now, k.calling 3⟩) := by
  rw [repair.reaffirm, bind_run]
  rcases checkQuota_run e s k caller.owner [row.storageId] size with ⟨-, ran⟩ | ⟨rejected, -⟩
  · rw [ran]
    dsimp only
    rw [bind_run]
    rcases write_run e s (k.calling 2) (row.revised m size) with ⟨-, ran⟩ | ⟨hit, -⟩
    · rw [ran]
      dsimp only
      have granted := award_run e caller ⟨s.written (row.revised m size) e.now, none, true⟩
        ⟨s.put (row.revised m size) e.now, k.calling 3⟩
      rw [ends] at granted
      exact granted
    · exact absurd (carries (k.calls + 2) (.write _) nofun) hit
  · have asked := carries k.calls (.usage caller.owner) nofun
    have planned := carries (k.calls + 1) (.plan caller.owner) nofun
    exact absurd ⟨asked, planned, admits⟩ rejected

end Operation

/-! ### A lost target -/

section Targets

variable {caller : Caller} {text : String} {m : Metadata} {size : Int} {n : Journal}

/-- No link names itself. -/
theorem Store.LinkGraph.linkedObject_ne (graph : s.LinkGraph) (wellFormed : s.WellFormed used)
    (free : CollisionFree used) (mem : (owner, hash) ∈ used)
    (live : s.find? (storageId owner hash) = some row) (isLink : row.isLink = true) :
    storageId owner hash ≠ row.linkedObject := by
  intro same
  obtain ⟨stands, hasKey, -⟩ := Store.find?_some live
  obtain ⟨target, stands', named, foreign, -⟩ := graph.aimed row stands isLink
  have owned := (wellFormed.of_key free mem stands hasKey).1
  exact foreign ((wellFormed.of_key free mem stands' (named.trans same.symm)).1.trans owned.symm)

/-- So the link itself is looked up where its target is not. -/
theorem Surroundings.CarriesBut.looks_up_link (carries : e.CarriesBut row.linkedObject)
    (reachable : Reachable used s) (free : CollisionFree used) (mem : (owner, hash) ∈ used)
    (live : s.find? (storageId owner hash) = some row) (isLink : row.isLink = true) (k : Nat) :
    e.Carries k (.lookup (storageId owner hash)) := by
  have apart := (reachable.linkGraph free).linkedObject_ne (reachable.wellFormed free) free mem live
    isLink
  exact carries k _ fun same => apart (Call.lookup.inj same)

/-- Registering without the wish to link turns a link whose target is lost into a record that waits
for its bytes, wherever the quota allows. -/
theorem register_turns_lost_link {given : Int} {expiresAt : Time.Instant}
    (free : CollisionFree used) (wellFormed : s.WellFormed used) (mem : (caller.owner, hash) ∈ used)
    (parsed : ContentHash.parse text = .ok hash) (sized : m.size = .ok size)
    (live : s.find? (storageId caller.owner hash) = some row) (isLink : row.isLink = true)
    (carries : e.CarriesBut row.linkedObject)
    (met : e.outage (n.calls + 1) (.lookup row.linkedObject) = some o)
    (looked : e.Carries n.calls (.lookup (storageId caller.owner hash)))
    (sizedFor : m.sizeFor row = .ok given)
    (admits : e.Admits s caller.owner [storageId caller.owner hash] given)
    (ends : e.now.later? e.issuer.seconds = some expiresAt) :
    ∃ g k, Operation.register caller text m false e ⟨s, n⟩ =
        (.ok ⟨g, false⟩, ⟨s.put (row.revised m given) e.now, k⟩) ∧
      g.record.isLink = false ∧ g.read = none ∧ g.write.isSome = true := by
  obtain ⟨stands, hasKey, -⟩ := Store.find?_some live
  have owned := (wellFormed.of_key free mem stands hasKey).1
  have sameSize : (if m.givesSize then size else row.size) = given :=
    Except.ok.inj ((Metadata.sizeFor_eq sized).symm.trans sizedFor)
  have nonneg := Metadata.sizeFor_nonneg sizedFor (wellFormed.sized row stands)
  have drafted := wellFormed.isFor_revised (m := m) free mem live nonneg
  have own : (s.written (row.revised m given) e.now).isLink = false := by
    rw [Store.isLink_written]
    rfl
  have owner : (s.written (row.revised m given) e.now).owner = caller.owner :=
    (Store.owner_written (wellFormed.agree free mem drafted)).trans drafted.owned
  have repaired : Operation.repair caller hash row m size false e ⟨s, n.calling 2⟩ =
      Operation.repair.reaffirm caller row m given e ⟨s, n.calling 2⟩ := by
    rw [← sameSize]
    rfl
  rw [← hasKey] at admits
  rw [Operation.register_run_of_lost parsed sized looked live owned isLink met, Operation.bind_run,
    repaired, Operation.reaffirm_run carries admits ends]
  refine ⟨_, _, rfl, own, rfl, ?_⟩
  rw [Award.write_granted owner]
  simp [own]

/-- **Registering fails with a lost target only if it loses it twice.** Let the caller have a live
link in a reachable store, let every call be carried out but lookups of the link's target, and let
the first of these fail. Then resolving fails with the same refusal, with nothing written.
Registering does so exactly if it is to link, so that it resolves too, and the lookup of the target
fails in the same way once more. If it is not to link, it makes the link a record that waits for its
bytes, wherever the quota allows. -/
theorem register_lost_target_iff (free : CollisionFree used) (reachable : Reachable used s)
    (mem : (caller.owner, hash) ∈ used) (parsed : ContentHash.parse text = .ok hash)
    (sized : m.size = .ok size) (live : s.find? (storageId caller.owner hash) = some row)
    (isLink : row.isLink = true) (carries : e.CarriesBut row.linkedObject)
    (met : e.outage (n.calls + 1) (.lookup row.linkedObject) = some o)
    (lost : (o.refusal (.lookup row.linkedObject)).IsLost) :
    (∀ autoLink given, Operation.resolve caller.owner hash autoLink given e ⟨s, n⟩ =
      (.error (.refused (o.refusal (.lookup row.linkedObject))), ⟨s, n.calling 2⟩)) ∧
    (∀ autoLink,
      ((Operation.register caller text m autoLink e ⟨s, n⟩).1 =
          .error (.refused (o.refusal (.lookup row.linkedObject))) ∧
        (Operation.register caller text m autoLink e ⟨s, n⟩).2.store = s) ↔
      autoLink = true ∧ ∃ o', e.outage (n.calls + 3) (.lookup row.linkedObject) = some o' ∧
        o'.refusal (.lookup row.linkedObject) = o.refusal (.lookup row.linkedObject)) ∧
    ∀ given expiresAt, m.sizeFor row = .ok given →
      e.Admits s caller.owner [storageId caller.owner hash] given →
      e.now.later? e.issuer.seconds = some expiresAt →
      ∃ g k, Operation.register caller text m false e ⟨s, n⟩ =
          (.ok ⟨g, false⟩, ⟨s.put (row.revised m given) e.now, k⟩) ∧
        g.record.isLink = false ∧ g.read = none ∧ g.write.isSome = true := by
  have wellFormed := reachable.wellFormed free
  have looked : ∀ k, e.Carries k (.lookup (storageId caller.owner hash)) :=
    carries.looks_up_link reachable free mem live isLink
  obtain ⟨stands, hasKey, -⟩ := Store.find?_some live
  have owned := (wellFormed.of_key free mem stands hasKey).1
  refine ⟨fun autoLink given => Operation.resolve_run_of_lost live isLink (looked n.calls) met lost,
    fun autoLink => ⟨?_, ?_⟩, ?_⟩
  · rintro ⟨failed, -⟩
    by_contra never
    exact Operation.register_ne_of_once parsed sized looked live owned isLink carries met lost
      (fun asked o' met' same => never ⟨asked, o', met', same⟩) failed
  · rintro ⟨rfl, o', met', same⟩
    have again : Operation.resolve caller.owner hash true m.objectName e ⟨s, n.calling 2⟩ =
        (.error (.refused (o'.refusal (.lookup row.linkedObject))), ⟨s, n.calling 4⟩) :=
      Operation.resolve_run_of_lost live isLink (looked (n.calls + 2)) met' (same ▸ lost)
    rw [same] at again
    rw [Operation.register_run_of_lost parsed sized (looked n.calls) live owned isLink met,
      Operation.bind_run, Operation.repair, Operation.bind_run,
      Operation.tryLink_run_of_resolve lost again]
    exact ⟨rfl, rfl⟩
  · intro given expiresAt sizedFor admits ends
    exact register_turns_lost_link free wellFormed mem parsed sized live isLink carries met
      (looked n.calls) sizedFor admits ends

end Targets
end Lost

/-! ### A small world -/

/-- Surroundings in which one key cannot be looked up in time. -/
def Surroundings.losing (key : String) : Surroundings :=
  { Surroundings.stocked with outage := fun _ c => if c = .lookup key then some .late else none }

theorem Surroundings.carriesBut_losing (key : String) : (losing key).CarriesBut key :=
  fun _ _ other => ⟨if_neg other, fun _ => rfl⟩

set_option maxRecDepth 10000 in
theorem Store.exists_freshLink :
    ∃ row, freshLink.find? (storageId "bob" .zeros) = some row ∧ row.isLink = true := by
  have links : (freshLink.find? (storageId "bob" .zeros)).map (·.isLink) = some true := by
    decide +kernel
  exact Option.map_eq_some_iff.mp links

theorem register_lost_target_iff_losing :
    ∃ key, (Operation.register .bob ContentHash.zeros.hex .empty true (.losing key)
      ⟨.freshLink, 0⟩).1 = .error (.refused (.timedOut "metadata lookup")) := by
  obtain ⟨row, live, isLink⟩ := Store.exists_freshLink
  have mem : (Caller.bob.owner, ContentHash.zeros) ∈
      ({("ann", .zeros), ("bob", .zeros)} : Set _) := Set.mem_insert_of_mem _ rfl
  obtain ⟨-, exact_when, -⟩ := register_lost_target_iff (e := .losing row.linkedObject)
    (m := .empty) (n := 0) collisionFree_zeros Store.reachable_freshLink mem
    ContentHash.zeros.parse_hex rfl live isLink (Surroundings.carriesBut_losing _) (if_pos rfl)
    (.inl rfl)
  exact ⟨row.linkedObject, ((exact_when true).mpr ⟨rfl, .late, if_pos rfl, rfl⟩).1⟩

/-- A link whose target cannot be looked up in time does not survive a registration without the
wish to link. -/
theorem not_register_keeps_lost_link :
    ¬∀ (used : Set (String × ContentHash)) (s : Store) (e : Surroundings) (caller : Caller)
      (hash : ContentHash) (m : Metadata) (autoLink : Bool) (row : Record), CollisionFree used →
      Reachable used s → (caller.owner, hash) ∈ used →
      s.find? (storageId caller.owner hash) = some row → row.isLink = true →
      e.CarriesBut row.linkedObject → (∀ n, e.outage n (.lookup row.linkedObject) = some .late) →
      (Operation.register caller hash.hex m autoLink e ⟨s, 0⟩).1 =
          .error (.refused (.timedOut "metadata lookup")) ∧
        (Operation.register caller hash.hex m autoLink e ⟨s, 0⟩).2.store = s := by
  intro claim
  obtain ⟨row, live, isLink⟩ := Store.exists_freshLink
  have mem : (Caller.bob.owner, ContentHash.zeros) ∈
      ({("ann", .zeros), ("bob", .zeros)} : Set _) := Set.mem_insert_of_mem _ rfl
  have kept := claim _ .freshLink (.losing row.linkedObject) .bob .zeros .empty false row
    collisionFree_zeros Store.reachable_freshLink mem live isLink
    (Surroundings.carriesBut_losing _) fun _ => if_pos rfl
  have wellFormed := Store.reachable_freshLink.wellFormed collisionFree_zeros
  obtain ⟨stands, hasKey, -⟩ := Store.find?_some live
  have owned := (wellFormed.of_key collisionFree_zeros mem stands hasKey).1
  have looked : ∀ k, (Surroundings.losing row.linkedObject).Carries k
      (.lookup (storageId Caller.bob.owner .zeros)) :=
    (Surroundings.carriesBut_losing _).looks_up_link Store.reachable_freshLink collisionFree_zeros
      mem live isLink
  have never : (Operation.register .bob ContentHash.zeros.hex .empty false
      (.losing row.linkedObject) ⟨.freshLink, 0⟩).1 ≠
        .error (.refused (Outage.late.refusal (.lookup row.linkedObject))) :=
    Operation.register_ne_of_once ContentHash.zeros.parse_hex rfl looked live owned isLink
      (Surroundings.carriesBut_losing _) (if_pos rfl) (.inl rfl) nofun
  exact never kept.1

end ContentStore
