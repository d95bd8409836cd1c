import ContentStore.Proofs.Outcomes

/-!
# Two runs of one operation

`x.Agree e s t good bad`: in the surroundings `e`, however many calls were made before, `x` ends in
the same way from the store `s` as from the store `t`: with the same answer, and then `good` holds
of it and of the two stores left behind, or with the same failure, and then `bad` holds of the two
stores. Both runs have made as many calls by then, so that the outages they meet later are the same.

The rules run backwards, as those of `Ensures` do. A call that reads has the same answer once what
it reads is the same in both stores.
-/

namespace ContentStore.Operation

variable {α β : Type} {e : Surroundings} {s t : Store}

/-- Run from two stores, the operation ends in the same way after as many calls. -/
def Agree (x : Operation α) (e : Surroundings) (s t : Store) (good : α → Store → Store → Prop)
    (bad : Store → Store → Prop) : Prop :=
  ∀ n, ∃ result s' t' k, x e ⟨s, n⟩ = (result, ⟨s', k⟩) ∧ x e ⟨t, n⟩ = (result, ⟨t', k⟩) ∧
    match result with
    | .ok a => good a s' t'
    | .error _ => bad s' t'

/-! ### From agreement to runs -/

theorem Agree.result {x : Operation α} {good : α → Store → Store → Prop}
    {bad : Store → Store → Prop} (agree : x.Agree e s t good bad) (n : Journal) :
    (x e ⟨s, n⟩).1 = (x e ⟨t, n⟩).1 := by
  obtain ⟨result, s', t', k, left, right, -⟩ := agree n
  rw [left, right]

/-- A relation of the stores alone is reached once both ends have it. -/
theorem Agree.stores {x : Operation α} {related : Store → Store → Prop} (n : Journal)
    (agree : x.Agree e s t (fun _ => related) related) :
    related (x e ⟨s, n⟩).2.store (x e ⟨t, n⟩).2.store := by
  obtain ⟨result, s', t', k, left, right, ends⟩ := agree n
  rw [left, right]
  cases result with
  | ok a => exact ends
  | error f => exact ends

/-! ### Rules for sequencing -/

variable {good good' : α → Store → Store → Prop} {bad bad' : Store → Store → Prop}

theorem Agree.mono {x : Operation α} (agree : x.Agree e s t good bad)
    (onGood : ∀ a s' t', good a s' t' → good' a s' t') (onBad : ∀ s' t', bad s' t' → bad' s' t') :
    x.Agree e s t good' bad' := by
  intro n
  obtain ⟨result, s', t', k, left, right, ends⟩ := agree n
  refine ⟨result, s', t', k, left, right, ?_⟩
  cases result with
  | ok a => exact onGood a s' t' ends
  | error f => exact onBad s' t' ends

theorem agree_pure {a : α} (holds : good a s t) : (pure a : Operation α).Agree e s t good bad :=
  fun n => ⟨.ok a, s, t, n, rfl, rfl, holds⟩

theorem agree_fail {f : Failure} (holds : bad s t) :
    (fail f : Operation α).Agree e s t good bad :=
  fun n => ⟨.error f, s, t, n, rfl, rfl, holds⟩

theorem agree_refuse {r : Refusal} (holds : bad s t) :
    (refuse r : Operation α).Agree e s t good bad :=
  agree_fail holds

theorem agree_bind {x : Operation α} {f : α → Operation β} {good : β → Store → Store → Prop}
    (agree : x.Agree e s t (fun a s' t' => (f a).Agree e s' t' good bad) bad) :
    (x >>= f).Agree e s t good bad := by
  intro n
  obtain ⟨result, s', t', k, left, right, ends⟩ := agree n
  rw [bind_run, bind_run, left, right]
  cases result with
  | ok a => exact ends k
  | error failure => exact ⟨.error failure, s', t', k, rfl, rfl, ends⟩

theorem agree_map {x : Operation α} {f : α → β} {good : β → Store → Store → Prop}
    (agree : x.Agree e s t (fun a => good (f a)) bad) : (f <$> x).Agree e s t good bad := by
  intro n
  obtain ⟨result, s', t', k, left, right, ends⟩ := agree n
  rw [map_run, map_run, left, right]
  cases result with
  | ok a => exact ⟨.ok (f a), s', t', k, rfl, rfl, ends⟩
  | error failure => exact ⟨.error failure, s', t', k, rfl, rfl, ends⟩

theorem agree_ofExcept {result : Except Refusal α} (ok : ∀ a, result = .ok a → good a s t)
    (error : bad s t) : (ofExcept result).Agree e s t good bad := by
  cases result with
  | ok a => exact agree_pure (ok a rfl)
  | error r => exact agree_refuse error

theorem agree_attempt {x : Operation α} {good : Except Refusal α → Store → Store → Prop}
    (agree : x.Agree e s t (fun a => good (.ok a)) fun s' t' =>
      bad s' t' ∧ ∀ r, good (.error r) s' t') : (attempt x).Agree e s t good bad := by
  intro n
  obtain ⟨result, s', t', k, left, right, ends⟩ := agree n
  unfold attempt
  rw [left, right]
  cases result with
  | ok a => exact ⟨.ok (.ok a), s', t', k, rfl, rfl, ends⟩
  | error failure =>
      cases failure with
      | refused r => exact ⟨.ok (.error r), s', t', k, rfl, rfl, ends.2 r⟩
      | aborted why => exact ⟨.error (.aborted why), s', t', k, rfl, rfl, ends.1⟩

theorem agree_surroundings {good : Surroundings → Store → Store → Prop} (holds : good e s t) :
    surroundings.Agree e s t good bad :=
  fun n => ⟨.ok e, s, t, n, rfl, rfl, holds⟩

/-! ### Rules for the calls -/

/-- A call with the same answer in both stores: it is stopped in both or in neither. -/
theorem agree_call {c : Call} {body : Surroundings → Store → Except Refusal (α × Store)}
    (result : Except Refusal α) (s' t' : Store) (left : body e s = result.map fun a => (a, s'))
    (right : body e t = result.map fun a => (a, t')) (answered : ∀ a, result = .ok a → good a s' t')
    (stopped : bad s t) : (call c body).Agree e s t good bad := by
  intro n
  unfold call
  dsimp only
  rw [left, right]
  cases e.outage n.calls c with
  | some o => exact ⟨_, s, t, n.calling 1, rfl, rfl, stopped⟩
  | none =>
      cases result with
      | ok a => exact ⟨.ok a, s', t', n.calling 1, rfl, rfl, answered a rfl⟩
      | error r => exact ⟨.error (.refused r), s, t, n.calling 1, rfl, rfl, stopped⟩

/-- A call that asks the tables, with the same answer from both. -/
theorem agree_query {c : Call} {answer : Surroundings → Store → Except Refusal (α × Store)}
    (result : Except Refusal α) (s' t' : Store) (left : answer e s = result.map fun a => (a, s'))
    (right : answer e t = result.map fun a => (a, t'))
    (answered : ∀ a, result = .ok a → good a s' t') (stopped : bad s t) :
    (call c fun e s => e.query (answer e s)).Agree e s t good bad := by
  have asked : ∀ u : Store, e.query (result.map fun a => (a, u)) =
      (e.query result).map fun a => (a, u) := by
    intro u
    cases connected : e.connection <;> simp [Surroundings.query, connected, Except.map]
  refine agree_call (e.query result) s' t' ?_ ?_ ?_ stopped
  · rw [left, asked]
  · rw [right, asked]
  · intro a ran
    cases connected : e.connection with
    | ready =>
        simp only [Surroundings.query, connected] at ran
        exact answered a ran
    | blank => simp [Surroundings.query, connected] at ran
    | closed => simp [Surroundings.query, connected] at ran

theorem agree_find {storageId : String} {good : Option Record → Store → Store → Prop}
    (same : s.find? storageId = t.find? storageId) (answered : good (s.find? storageId) s t)
    (stopped : bad s t) : (find storageId).Agree e s t good bad := by
  refine agree_query (.ok (s.find? storageId)) s t rfl ?_ ?_ stopped
  · rw [same]
    rfl
  · rintro _ ⟨⟩
    exact answered

theorem agree_write {d : Draft} {good : Record → Store → Store → Prop}
    (same : s.written d e.now = t.written d e.now)
    (answered : good (s.written d e.now) (s.put d e.now) (t.put d e.now))
    (stopped : bad s t) : (write d).Agree e s t good bad := by
  refine agree_query (.ok (s.written d e.now)) (s.put d e.now) (t.put d e.now) rfl ?_ ?_ stopped
  · rw [same]
    rfl
  · rintro _ ⟨⟩
    exact answered

theorem agree_markGarbage {storageId : String} {good : Bool → Store → Store → Prop}
    (same : s.find? storageId = t.find? storageId)
    (answered : ∀ found,
      good found (s.markGarbage storageId e.now) (t.markGarbage storageId e.now))
    (stopped : bad s t) : (markGarbage storageId).Agree e s t good bad := by
  refine agree_query (.ok (s.find? storageId).isSome) (s.markGarbage storageId e.now)
    (t.markGarbage storageId e.now) rfl ?_ ?_ stopped
  · rw [same]
    rfl
  · intro found _
    exact answered found

theorem agree_usage {owner : String} {excluding : List String} {good : Int → Store → Store → Prop}
    (same : s.usage? owner excluding = t.usage? owner excluding)
    (answered : ∀ total, good total s t) (stopped : bad s t) :
    (usage owner excluding).Agree e s t good bad := by
  refine agree_query ((s.usage? owner excluding).elim (.error sumOverflow) .ok) s t ?_ ?_
    (fun total _ => answered total) stopped
  · cases s.usage? owner excluding <;> rfl
  · rw [same]
    cases t.usage? owner excluding <;> rfl

theorem agree_list {owner : String} {f : ListFilter} {limit : Nat}
    {good : List Record → Store → Store → Prop}
    (same : s.list owner f limit = t.list owner f limit) (answered : ∀ records, good records s t)
    (stopped : bad s t) : (list owner f limit).Agree e s t good bad := by
  refine agree_query (.ok (s.list owner f limit)) s t rfl ?_ ?_ stopped
  · rw [same]
    rfl
  · intro records _
    exact answered records

theorem agree_plan {owner : String} {good : Option Plan → Store → Store → Prop}
    (same : s.plan? owner = t.plan? owner) (answered : ∀ plan, good plan s t)
    (stopped : bad s t) : (plan owner).Agree e s t good bad := by
  refine agree_query (.ok (s.plan? owner)) s t rfl ?_ ?_ stopped
  · rw [same]
    rfl
  · intro plan _
    exact answered plan

/-- A path does not depend on the store. -/
theorem agree_pathOf {storageId : String} {good : String → Store → Store → Prop}
    (found : ∀ path, good path s t) (noPath : bad s t) :
    (pathOf storageId).Agree e s t good bad := by
  refine agree_bind fun n => ⟨.ok (), s, t, n.cutting storageId, rfl, rfl, ?_⟩
  dsimp only
  split
  · next path _ => exact agree_pure (found path)
  · exact agree_fail noPath

/-- Whether bytes are present does not depend on the store. -/
theorem agree_bytesPresent {storageId : String} {good : Bool → Store → Store → Prop}
    (answered : ∀ held, good held s t) (stopped : bad s t) :
    (bytesPresent storageId).Agree e s t good bad := by
  refine agree_bind (agree_pathOf (fun path => ?_) stopped)
  exact agree_call (e.backend.holds path) s t rfl rfl (fun held _ => answered held) stopped

theorem agree_checkQuota {owner : String} {excluding : List String} {size : Int}
    {good : Unit → Store → Store → Prop}
    (usage : s.usage? owner excluding = t.usage? owner excluding)
    (plan : s.plan? owner = t.plan? owner) (passed : good () s t) (stopped : bad s t) :
    (checkQuota owner excluding size).Agree e s t good bad := by
  unfold checkQuota usageAfterWrite quota
  refine agree_bind (agree_bind (agree_usage usage (fun total => ?_) stopped))
  refine agree_pure (agree_bind (agree_bind (agree_plan plan (fun plan => ?_) stopped)))
  refine agree_bind (agree_surroundings (agree_pure ?_))
  split
  · exact agree_refuse stopped
  · exact agree_pure passed

/-- Granting an award reads nothing of the store. -/
theorem agree_award {w : Award} {caller : Caller} {good : Granted → Store → Store → Prop}
    (granted : ∀ g, good g s t) (expired : bad s t) :
    (w.grant caller).Agree e s t good bad := by
  intro n
  rw [award_run, award_run]
  cases e.now.later? e.issuer.seconds with
  | none => exact ⟨_, s, t, n, rfl, rfl, expired⟩
  | some expiresAt => exact ⟨_, s, t, n, rfl, rfl, granted _⟩

end ContentStore.Operation
