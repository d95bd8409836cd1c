import ContentStore.Service

/-!
# What operations ensure

`x.Ensures e s good bad`: in the surroundings `e` and from the store `s`, however many calls were
made before, `x` ends with an answer and a store of which `good` holds, or with a failure and a
store of which `bad` holds. The journal of what came before is left open because the surroundings
choose the outage of each call by its number, and nothing here restricts that choice.

The rules run backwards: each turns a goal about an operation into goals about what it calls. A
call is either answered (`Surroundings.Answers`) or stopped (`Surroundings.Stops`), and a stopped
call leaves the store alone.
-/

namespace ContentStore

/-- Whether a call asks the tables. -/
def Call.asksTables : Call → Bool
  | .ping | .probe _ => false
  | _ => true

/-- The call can be carried out: no outage at some number of calls, and tables to ask. -/
def Surroundings.Answers (e : Surroundings) (c : Call) : Prop :=
  (∃ n, e.outage n c = none) ∧ (c.asksTables = true → e.connection = .ready)

/-- The ways in which a call can end without being carried out. -/
inductive Surroundings.Stops (e : Surroundings) : Call → Failure → Prop where
  | outage {n : Nat} {c : Call} {o : Outage} :
      e.outage n c = some o → e.Stops c (.refused (o.refusal c))
  | disconnected {c : Call} {r : Refusal} :
      c.asksTables = true → e.query (.ok ()) = .error r → e.Stops c (.refused r)
  | keeper {storageId path : String} {r : Refusal} :
      storagePath? storageId = some path → e.backend.holds path = .error r →
      e.Stops (.probe storageId) (.refused r)
  | noPath {storageId : String} :
      storagePath? storageId = none →
      e.Stops (.probe storageId) (.aborted (.noPath storageId))

/-- Whether the bytes for a storage id are present. -/
def Surroundings.holds (e : Surroundings) (storageId : String) : Bool :=
  match (storagePath? storageId).map e.backend.holds with
  | some (.ok held) => held
  | _ => false

/-- The bytes that an owner may keep: those of the plan, or else of the default plan. -/
def Surroundings.quotaOf (e : Surroundings) (s : Store) (owner : String) : Int :=
  ((s.plan? owner).getD e.defaultPlan).quota

/-- A write of `size` in place of the rows `excluding` passes the check of the quota. -/
def Surroundings.Admits (e : Surroundings) (s : Store) (owner : String) (excluding : List String)
    (size : Int) : Prop :=
  ∃ total, s.usage? owner excluding = some total ∧ saturatingAdd total size ≤ e.quotaOf s owner

/-- The ways in which the check of the quota fails. -/
inductive Surroundings.Rejects (e : Surroundings) (s : Store) (owner : String)
    (excluding : List String) (size : Int) : Failure → Prop where
  | exceeds {total : Int} :
      s.usage? owner excluding = some total → e.quotaOf s owner < saturatingAdd total size →
      e.Rejects s owner excluding size
        (.refused (.overQuota (saturatingAdd total size) (e.quotaOf s owner)))
  | overflow :
      s.usage? owner excluding = none → e.Rejects s owner excluding size (.refused sumOverflow)
  | usage {f : Failure} : e.Stops (.usage owner) f → e.Rejects s owner excluding size f
  | plan {f : Failure} : e.Stops (.plan owner) f → e.Rejects s owner excluding size f

/-- No outage gives itself out for the verdict that there are no bytes. -/
def Surroundings.Candid (e : Surroundings) : Prop :=
  ∀ n c, e.outage n c ≠ some (.failed .noBytes)

/-! ### What stops a call is no verdict -/

/-- What the keeper of the bytes refuses with. -/
theorem Backend.refusal_cases {b : Backend} {path : String} {r : Refusal}
    (failed : b.holds path = .error r) :
    r = .timedOut "storage backend probe" ∨ (∃ detail, r = .backend detail) ∨
      ∃ detail, r = .fileSystem detail := by
  cases b with
  | fileTree root tree =>
      simp only [Backend.holds, FileTree.holds] at failed
      split at failed
      · cases failed
        exact .inr (.inl ⟨_, rfl⟩)
      · split at failed
        · cases failed
        · cases failed
          exact .inr (.inr ⟨_, rfl⟩)
  | gateway g =>
      simp only [Backend.holds, Gateway.holds] at failed
      split at failed
      · cases failed
        exact .inr (.inl ⟨_, rfl⟩)
      · unfold Gateway.verdict at failed
        split at failed
        · cases failed
          exact .inl rfl
        · cases failed
          exact .inr (.inl ⟨_, rfl⟩)
        · split at failed
          · cases failed
          · split at failed
            · cases failed
            · cases failed
              exact .inr (.inl ⟨_, rfl⟩)

/-- What a call is refused with that is not carried out: by an outage, by a store that cannot be
asked, or by the keeper of the bytes. -/
theorem Surroundings.Stops.refusal_cases {e : Surroundings} {c : Call} {r : Refusal}
    (stops : e.Stops c (.refused r)) :
    (∃ n o, e.outage n c = some o ∧ r = o.refusal c) ∨
      (c.asksTables = true ∧ e.connection ≠ .ready ∧ (r = missingTables ∨ r = closedStore)) ∨
      (c.asksTables = false ∧ ∃ path, e.backend.holds path = .error r) := by
  cases stops with
  | outage met => exact .inl ⟨_, _, met, rfl⟩
  | disconnected asks off =>
      refine .inr (.inl ⟨asks, ?_⟩)
      cases connected : e.connection <;> simp [Surroundings.query, connected] at off
      · exact ⟨nofun, .inl off.symm⟩
      · exact ⟨nofun, .inr off.symm⟩
  | keeper _ failed => exact .inr (.inr ⟨rfl, _, failed⟩)

theorem Surroundings.Stops.ne_noBytes {e : Surroundings} {c : Call} {f : Failure}
    (stops : e.Stops c f) (candid : e.Candid) : f ≠ .refused .noBytes := by
  rintro rfl
  rcases stops.refusal_cases with ⟨n, o, met, same⟩ | ⟨-, -, same | same⟩ | ⟨-, path, failed⟩
  · cases o with
    | late => cases same
    | failed r => exact candid n c (same ▸ met)
  · cases same
  · cases same
  · rcases Backend.refusal_cases failed with same | ⟨_, same⟩ | ⟨_, same⟩ <;> cases same

theorem Surroundings.Rejects.ne_noBytes {e : Surroundings} {s : Store} {owner : String}
    {excluding : List String} {size : Int} {f : Failure}
    (rejects : e.Rejects s owner excluding size f) (candid : e.Candid) :
    f ≠ .refused .noBytes := by
  cases rejects with
  | exceeds => simp
  | overflow => simp [sumOverflow]
  | usage stops => exact stops.ne_noBytes candid
  | plan stops => exact stops.ne_noBytes candid

namespace Operation

variable {α β : Type} {e : Surroundings} {s : Store}

/-- Every run from `s` ends as `good` or as `bad` says. -/
def Ensures (x : Operation α) (e : Surroundings) (s : Store) (good : α → Store → Prop)
    (bad : Failure → Store → Prop) : Prop :=
  ∀ n, match x e ⟨s, n⟩ with
    | (.ok a, p) => good a p.store
    | (.error f, p) => bad f p.store

theorem map_run (x : Operation α) (f : α → β) (p : Progress) :
    (f <$> x) e p =
      match x e p with
      | (.ok a, p') => (.ok (f a), p')
      | (.error failure, p') => (.error failure, p') :=
  rfl

/-! ### From what is ensured to a run -/

theorem Ensures.ok {x : Operation α} {good : α → Store → Prop} {bad : Failure → Store → Prop}
    {n : Journal} {a : α} {p : Progress} (ensures : x.Ensures e s good bad)
    (ran : x e ⟨s, n⟩ = (.ok a, p)) : good a p.store := by
  have ends := ensures n
  rwa [ran] at ends

theorem Ensures.error {x : Operation α} {good : α → Store → Prop} {bad : Failure → Store → Prop}
    {n : Journal} {f : Failure} {p : Progress} (ensures : x.Ensures e s good bad)
    (ran : x e ⟨s, n⟩ = (.error f, p)) : bad f p.store := by
  have ends := ensures n
  rwa [ran] at ends

theorem Ensures.answered {x : Operation α} {good : α → Store → Prop}
    {bad : Failure → Store → Prop} {n : Journal} {a : α} (ensures : x.Ensures e s good bad)
    (answered : (x e ⟨s, n⟩).1 = .ok a) : good a (x e ⟨s, n⟩).2.store :=
  ensures.ok (Prod.ext answered rfl)

/-- A property of the store alone is ensured once both ends have it. -/
theorem Ensures.store {x : Operation α} {holds : Store → Prop} (n : Journal)
    (ensures : x.Ensures e s (fun _ => holds) fun _ => holds) : holds (x e ⟨s, n⟩).2.store := by
  cases ran : x e ⟨s, n⟩ with
  | mk result p =>
      cases result with
      | ok a => exact ensures.ok ran
      | error f => exact ensures.error ran

/-! ### Rules for sequencing -/

variable {good good' : α → Store → Prop} {bad bad' : Failure → Store → Prop}

theorem Ensures.mono {x : Operation α} (ensures : x.Ensures e s good bad)
    (onGood : ∀ a s', good a s' → good' a s') (onBad : ∀ f s', bad f s' → bad' f s') :
    x.Ensures e s good' bad' := by
  intro n
  cases ran : x e ⟨s, n⟩ with
  | mk result p =>
      cases result with
      | ok a => exact onGood a p.store (ensures.ok ran)
      | error f => exact onBad f p.store (ensures.error ran)

theorem ensures_pure {a : α} (holds : good a s) : (pure a : Operation α).Ensures e s good bad :=
  fun _ => holds

theorem ensures_fail {f : Failure} (holds : bad f s) :
    (fail f : Operation α).Ensures e s good bad :=
  fun _ => holds

theorem ensures_refuse {r : Refusal} (holds : bad (.refused r) s) :
    (refuse r : Operation α).Ensures e s good bad :=
  fun _ => holds

theorem ensures_bind {x : Operation α} {f : α → Operation β} {good : β → Store → Prop}
    (ensures : x.Ensures e s (fun a s' => (f a).Ensures e s' good bad) bad) :
    (x >>= f).Ensures e s good bad := by
  intro n
  rw [bind_run]
  cases ran : x e ⟨s, n⟩ with
  | mk result p =>
      cases result with
      | ok a => exact ensures.ok ran p.journal
      | error failure => exact ensures.error ran

theorem ensures_map {x : Operation α} {f : α → β} {good : β → Store → Prop}
    (ensures : x.Ensures e s (fun a => good (f a)) bad) : (f <$> x).Ensures e s good bad :=
  ensures_bind (ensures.mono (fun _ _ holds => ensures_pure holds) fun _ _ holds => holds)

theorem ensures_ofExcept {result : Except Refusal α} (ok : ∀ a, result = .ok a → good a s)
    (error : ∀ r, result = .error r → bad (.refused r) s) :
    (ofExcept result).Ensures e s good bad := by
  intro n
  cases result with
  | ok a => exact ok a rfl
  | error r => exact error r rfl

theorem ensures_attempt {x : Operation α} {good : Except Refusal α → Store → Prop}
    (ensures : x.Ensures e s (fun a => good (.ok a)) fun f s' =>
      match f with
      | .refused r => good (.error r) s'
      | .aborted why => bad (.aborted why) s') : (attempt x).Ensures e s good bad := by
  intro n
  have ends := ensures n
  unfold attempt
  cases ran : x e ⟨s, n⟩ with
  | mk result p =>
      rw [ran] at ends
      cases result with
      | ok a => exact ends
      | error failure => cases failure <;> exact ends

theorem ensures_surroundings {good : Surroundings → Store → Prop} (holds : good e s) :
    surroundings.Ensures e s good bad :=
  fun _ => holds

/-! ### Rules for the calls -/

theorem ensures_call {c : Call} {body : Surroundings → Store → Except Refusal (α × Store)}
    (answered : ∀ n a s', e.outage n c = none → body e s = .ok (a, s') → good a s')
    (refused : ∀ r, body e s = .error r → bad (.refused r) s)
    (stopped : ∀ n o, e.outage n c = some o → bad (.refused (o.refusal c)) s) :
    (call c body).Ensures e s good bad := by
  intro n
  unfold call
  cases met : e.outage n.calls c with
  | some o => exact stopped n.calls o met
  | none =>
      cases ran : body e s with
      | ok answer => exact answered n.calls answer.1 answer.2 met ran
      | error r => exact refused r ran

/-- A call that asks the tables: where they can be asked, `answer` answers it. -/
theorem ensures_query {c : Call} (asks : c.asksTables = true)
    {answer : Surroundings → Store → Except Refusal (α × Store)}
    (answered : e.Answers c → ∀ a s', answer e s = .ok (a, s') → good a s')
    (refused : ∀ r, answer e s = .error r → bad (.refused r) s)
    (stopped : ∀ f, e.Stops c f → bad f s) :
    (call c fun e s => e.query (answer e s)).Ensures e s good bad := by
  refine ensures_call ?_ ?_ fun n o met => stopped _ (.outage met)
  · intro n a s' met ran
    cases connected : e.connection with
    | ready =>
        simp only [Surroundings.query, connected] at ran
        exact answered ⟨⟨n, met⟩, fun _ => connected⟩ a s' ran
    | blank => simp [Surroundings.query, connected] at ran
    | closed => simp [Surroundings.query, connected] at ran
  · intro r failed
    cases connected : e.connection with
    | ready =>
        simp only [Surroundings.query, connected] at failed
        exact refused r failed
    | blank =>
        refine stopped _ (.disconnected asks ?_)
        simpa [Surroundings.query, connected] using failed
    | closed =>
        refine stopped _ (.disconnected asks ?_)
        simpa [Surroundings.query, connected] using failed

theorem ensures_find {storageId : String} {good : Option Record → Store → Prop}
    (answered : e.Answers (.lookup storageId) → good (s.find? storageId) s)
    (stopped : ∀ f, e.Stops (.lookup storageId) f → bad f s) :
    (find storageId).Ensures e s good bad := by
  refine ensures_query rfl (fun answers a s' ran => ?_) (fun r failed => ?_) stopped
  · cases ran
    exact answered answers
  · cases failed

theorem ensures_write {d : Draft} {good : Record → Store → Prop}
    (answered : e.Answers (.write d.storageId) → good (s.written d e.now) (s.put d e.now))
    (stopped : ∀ f, e.Stops (.write d.storageId) f → bad f s) :
    (write d).Ensures e s good bad := by
  refine ensures_query rfl (fun answers a s' ran => ?_) (fun r failed => ?_) stopped
  · cases ran
    exact answered answers
  · cases failed

theorem ensures_markGarbage {storageId : String} {good : Bool → Store → Prop}
    (answered : e.Answers (.erase storageId) →
      good (s.find? storageId).isSome (s.markGarbage storageId e.now))
    (stopped : ∀ f, e.Stops (.erase storageId) f → bad f s) :
    (markGarbage storageId).Ensures e s good bad := by
  refine ensures_query rfl (fun answers a s' ran => ?_) (fun r failed => ?_) stopped
  · cases ran
    exact answered answers
  · cases failed

theorem ensures_candidates {sha256 notOwner : String} {good : List Record → Store → Prop}
    (answered : e.Answers (.candidates sha256) → good (s.candidates sha256 notOwner) s)
    (stopped : ∀ f, e.Stops (.candidates sha256) f → bad f s) :
    (candidates sha256 notOwner).Ensures e s good bad := by
  refine ensures_query rfl (fun answers a s' ran => ?_) (fun r failed => ?_) stopped
  · cases ran
    exact answered answers
  · cases failed

theorem ensures_list {owner : String} {f : ListFilter} {limit : Nat}
    {good : List Record → Store → Prop}
    (answered : e.Answers (.listing owner) → good (s.list owner f limit) s)
    (stopped : ∀ f, e.Stops (.listing owner) f → bad f s) :
    (list owner f limit).Ensures e s good bad := by
  refine ensures_query rfl (fun answers a s' ran => ?_) (fun r failed => ?_) stopped
  · cases ran
    exact answered answers
  · cases failed

theorem ensures_plan {owner : String} {good : Option Plan → Store → Prop}
    (answered : e.Answers (.plan owner) → good (s.plan? owner) s)
    (stopped : ∀ f, e.Stops (.plan owner) f → bad f s) :
    (plan owner).Ensures e s good bad := by
  refine ensures_query rfl (fun answers a s' ran => ?_) (fun r failed => ?_) stopped
  · cases ran
    exact answered answers
  · cases failed

theorem ensures_usage {owner : String} {excluding : List String} {good : Int → Store → Prop}
    (answered : e.Answers (.usage owner) →
      ∀ total, s.usage? owner excluding = some total → good total s)
    (overflow : s.usage? owner excluding = none → bad (.refused sumOverflow) s)
    (stopped : ∀ f, e.Stops (.usage owner) f → bad f s) :
    (usage owner excluding).Ensures e s good bad := by
  refine ensures_query rfl (fun answers a s' ran => ?_) (fun r failed => ?_) stopped
  · cases sum : s.usage? owner excluding with
    | none => simp [sum] at ran
    | some total =>
        simp only [sum, Except.ok.injEq, Prod.mk.injEq] at ran
        obtain ⟨rfl, rfl⟩ := ran
        exact answered answers total sum
  · cases sum : s.usage? owner excluding with
    | none =>
        simp only [sum, Except.error.injEq] at failed
        subst failed
        exact overflow sum
    | some total => simp [sum] at failed

theorem ensures_pathOf {storageId : String} {good : String → Store → Prop}
    (found : ∀ path, storagePath? storageId = some path → good path s)
    (noPath : storagePath? storageId = none → bad (.aborted (.noPath storageId)) s) :
    (pathOf storageId).Ensures e s good bad := by
  refine ensures_bind fun n => ?_
  dsimp only
  cases cut : storagePath? storageId with
  | none => exact ensures_fail (noPath cut)
  | some path => exact ensures_pure (found path cut)

theorem ensures_bytesPresent {storageId : String} {good : Bool → Store → Prop}
    (answered : e.Answers (.probe storageId) → good (e.holds storageId) s)
    (stopped : ∀ f, e.Stops (.probe storageId) f → bad f s) :
    (bytesPresent storageId).Ensures e s good bad := by
  refine ensures_bind (ensures_pathOf (fun path cut => ?_) fun uncut => stopped _ (.noPath uncut))
  refine ensures_call ?_ ?_ fun n o met => stopped _ (.outage met)
  · intro n held s' met ran
    cases asked : e.backend.holds path with
    | error r => simp [asked, Except.map] at ran
    | ok b =>
        simp only [asked, Except.map, Except.ok.injEq, Prod.mk.injEq] at ran
        obtain ⟨rfl, rfl⟩ := ran
        have holds := answered ⟨⟨n, met⟩, fun asks => by cases asks⟩
        simpa [Surroundings.holds, cut, asked] using holds
  · intro r failed
    cases asked : e.backend.holds path with
    | error r' =>
        simp only [asked, Except.map, Except.error.injEq] at failed
        subst failed
        exact stopped _ (.keeper cut asked)
    | ok b => simp [asked, Except.map] at failed

/-- The check of the quota, as a gate before a write. -/
theorem ensures_checkQuota {owner : String} {excluding : List String} {size : Int}
    {good : Unit → Store → Prop}
    (passed : e.Admits s owner excluding size → good () s)
    (rejected : ∀ f, e.Rejects s owner excluding size f → bad f s) :
    (checkQuota owner excluding size).Ensures e s good bad := by
  unfold checkQuota usageAfterWrite quota
  refine ensures_bind (ensures_bind (ensures_usage (fun _ total sum => ?_)
    (fun overflow => rejected _ (.overflow overflow)) fun f stops => rejected f (.usage stops)))
  refine ensures_pure (ensures_bind (ensures_bind (ensures_plan (fun _ => ?_)
    fun f stops => rejected f (.plan stops))))
  refine ensures_bind (ensures_surroundings (ensures_pure ?_))
  split
  · next exceeds => exact ensures_refuse (rejected _ (.exceeds sum exceeds))
  · next within => exact ensures_pure (passed ⟨total, sum, Int.not_lt.mp within⟩)

end Operation
end ContentStore
