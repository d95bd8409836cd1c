import ContentStore.Proofs.Outcomes

/-!
# Runs, call by call

What one call of a given number does: it is carried out (`Surroundings.Carries`) and answered from
the store, or it is refused and leaves the store alone. Where the order of calls matters, an
operation is taken apart with these instead of the rules of `Ensures`, which leave the numbers
open.
-/

namespace ContentStore

/-- The call of this number is carried out. -/
def Surroundings.Carries (e : Surroundings) (n : Nat) (c : Call) : Prop :=
  e.outage n c = none ∧ (c.asksTables = true → e.connection = .ready)

namespace Operation

variable {α β : Type} (e : Surroundings) (s : Store) (n : Journal)

/-! ### One call -/

/-- A query that is carried out is answered from the store; one that is not is refused and leaves
the store alone. -/
theorem query_run {c : Call} (asks : c.asksTables = true)
    (answer : Surroundings → Store → Except Refusal (α × Store)) :
    (e.Carries n.calls c ∧
        call c (fun e s => e.query (answer e s)) e ⟨s, n⟩ =
          match answer e s with
          | .ok (a, s') => (.ok a, ⟨s', n.calling 1⟩)
          | .error r => (.error (.refused r), ⟨s, n.calling 1⟩)) ∨
      (¬e.Carries n.calls c ∧
        ∃ r, call c (fun e s => e.query (answer e s)) e ⟨s, n⟩ =
          (.error (.refused r), ⟨s, n.calling 1⟩)) := by
  unfold call
  cases met : e.outage n.calls c with
  | some o =>
      refine Or.inr ⟨fun carries => ?_, _, rfl⟩
      rw [carries.1] at met
      cases met
  | none =>
      cases connected : e.connection with
      | ready =>
          refine Or.inl ⟨⟨met, fun _ => connected⟩, ?_⟩
          dsimp only
          cases answer e s <;> simp only [Surroundings.query, connected]
      | blank =>
          refine Or.inr ⟨fun carries => ?_, missingTables, ?_⟩
          · rw [carries.2 asks] at connected
            cases connected
          · simp only [Surroundings.query, connected]
      | closed =>
          refine Or.inr ⟨fun carries => ?_, closedStore, ?_⟩
          · rw [carries.2 asks] at connected
            cases connected
          · simp only [Surroundings.query, connected]

theorem find_run (id : String) :
    (e.Carries n.calls (.lookup id) ∧ find id e ⟨s, n⟩ = (.ok (s.find? id), ⟨s, n.calling 1⟩)) ∨
      (¬e.Carries n.calls (.lookup id) ∧
        ∃ r, find id e ⟨s, n⟩ = (.error (.refused r), ⟨s, n.calling 1⟩)) :=
  query_run e s n rfl fun _ s => .ok (s.find? id, s)

theorem write_run (d : Draft) :
    (e.Carries n.calls (.write d.storageId) ∧
        write d e ⟨s, n⟩ = (.ok (s.written d e.now), ⟨s.put d e.now, n.calling 1⟩)) ∨
      (¬e.Carries n.calls (.write d.storageId) ∧
        ∃ r, write d e ⟨s, n⟩ = (.error (.refused r), ⟨s, n.calling 1⟩)) :=
  query_run e s n rfl fun e s => .ok (s.written d e.now, s.put d e.now)

theorem markGarbage_run (id : String) :
    (e.Carries n.calls (.erase id) ∧
        markGarbage id e ⟨s, n⟩ =
          (.ok (s.find? id).isSome, ⟨s.markGarbage id e.now, n.calling 1⟩)) ∨
      (¬e.Carries n.calls (.erase id) ∧
        ∃ r, markGarbage id e ⟨s, n⟩ = (.error (.refused r), ⟨s, n.calling 1⟩)) :=
  query_run e s n rfl fun e s => .ok ((s.find? id).isSome, s.markGarbage id e.now)

theorem quota_run (owner : String) :
    (e.Carries n.calls (.plan owner) ∧
        quota owner e ⟨s, n⟩ = (.ok (e.quotaOf s owner), ⟨s, n.calling 1⟩)) ∨
      (¬e.Carries n.calls (.plan owner) ∧
        ∃ r, quota owner e ⟨s, n⟩ = (.error (.refused r), ⟨s, n.calling 1⟩)) := by
  unfold quota
  rw [bind_run]
  rcases query_run e s n (c := .plan owner) rfl
    (fun _ s => .ok (s.plan? owner, s)) with ⟨carries, ran⟩ | ⟨hit, r, ran⟩
  · exact Or.inl ⟨carries, by rw [plan, ran]; rfl⟩
  · exact Or.inr ⟨hit, r, by rw [plan, ran]⟩

theorem usage_run (owner : String) (excluding : List String) :
    (e.Carries n.calls (.usage owner) ∧
        usage owner excluding e ⟨s, n⟩ =
          match s.usage? owner excluding with
          | some total => (.ok total, ⟨s, n.calling 1⟩)
          | none => (.error (.refused sumOverflow), ⟨s, n.calling 1⟩)) ∨
      (¬e.Carries n.calls (.usage owner) ∧
        ∃ r, usage owner excluding e ⟨s, n⟩ = (.error (.refused r), ⟨s, n.calling 1⟩)) := by
  rcases query_run e s n (c := .usage owner) rfl
    (fun _ s => match s.usage? owner excluding with
      | some total => .ok (total, s)
      | none => .error sumOverflow) with ⟨carries, ran⟩ | hit
  · refine Or.inl ⟨carries, ran.trans ?_⟩
    cases s.usage? owner excluding <;> rfl
  · exact Or.inr hit

theorem list_run (owner : String) (f : ListFilter) (limit : Nat) :
    (e.Carries n.calls (.listing owner) ∧
        list owner f limit e ⟨s, n⟩ = (.ok (s.list owner f limit), ⟨s, n.calling 1⟩)) ∨
      (¬e.Carries n.calls (.listing owner) ∧
        ∃ r, list owner f limit e ⟨s, n⟩ = (.error (.refused r), ⟨s, n.calling 1⟩)) :=
  query_run e s n rfl fun _ s => .ok (s.list owner f limit, s)

theorem usageAfterWrite_run (owner : String) (excluding : List String) (size : Int) :
    (e.Carries n.calls (.usage owner) ∧
        ∃ total, s.usage? owner excluding = some total ∧
          usageAfterWrite owner excluding size e ⟨s, n⟩ =
            (.ok (saturatingAdd total size), ⟨s, n.calling 1⟩)) ∨
      (¬(e.Carries n.calls (.usage owner) ∧ ∃ total, s.usage? owner excluding = some total) ∧
        ∃ r, usageAfterWrite owner excluding size e ⟨s, n⟩ =
          (.error (.refused r), ⟨s, n.calling 1⟩)) := by
  unfold usageAfterWrite
  rw [bind_run]
  rcases usage_run e s n owner excluding with ⟨carries, ran⟩ | ⟨hit, r, ran⟩
  · cases sum : s.usage? owner excluding with
    | some total =>
        rw [sum] at ran
        exact Or.inl ⟨carries, total, rfl, by rw [ran]; rfl⟩
    | none =>
        rw [sum] at ran
        refine Or.inr ⟨fun summed => ?_, sumOverflow, by rw [ran]⟩
        obtain ⟨total, computed⟩ := summed.2
        cases computed
  · exact Or.inr ⟨fun summed => hit summed.1, r, by rw [ran]⟩

/-- The check of the quota takes two calls and leaves the store alone. -/
theorem checkQuota_run (owner : String) (excluding : List String) (size : Int) :
    ((e.Carries n.calls (.usage owner) ∧ e.Carries (n.calls + 1) (.plan owner) ∧
          e.Admits s owner excluding size) ∧
        checkQuota owner excluding size e ⟨s, n⟩ = (.ok (), ⟨s, n.calling 2⟩)) ∨
      (¬(e.Carries n.calls (.usage owner) ∧ e.Carries (n.calls + 1) (.plan owner) ∧
            e.Admits s owner excluding size) ∧
        ∃ r k, checkQuota owner excluding size e ⟨s, n⟩ = (.error (.refused r), ⟨s, k⟩)) := by
  unfold checkQuota
  rw [bind_run]
  rcases usageAfterWrite_run e s n owner excluding size with
    ⟨asked, total, sum, ran⟩ | ⟨unsummed, r, ran⟩
  · rw [ran]
    dsimp only
    rw [bind_run]
    rcases quota_run e s (n.calling 1) owner with ⟨planned, ran⟩ | ⟨hit, r, ran⟩
    · rw [ran]
      dsimp only
      by_cases exceeds : saturatingAdd total size > e.quotaOf s owner
      · rw [if_pos exceeds]
        refine Or.inr ⟨fun passes => ?_, _, _, rfl⟩
        obtain ⟨total', computed, within⟩ := passes.2.2
        rw [sum, Option.some.injEq] at computed
        rw [← computed] at within
        exact absurd within (Int.not_le.mpr exceeds)
      · rw [if_neg exceeds]
        exact Or.inl ⟨⟨asked, planned, total, sum, Int.not_lt.mp exceeds⟩, rfl⟩
    · exact Or.inr ⟨fun passes => hit passes.2.1, r, _, by rw [ran]⟩
  · refine Or.inr ⟨fun passes => unsummed ⟨passes.1, ?_⟩, r, _, by rw [ran]⟩
    obtain ⟨total, computed, -⟩ := passes.2.2
    exact ⟨total, computed⟩

/-- A check that cannot add up the total fails inside. -/
theorem checkQuota_run_of_overflow {owner : String} {excluding : List String} {size : Int}
    (asked : e.Carries n.calls (.usage owner)) (overflow : s.usage? owner excluding = none) :
    checkQuota owner excluding size e ⟨s, n⟩ =
      (.error (.refused sumOverflow), ⟨s, n.calling 1⟩) := by
  rcases usage_run e s n owner excluding with ⟨-, ran⟩ | ⟨hit, -⟩
  · rw [overflow] at ran
    rw [checkQuota, bind_run, usageAfterWrite, bind_run, ran]
  · exact absurd asked hit

/-- Looking for bytes leaves the store alone. -/
theorem bytesPresent_left (id : String) : (bytesPresent id e ⟨s, n⟩).2.store = s := by
  have kept : (bytesPresent id).Ensures e s (fun _ s' => s' = s) fun _ s' => s' = s :=
    ensures_bytesPresent (fun _ => rfl) fun _ _ => rfl
  exact kept.store n

/-- A grant leaves the store alone, and no grant is refused. -/
theorem grantAccess_run (caller : Caller) (record : Record) (readFrom : Option String)
    (writable : Bool) (p : Progress) :
    (grantAccess caller record readFrom writable e p).2 = p ∧
      ∀ r, (grantAccess caller record readFrom writable e p).1 ≠ .error (.refused r) := by
  have ran := award_run e caller ⟨record, readFrom, writable⟩ p
  rw [Award.grant] at ran
  rw [ran]
  cases e.now.later? e.issuer.seconds <;> exact ⟨rfl, fun r => by simp⟩

/-! ### The start of an update -/

/-- The call of number `n` finds the row of an update; it is the caller's, and it has a size. -/
structure UpdateStarts (e : Surroundings) (s : Store) (n : Nat) (caller : Caller)
    (hash : ContentHash) (m : Metadata) (row : Record) (size : Int) : Prop where
  lookup : e.Carries n (.lookup (storageId caller.owner hash))
  live : s.find? (storageId caller.owner hash) = some row
  owned : row.owner = caller.owner
  sized : m.sizeFor row = .ok size

variable {e s n} {caller : Caller} {hash : ContentHash} {m : Metadata} {row : Record} {size : Int}

theorem UpdateStarts.unique {row' : Record} {size' : Int}
    (starts : UpdateStarts e s n.calls caller hash m row size)
    (starts' : UpdateStarts e s n.calls caller hash m row' size') : row' = row ∧ size' = size := by
  have sameRow : row' = row := Option.some.inj (starts'.live.symm.trans starts.live)
  refine ⟨sameRow, ?_⟩
  have sized := starts'.sized
  rw [sameRow, starts.sized] at sized
  exact (Except.ok.inj sized).symm

/-- An update that starts goes on with a move or in place, and any other is refused. -/
theorem updateTo_run (newHash : Option ContentHash) :
    (∃ row size, UpdateStarts e s n.calls caller hash m row size ∧
        updateTo caller hash m newHash e ⟨s, n⟩ =
          match newHash with
          | some newHash => moveContent caller row newHash m size e ⟨s, n.calling 1⟩
          | none => changeInPlace caller hash row m size e ⟨s, n.calling 1⟩) ∨
      ((∀ row size, ¬UpdateStarts e s n.calls caller hash m row size) ∧
        ∃ r, updateTo caller hash m newHash e ⟨s, n⟩ =
          (.error (.refused r), ⟨s, n.calling 1⟩)) := by
  unfold updateTo
  rw [bind_run]
  rcases find_run e s n (storageId caller.owner hash) with ⟨asked, ran⟩ | ⟨hit, r, ran⟩
  · rw [ran]
    dsimp only
    cases found : s.find? (storageId caller.owner hash) with
    | none =>
        refine Or.inr ⟨fun row size starts => ?_, _, rfl⟩
        have live := starts.live
        rw [found] at live
        cases live
    | some row =>
        have only : ∀ {row' size}, UpdateStarts e s n.calls caller hash m row' size → row' = row :=
          fun starts => Option.some.inj (starts.live.symm.trans found)
        rw [requireSome, bind_run, pure_run]
        dsimp only
        rw [bind_run, requireOwner]
        by_cases owned : row.owner = caller.owner
        · rw [if_pos owned, pure_run]
          dsimp only
          rw [bind_run]
          cases sized : m.sizeFor row with
          | ok size =>
              refine Or.inl ⟨row, size, ⟨asked, found, owned, sized⟩, ?_⟩
              cases newHash <;> rfl
          | error r =>
              refine Or.inr ⟨fun row' size starts => ?_, r, rfl⟩
              have given := starts.sized
              rw [only starts, sized] at given
              cases given
        · rw [if_neg owned]
          refine Or.inr ⟨fun row' size starts => owned ?_, _, rfl⟩
          rw [← only starts]
          exact starts.owned
  · rw [ran]
    exact Or.inr ⟨fun _ _ starts => hit starts.lookup, r, rfl⟩

/-! ### An update in place where no call is refused -/

theorem changeInPlace_run {expiresAt : Time.Instant} (carries : ∀ n c, e.Carries n c)
    (own : row.isLink = false)
    (admits : e.Admits s caller.owner [storageId caller.owner hash] size)
    (ends : e.now.later? e.issuer.seconds = some expiresAt) :
    changeInPlace caller hash row m size e ⟨s, n⟩ =
      (.ok (Award.granted ⟨s.written (row.revised m size) e.now,
          some (storageId caller.owner hash), true⟩ e caller expiresAt),
        ⟨s.put (row.revised m size) e.now, n.calling 3⟩) := by
  rw [changeInPlace, own, if_neg (by decide), bind_run]
  rcases checkQuota_run e s n caller.owner [storageId caller.owner hash] size with
    ⟨-, ran⟩ | ⟨rejected, -⟩
  · rw [ran]
    dsimp only
    rw [bind_run]
    rcases write_run e s (n.calling 2) (row.revised m size) with
      ⟨-, ran⟩ | ⟨hit, -⟩
    · rw [ran]
      dsimp only
      have granted := award_run e caller ⟨s.written (row.revised m size) e.now,
        some (storageId caller.owner hash), true⟩ ⟨s.put (row.revised m size) e.now, n.calling 3⟩
      rw [ends] at granted
      exact granted
    · exact absurd (carries _ _) hit
  · exact absurd ⟨carries _ _, carries _ _, admits⟩ rejected

theorem update_run_of_none {text : String} (p : Progress)
    (parsed : ContentHash.parse text = .ok hash) :
    update caller text ⟨m, none⟩ e p = updateTo caller hash m none e p := by
  rw [update_eq, bind_run, ContentHash.require_eq_ok_iff.mpr parsed]
  rfl

/-- An update in place of an own row is granted as a whole where no call is refused and the quota
admits the size. -/
theorem update_run_in_place {text : String} {expiresAt : Time.Instant}
    (carries : ∀ n c, e.Carries n c) (parsed : ContentHash.parse text = .ok hash)
    (live : s.find? (storageId caller.owner hash) = some row) (owned : row.owner = caller.owner)
    (own : row.isLink = false) (sized : m.sizeFor row = .ok size)
    (admits : e.Admits s caller.owner [storageId caller.owner hash] size)
    (ends : e.now.later? e.issuer.seconds = some expiresAt) :
    update caller text ⟨m, none⟩ e ⟨s, n⟩ =
      (.ok (Award.granted ⟨s.written (row.revised m size) e.now,
          some (storageId caller.owner hash), true⟩ e caller expiresAt),
        ⟨s.put (row.revised m size) e.now, n.calling 4⟩) := by
  have starts : UpdateStarts e s n.calls caller hash m row size := ⟨carries _ _, live, owned, sized⟩
  rcases updateTo_run (e := e) (s := s) (n := n) none with
    ⟨row', size', starts', ran⟩ | ⟨never, -⟩
  · obtain ⟨rfl, rfl⟩ := starts.unique starts'
    calc update caller text ⟨m, none⟩ e ⟨s, n⟩
      _ = updateTo caller hash m none e ⟨s, n⟩ := update_run_of_none _ parsed
      _ = changeInPlace caller hash row' m size' e ⟨s, n.calling 1⟩ := ran
      _ = _ := changeInPlace_run carries own admits ends
  · exact absurd starts (never _ _)

end Operation
end ContentStore
