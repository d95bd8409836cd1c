import ContentStore.Proofs.Uploads

/-!
# Failures that leave the store alone

An action that moves no record writes at most once, and whatever can fail about it comes before:
its texts and sizes are read, rows, plans and the bytes of every candidate are looked up, and then
it writes. So it is answered with a record that stands in the store, or it fails and has changed
nothing, whichever call it was that failed (`failures_leave_store`).

After the write there are two checks left. A caller is denied a record of somebody else, which
cannot be the one just written, since each row stands under the key of its owner. And a grant that
would outlive the calendar ends the action without an answer.
-/

namespace ContentStore

variable {used : Set (String × ContentHash)} {e : Surroundings} {s : Store} {caller : Caller}

/-- An award for the live row of a key is answered with that row, or ends with the calendar. -/
theorem Operation.ensures_award_shown {w : Award} {key : String} {bad : Failure → Store → Prop}
    (live : s.find? key = some w.record) (expired : bad (.aborted .endOfTime) s) :
    (w.grant caller).Ensures e s
      (fun g s' => s'.find? g.record.storageId = some g.record) bad := by
  refine Operation.ensures_award (fun expiresAt _ => ?_) fun _ => expired
  have hasKey : w.record.storageId = key := (Store.find?_some live).2.1
  change s.find? w.record.storageId = some w.record
  rw [hasKey]
  exact live

/-- An action other than an update is answered with a row that stands in the store, or it leaves
the store as it was, unless its grant would outlive the calendar. -/
theorem Action.ensures_all_or_nothing (wellFormed : s.WellFormed used) (free : CollisionFree used)
    {a : Action} (within : a.Within caller used)
    (stays : ∀ text revision, a ≠ .update text revision) :
    (a.run caller).Ensures e s
      (fun answer s' => ∀ g, a.granted? answer = some g →
        s'.find? g.record.storageId = some g.record)
      fun f s' => f = .aborted .endOfTime ∨ s' = s := by
  cases a with
  | register text m autoLink =>
      refine Operation.ensures_register (fun hash w created s' parsed registers => ?_)
        fun f => .inr rfl
      have mem := within hash (.first rfl parsed)
      have live := (registers.sound wellFormed free mem).live
      refine (Operation.ensures_award_shown live (.inl rfl)).mono ?_ fun _ _ holds => holds
      rintro g s'' shown _ ⟨⟩
      exact shown
  | fetch text autoLink =>
      refine Operation.ensures_fetch (fun hash w s' parsed fetches => ?_)
        (fun hash r s' parsed resolves foreign => ?_) fun f => .inr rfl
      · have mem := within hash (.first rfl parsed)
        have live := (fetches.sound wellFormed free mem).live
        refine (Operation.ensures_award_shown live (.inl rfl)).mono ?_ fun _ _ holds => holds
        rintro g s'' shown _ ⟨⟩
        exact shown
      · -- What is resolved for the caller is the caller's.
        have mem := within hash (.first rfl parsed)
        have owned := (resolves.sound wellFormed free mem).owned
        cases r <;> exact absurd owned foreign
  | update text revision => exact absurd rfl (stays text revision)
  | delete text =>
      exact Operation.ensures_delete (fun _ _ _ _ _ g none => nomatch none) fun f => .inr rfl
  | list q =>
      exact Operation.ensures_listPage (fun _ _ g none => nomatch none) fun f => .inr rfl

/-- **Failures leave the store alone.** In a reachable store, registering, fetching, deleting and
listing, whatever they are asked and whichever of their calls fail, change no row if they fail. If
they are answered with a record, it is the row that stands under its key. -/
theorem failures_leave_store (free : CollisionFree used) (reachable : Reachable used s) {a : Action}
    (within : a.Within caller used) (stays : ∀ text revision, a ≠ .update text revision)
    (e : Surroundings) (n : Journal) :
    (∀ f, (a.run caller e ⟨s, n⟩).1 = .error f → f ≠ .aborted .endOfTime →
      (a.run caller e ⟨s, n⟩).2.store = s) ∧
    ∀ answer g, (a.run caller e ⟨s, n⟩).1 = .ok answer → a.granted? answer = some g →
      (a.run caller e ⟨s, n⟩).2.store.find? g.record.storageId = some g.record := by
  have ends := Action.ensures_all_or_nothing (e := e) (reachable.wellFormed free) free within stays
  constructor
  · intro f failed inTime
    exact (ends.error (Prod.ext failed rfl)).resolve_left inTime
  · intro answer g answered grants
    exact ends.answered answered g grants

/-- Surroundings in which no plan can be looked up. -/
def Surroundings.planless : Surroundings :=
  { Surroundings.calm .empty with
    outage := fun _ c =>
      match c with
      | .plan _ => some .late
      | _ => none }

theorem failures_leave_store_planless :
    let ends := Operation.register .ann ContentHash.zeros.hex .empty true .planless ⟨.empty, 0⟩
    ends.1 = .error (.refused (.timedOut "quota lookup")) ∧ ends.2.store = .empty := by
  intro ends
  have failed : ends.1 = .error (.refused (.timedOut "quota lookup")) := by
    decide +kernel
  have within : (Action.register ContentHash.zeros.hex .empty true).Within .ann
      {("ann", .zeros)} :=
    Action.within_of_texts [.zeros] rfl (by simp [Caller.ann])
  obtain ⟨leaves, -⟩ := failures_leave_store (collisionFree_singleton _) .empty within (by simp)
    .planless 0
  exact ⟨failed, leaves _ failed (by simp)⟩

end ContentStore
