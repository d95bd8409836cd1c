import ContentStore.Proofs.Alike

/-!
# Rows out of reach

An action reaches the rows under the keys of its caller and of the contents that it names, and no
others: whatever it is asked, whatever it meets and however it ends, every other row is the same
afterwards in all of its fields, and none appears or disappears (`Effect.reaches`). The keys of one
owner are not those of another, so an owner's rows are out of reach of everyone else.

Not every write asks for the owner of the row that it goes to: a new link and the new row of a move
are written without a look at it. That no such write goes astray rests on each row standing under
the key of its owner (`Store.WellFormed`), before the action and after it.
-/

namespace ContentStore

/-- The two stores differ at most in rows under the owner's keys for these contents. -/
def Store.DifferWithin (s s' : Store) (owner : String) (names : ContentHash → Prop) : Prop :=
  ∀ r, (∀ hash, names hash → r.storageId ≠ storageId owner hash) → (r ∈ s'.rows ↔ r ∈ s.rows)

section Reach

variable {used : Set (String × ContentHash)} {e : Surroundings} {s s' t : Store} {owner : String}
  {names : ContentHash → Prop} {hash : ContentHash} {caller : Caller}

namespace Store

theorem DifferWithin.refl (s : Store) (owner : String) (names : ContentHash → Prop) :
    s.DifferWithin s owner names :=
  fun _ _ => Iff.rfl

theorem DifferAt.within {key : String} (differ : s.DifferAt s' key) (named : names hash)
    (hasKey : key = storageId owner hash) : s.DifferWithin s' owner names := by
  intro r apart
  refine differ r ?_
  rw [hasKey]
  exact apart hash named

theorem DifferWithin.trans (first : s.DifferWithin t owner names)
    (later : t.DifferWithin s' owner names) : s.DifferWithin s' owner names :=
  fun r apart => (later r apart).trans (first r apart)

/-- Stores that differ in one owner's keys have the rows of all other owners in common. -/
theorem DifferWithin.mem_of_foreign (differ : s.DifferWithin s' owner names)
    (free : CollisionFree used) (within : ∀ hash, names hash → (owner, hash) ∈ used)
    (before : s.WellFormed used) (after : s'.WellFormed used) {r : Record}
    (foreign : r.owner ≠ owner) : r ∈ s'.rows ↔ r ∈ s.rows := by
  -- A row under one of the keys would be the owner's, in whichever store it stood.
  by_cases apart : ∀ hash, names hash → r.storageId ≠ storageId owner hash
  · exact differ r apart
  · push Not at apart
    obtain ⟨hash, named, hasKey⟩ := apart
    have mem := within hash named
    constructor
    · intro row
      exact absurd (after.of_key free mem row hasKey).1 foreign
    · intro row
      exact absurd (before.of_key free mem row hasKey).1 foreign

end Store

/-! ### One action -/

/-- What an action can do, it does to rows under the keys that it names. -/
theorem Effect.reaches (effect : Effect e s owner names s') : s.DifferWithin s' owner names := by
  cases effect with
  | nothing => exact .refl s owner names
  | renamed named _ drafted => exact Store.differAt_put.within named drafted.key
  | sized named drafted => exact Store.differAt_put.within named drafted.key
  | linked named drafted => exact Store.differAt_put.within named drafted.key
  | @moved hash newHash d named newNamed _ drafted =>
      have written : s.DifferWithin (s.put d e.now) owner names :=
        Store.differAt_put.within newNamed drafted.key
      exact written.trans (Store.differAt_markGarbage.within named rfl)
  | doubled _ newNamed _ drafted => exact Store.differAt_put.within newNamed drafted.key
  | erased named => exact Store.differAt_markGarbage.within named rfl

/-- Resolving that is not asked for a new link writes nothing. -/
theorem Resolves.eq_of_not_autoLink {given : Option String} {r : Resolution}
    (resolves : Resolves e s owner hash false given r s') : s' = s := by
  cases resolves with
  | backed => rfl
  | link => rfl
  | linked asked => cases asked

theorem Action.after_fetch_of_not_autoLink (text : String) (caller : Caller) (e : Surroundings)
    (s : Store) : (Action.fetch text false).after caller e s = s := by
  have ends := (Action.fetch text false).ends caller e s
  generalize (Action.fetch text false).after caller e s = s' at ends
  cases ends with
  | unchanged => rfl
  | awarded awards =>
      cases awards with
      | fetched _ fetches =>
          cases fetches with
          | resolved resolves => exact resolves.eq_of_not_autoLink
          | waiting => rfl
  | denied _ resolves => exact resolves.eq_of_not_autoLink

theorem Action.after_list (q : ListRequest) (caller : Caller) (e : Surroundings) (s : Store) :
    (Action.list q).after caller e s = s := by
  have ends := (Action.list q).ends caller e s
  generalize (Action.list q).after caller e s = s' at ends
  cases ends with
  | unchanged => rfl
  | awarded awards => cases awards

/-- **Owners are apart from each other.** In every reachable store, whatever an action is asked and
whatever it meets, a row of another owner is there afterwards exactly if the same row, field for
field, was there before; and so is a row of the caller's own that does not stand under the key of a
content that the action names. A listing, and a fetch that is not to link, leave the whole store as
it is. -/
theorem rows_out_of_reach_kept (free : CollisionFree used) (reachable : Reachable used s) :
    (∀ (e : Surroundings) (caller : Caller) (a : Action), a.Within caller used →
      let s' := a.after caller e s
      (∀ r, r.owner ≠ caller.owner → (r ∈ s'.rows ↔ r ∈ s.rows)) ∧
        ∀ r, r.owner = caller.owner →
          (∀ hash, a.Names hash → r.storageId ≠ storageId caller.owner hash) →
          (r ∈ s'.rows ↔ r ∈ s.rows)) ∧
    ∀ (e : Surroundings) (caller : Caller),
      (∀ text, (Action.fetch text false).after caller e s = s) ∧
        ∀ q, (Action.list q).after caller e s = s := by
  have wellFormed := reachable.wellFormed free
  constructor
  · intro e caller a within s'
    have effect := Action.effect (e := e) wellFormed free within
    have after := effect.wellFormed wellFormed within
    constructor
    · intro r foreign
      exact effect.reaches.mem_of_foreign free within wellFormed after foreign
    · intro r _ apart
      exact effect.reaches r apart
  · intro e caller
    constructor
    · intro text
      exact Action.after_fetch_of_not_autoLink text caller e s
    · intro q
      exact Action.after_list q caller e s

end Reach

theorem rows_out_of_reach_kept_linking :
    let s := (Action.register ContentHash.zeros.hex .empty false).after .ann (.calm .empty) .empty
    ∃ r ∈ s.rows, r.owner = "ann" ∧
      r ∈ ((Action.register ContentHash.zeros.hex .empty true).after .bob .stocked s).rows := by
  intro s
  obtain ⟨r, row, owned⟩ : ∃ r ∈ s.rows, r.owner = "ann" := by
    dsimp only [s]
    rw [after_first .empty rfl]
    exact ⟨_, List.mem_cons_self, rfl⟩
  have reachable : Reachable {("ann", .zeros), ("bob", .zeros)} s :=
    .act .empty trivial (Action.within_of_texts [.zeros] rfl (by simp [Caller.ann]))
  have within : (Action.register ContentHash.zeros.hex .empty true).Within .bob
      {("ann", .zeros), ("bob", .zeros)} :=
    Action.within_of_texts [.zeros] rfl (by simp [Caller.bob])
  have foreign : r.owner ≠ Caller.bob.owner := by
    rw [owned]
    decide
  have kept := ((rows_out_of_reach_kept collisionFree_zeros reachable).1 .stocked .bob _ within).1
  exact ⟨r, row, owned, (kept r foreign).mpr row⟩

end ContentStore
