import ContentStore.Proofs.Grants
import ContentStore.Proofs.Precedence

/-!
# Resolving again

What resolving has found it finds again, whether or not it is to link and whatever name is given:
a new link is an ordinary link to the same bytes from then on (`resolution_converges`). The argument
is one lemma, `Resolves.existing?`. However the bytes were found, the owner's live row leads to them
afterwards, and a row that leads to bytes is found before anything else is looked at. For the same
reason the wish to link only shows where nothing is found without it.
-/

namespace ContentStore

/-- What was found, as it is found from then on. -/
def Resolution.settled : Resolution → Resolution
  | backed r => .backed r
  | link l t => .link l t
  | linked l t => .link l t

@[simp]
theorem Resolution.record_settled (r : Resolution) : r.settled.record = r.record := by
  cases r <;> rfl

@[simp]
theorem Resolution.realStorageId_settled (r : Resolution) :
    r.settled.realStorageId = r.realStorageId := by
  cases r <;> rfl

section Resolving

variable {used : Set (String × ContentHash)} {e : Surroundings} {s s' : Store} {owner : String}
  {hash : ContentHash} {autoLink : Bool} {given : Option String} {first : Resolution}

/-- Whatever resolving finds, the owner's live row leads there afterwards. -/
theorem Resolves.existing? (resolves : Resolves e s owner hash autoLink given first s')
    (wellFormed : s.WellFormed used) (free : CollisionFree used) (mem : (owner, hash) ∈ used) :
    ∃ row, s'.find? (storageId owner hash) = some row ∧
      e.existing? s' row = some first.settled := by
  cases resolves with
  | @backed row live own held =>
      exact ⟨row, live, by rw [e.existing?_own own, if_pos held]; rfl⟩
  | @link row target live isLink aims held =>
      exact ⟨row, live, by rw [e.existing?_link isLink aims, if_pos held]; rfl⟩
  | @linked target _ _ source =>
      obtain ⟨isLink, -, real, live, aim⟩ := wellFormed.linkTo free mem given e.now source
      obtain ⟨-, own, content, held, -⟩ := wellFormed.source free mem source
      have after : (s.put (s.linkTo owner hash given target) e.now).WellFormed used :=
        wellFormed.put mem (wellFormed.isFor_linkTo given source)
      obtain ⟨stands, hasKey, -⟩ := Store.find?_some live
      have digits := (after.of_key free mem stands hasKey).2
      rw [Record.realStorageId_of_isLink isLink] at real
      have aims := Store.target?_eq_some_iff.mpr ⟨real ▸ aim, own, content.trans digits.symm⟩
      exact ⟨_, live, by rw [e.existing?_link isLink aims, if_pos held]; rfl⟩

/-- Without the wish to link nothing is written. -/
theorem Resolves.eq_of_unasked (resolves : Resolves e s owner hash false given first s') :
    s' = s := by
  cases resolves with
  | backed => rfl
  | link => rfl
  | linked asked => cases asked

namespace Operation

/-- A search that ends in a find does not depend on what is done where it finds nothing. -/
theorem search_eq_of_found {x : Operation (Option Resolution)} {y z : Operation Resolution}
    {p : Progress} (never : ∀ p, (y e p).1 ≠ .ok first)
    (found : ((do match ← x with
      | some r => return r
      | none => y : Operation Resolution) e p).1 = .ok first) :
    (do match ← x with
      | some r => return r
      | none => z : Operation Resolution) e p =
    (do match ← x with
      | some r => return r
      | none => y : Operation Resolution) e p := by
  rw [bind_run] at found
  rw [bind_run, bind_run]
  cases ran : x e p with
  | mk result p' =>
      cases result with
      | error failure => rfl
      | ok here =>
          cases here with
          | some r => rfl
          | none =>
              rw [ran] at found
              exact absurd found (never p')

/-- Where resolving finds bytes without the wish to link, it takes the same steps with it. -/
theorem resolve_eq_of_unasked {given' : Option String} {p : Progress}
    (found : (resolve owner hash false given e p).1 = .ok first) :
    resolve owner hash true given' e p = resolve owner hash false given e p := by
  have never : ∀ existing p, ((if false = true then linkElsewhere owner hash given existing
      else refuse .noBytes : Operation Resolution) e p).1 ≠ .ok first := nofun
  unfold resolve at found ⊢
  rw [bind_run] at found
  rw [bind_run, bind_run]
  cases looked : find (storageId owner hash) e p with
  | mk result p' =>
      rw [looked] at found
      cases result with
      | error failure => rfl
      | ok existing =>
          cases existing with
          | none => exact search_eq_of_found (never none) found
          | some row => exact search_eq_of_found (never (some row)) found

end Operation

/-- **Resolving converges, and the wish to link only matters where there are no bytes.** Where
resolving finds bytes in a reachable store, with whatever outages, then resolving again, with the
same bytes present and every call carried out, finds the same record and the same bytes and writes
nothing, whatever name is given and whether or not it is to link; a link that was new is an old one
now. And where it finds bytes without the wish to link, it does the very same with it, and writes
nothing. -/
theorem resolution_converges (free : CollisionFree used) (reachable : Reachable used s)
    (mem : (owner, hash) ∈ used) (e : Surroundings) (n : Journal) (given : Option String) :
    (∀ autoLink first, (Operation.resolve owner hash autoLink given e ⟨s, n⟩).1 = .ok first →
      let s' := (Operation.resolve owner hash autoLink given e ⟨s, n⟩).2.store
      ∀ e' : Surroundings, e'.backend = e.backend → (∀ n c, e'.Carries n c) →
        ∀ autoLink' given' n', ∃ again k,
          Operation.resolve owner hash autoLink' given' e' ⟨s', n'⟩ = (.ok again, ⟨s', k⟩) ∧
          again = first.settled ∧ again.record = first.record ∧
          again.realStorageId = first.realStorageId) ∧
    ∀ first, (Operation.resolve owner hash false given e ⟨s, n⟩).1 = .ok first → ∀ given',
      Operation.resolve owner hash true given' e ⟨s, n⟩ =
          Operation.resolve owner hash false given e ⟨s, n⟩ ∧
        (Operation.resolve owner hash true given' e ⟨s, n⟩).2.store = s := by
  have wellFormed := reachable.wellFormed free
  have resolves : ∀ {autoLink first},
      (Operation.resolve owner hash autoLink given e ⟨s, n⟩).1 = .ok first →
      Resolves e s owner hash autoLink given first
        (Operation.resolve owner hash autoLink given e ⟨s, n⟩).2.store := by
    intro autoLink first found
    have ends : (Operation.resolve owner hash autoLink given).Ensures e s
        (Resolves e s owner hash autoLink given) fun _ _ => True :=
      Operation.ensures_resolve (fun _ _ resolves => resolves) fun _ _ => trivial
    exact ends.answered found
  constructor
  · intro autoLink first found s' e' sameFiles carries autoLink' given' n'
    obtain ⟨row, live, leads⟩ := (resolves found).existing? wellFormed free mem
    rw [← Surroundings.existing?_congr sameFiles] at leads
    have tells := Surroundings.tellsOf_of_existing? leads
    obtain ⟨k, ran⟩ := Operation.yields_resolve_found carries live tells leads n'
    exact ⟨_, k, ran, rfl, first.record_settled, first.realStorageId_settled⟩
  · intro first found given'
    have same : Operation.resolve owner hash true given' e ⟨s, n⟩ =
        Operation.resolve owner hash false given e ⟨s, n⟩ :=
      Operation.resolve_eq_of_unasked found
    exact ⟨same, by rw [same, (resolves found).eq_of_unasked]⟩

end Resolving

theorem resolution_converges_linking :
    let once := Operation.resolve "bob" .zeros true none .stocked ⟨.annAlone, 0⟩
    ∃ link again k, once.1 = .ok (.linked link .annsZeros) ∧
      Operation.resolve "bob" .zeros false (some "mine") .stocked ⟨once.2.store, 0⟩ =
        (.ok again, ⟨once.2.store, k⟩) ∧ again.record = link := by
  dsimp only
  have mem : ("bob", ContentHash.zeros) ∈ ({("ann", .zeros), ("bob", .zeros)} : Set _) :=
    Set.mem_insert_of_mem _ rfl
  have reachable : Reachable {("ann", .zeros), ("bob", .zeros)} .annAlone :=
    Store.reachable_annAlone (Set.mem_insert _ _)
  have found := (Operation.yields_resolve_of_precedence
    (reachable.wellFormed collisionFree_zeros) collisionFree_zeros mem
    Surroundings.faultless_stocked (by decide) Precedence.annAlone_linked).result 0
  obtain ⟨again, k, ran, -, same, -⟩ := (resolution_converges collisionFree_zeros
    reachable mem .stocked 0 none).1 true _ found .stocked rfl
    (fun _ _ => ⟨rfl, fun _ => rfl⟩) false (some "mine") 0
  refine ⟨_, again, k, found, ran, ?_⟩
  rw [same, Resolution.record]

end ContentStore
