import ContentStore.Proofs.Chronology
import ContentStore.Proofs.Precedence

/-!
# Candidates from the oldest to the newest

The candidates for a link are sorted by texts: the one that their time of creation is kept as, and
their storage id. `Record.ageOrder` is the order that is meant, by the time itself. On rows of the
years 0 to 9999 the two are one order (`Store.candidateOrder_eq_ageOrder`), so that the first
candidate is the oldest one (`candidates_oldest_first`).
-/

namespace ContentStore

/-- Older first, and by storage id what was created at one time. -/
def Record.ageOrder (a b : Record) : Bool :=
  if a.createdAt = b.createdAt then a.storageId ≤ b.storageId else a.createdAt.le b.createdAt

/-- A live row of another owner that owns bytes with the hash. -/
structure Record.IsCandidate (r : Record) (sha256 notOwner : String) : Prop where
  content : r.sha256 = sha256
  foreign : r.owner ≠ notOwner
  live : r.garbage = false
  own : r.isLink = false

instance (r : Record) (sha256 notOwner : String) : Decidable (r.IsCandidate sha256 notOwner) :=
  decidable_of_iff
    (r.sha256 = sha256 ∧ r.owner ≠ notOwner ∧ r.garbage = false ∧ r.isLink = false)
    ⟨fun ⟨content, foreign, live, own⟩ => ⟨content, foreign, live, own⟩,
      fun ⟨content, foreign, live, own⟩ => ⟨content, foreign, live, own⟩⟩

/-- All candidates, each as often as it stands in the store, from the oldest to the newest. -/
structure Store.OldestFirst (s : Store) (sha256 notOwner : String) (rows : List Record) : Prop where
  all : rows.Perm (s.rows.filter fun r => r.IsCandidate sha256 notOwner)
  ordered : rows.Pairwise fun a b => a.ageOrder b = true

section Candidates

variable {e : Surroundings} {s : Store} {sha256 notOwner : String} {n : Journal} {a b : Record}
  {rows rows' : List Record}

theorem Record.storageId_eq_of_ageOrder (before : a.ageOrder b = true)
    (after : b.ageOrder a = true) : a.storageId = b.storageId := by
  by_cases same : a.createdAt = b.createdAt
  · rw [ageOrder, if_pos same, decide_eq_true_eq] at before
    rw [ageOrder, if_pos same.symm, decide_eq_true_eq] at after
    exact String.le_antisymm before after
  · rw [ageOrder, if_neg same] at before
    rw [ageOrder, if_neg (Ne.symm same)] at after
    rw [(Time.Instant.le_iff_of_ne same).mp before] at after
    cases after

namespace Store

/-- The order of the texts is that of age. -/
theorem candidateOrder_eq_ageOrder (plain : a.createdAt.IsPlain) (plain' : b.createdAt.IsPlain) :
    candidateOrder a b = a.ageOrder b := by
  unfold candidateOrder Record.ageOrder
  by_cases same : a.createdAt = b.createdAt
  · simp [same]
  · have apart : a.createdAt.storedText ≠ b.createdAt.storedText :=
      mt (Time.Instant.storedText_inj plain plain') same
    have texts : a.createdAt.storedText < b.createdAt.storedText ↔
        a.createdAt.le b.createdAt = true := by
      rw [← Time.Instant.storedText_le_iff plain plain', lt_iff_le_and_ne, and_iff_left apart]
    simp [same, apart, texts]

theorem oldestFirst_candidates (plain : ∀ r ∈ s.rows, r.createdAt.IsPlain) :
    s.OldestFirst sha256 notOwner (s.candidates sha256 notOwner) where
  all := by
    refine (List.mergeSort_perm _ _).trans (.of_eq (List.filter_congr fun r _ => ?_))
    rw [Bool.eq_iff_iff, decide_eq_true_eq]
    simp only [Bool.and_eq_true, decide_eq_true_eq, Bool.not_eq_true']
    exact ⟨fun ⟨⟨⟨content, foreign⟩, live⟩, own⟩ => ⟨content, foreign, live, own⟩,
      fun ⟨content, foreign, live, own⟩ => ⟨⟨⟨content, foreign⟩, live⟩, own⟩⟩
  ordered := by
    refine (s.candidates_sorted sha256 notOwner).imp_of_mem fun {a b} memA memB before => ?_
    have plainA := plain a (mem_candidates_iff.mp memA).1
    have plainB := plain b (mem_candidates_iff.mp memB).1
    rw [← candidateOrder_eq_ageOrder plainA plainB]
    exact candidateOrder_iff.mpr before

/-- Where no two rows have the same key, there is one such order. -/
theorem OldestFirst.unique (oldestFirst : s.OldestFirst sha256 notOwner rows)
    (oldestFirst' : s.OldestFirst sha256 notOwner rows') (distinct : s.Distinct) :
    rows = rows' := by
  have row {r : Record} (mem : r ∈ rows) : r ∈ s.rows :=
    List.mem_of_mem_filter (oldestFirst.all.mem_iff.mp mem)
  have perm := oldestFirst.all.trans oldestFirst'.all.symm
  refine perm.eq_of_pairwise (fun a b memA memB before after => ?_) oldestFirst.ordered
    oldestFirst'.ordered
  exact distinct.eq_of_key (row memA) (row (perm.mem_iff.mpr memB))
    (Record.storageId_eq_of_ageOrder before after)

end Store

/-- **Candidates come oldest first.** Whatever rows a store has, if they were created in the years 0
to 9999, asking for candidates is answered with the live rows of other owners that own bytes with
the hash, ordered by the time of creation and then by storage id. Where no two rows have the same
key, that is one list only. -/
theorem candidates_oldest_first (notOwner : String) (plain : ∀ r ∈ s.rows, r.createdAt.IsPlain)
    (carries : e.Carries n.calls (.candidates sha256)) :
    ∃ rows, Operation.candidates sha256 notOwner e ⟨s, n⟩ = (.ok rows, ⟨s, n.calling 1⟩) ∧
      s.OldestFirst sha256 notOwner rows ∧
      (s.Distinct → ∀ rows', s.OldestFirst sha256 notOwner rows' → rows' = rows) := by
  have oldestFirst : s.OldestFirst sha256 notOwner (s.candidates sha256 notOwner) :=
    Store.oldestFirst_candidates plain
  refine ⟨s.candidates sha256 notOwner, ?_, oldestFirst, ?_⟩
  · rcases Operation.query_run e s n (c := .candidates sha256) rfl
      (fun _ s => .ok (s.candidates sha256 notOwner, s)) with ⟨-, ran⟩ | ⟨hit, -⟩
    · exact ran
    · exact absurd carries hit
  · intro distinct rows' oldestFirst'
    exact oldestFirst'.unique oldestFirst distinct

end Candidates

/-- The row under a key that an owner created at some time for the hash of zeros. -/
def Record.createdBy (owner key : String) (now : Time.Instant) : Record :=
  Draft.fresh ⟨key, owner, ContentHash.zeros.hex, "", 0, "", ""⟩ (Uuid.numbered 0) now

/-- Rows that stand in no order: two of one time, with a fraction of 3 digits, others with 6 and 9,
a leap second and the minutes around it, and a row of Bob's. -/
def Store.scattered : Store :=
  ⟨[.createdBy "fay" "k8" ⟨60, 0⟩, .createdBy "eve" "k7" ⟨59, 1500000000⟩,
    .createdBy "cid" "k4" ⟨0, 500000001⟩, .createdBy "dan" "k5" ⟨0, 500001000⟩,
    .createdBy "bob" "k1" ⟨0, 0⟩, .createdBy "cid" "k3" ⟨0, 500000000⟩,
    .createdBy "dan" "k6" ⟨59, 0⟩, .createdBy "ann" "k2" ⟨0, 500000000⟩], [], 0⟩

theorem candidates_oldest_first_scattered :
    Operation.candidates ContentHash.zeros.hex "bob" (.calm .empty) ⟨.scattered, 0⟩ =
      (.ok [.createdBy "ann" "k2" ⟨0, 500000000⟩, .createdBy "cid" "k3" ⟨0, 500000000⟩,
          .createdBy "cid" "k4" ⟨0, 500000001⟩, .createdBy "dan" "k5" ⟨0, 500001000⟩,
          .createdBy "dan" "k6" ⟨59, 0⟩, .createdBy "eve" "k7" ⟨59, 1500000000⟩,
          .createdBy "fay" "k8" ⟨60, 0⟩],
        ⟨.scattered, .calling 0 1⟩) := by
  have plain : ∀ r ∈ Store.scattered.rows, r.createdAt.IsPlain := by decide
  have carries : (Surroundings.calm .empty).Carries (0 : Journal).calls
      (.candidates ContentHash.zeros.hex) :=
    ⟨rfl, fun _ => rfl⟩
  have distinct : Store.scattered.Distinct := by
    unfold Store.Distinct
    decide
  obtain ⟨rows, ran, -, only⟩ := candidates_oldest_first "bob" plain carries
  rw [ran, ← only distinct _ ⟨?_, ?_⟩]
  · decide
  · decide

end ContentStore
