import ContentStore.Proofs.Alike
import ContentStore.Proofs.Encodings
import ContentStore.Proofs.FailedUpdates
import ContentStore.Proofs.Identity

/-!
# Scans

A scan asks for a page, hands the token of the page back for the next one, and so on until a page
has no token. Between two pages anything may happen to the store: rows are added, deleted and
revived, by the owner and by others.

What carries a scan through this is the order of the storage ids. A page has the first of the rows
that match, and the next one has rows beyond the last of them, so the pages of a scan lie one behind
the other, and a row that matches at every page is on the page that reaches up to it. The look-ahead
of one row tells whether anything lies beyond: a page without a token is the end.
-/

namespace ContentStore

/-- The storage id of the one row comes before that of the other. -/
def Record.Before (a b : Record) : Prop :=
  a.storageId < b.storageId

/-- The filter for what lies beyond a storage id. -/
def ListFilter.beyond (f : ListFilter) (id : String) : ListFilter :=
  { f with after := some id }

section Listings

variable {s t : Store} {owner : String} {f : ListFilter} {r r' : Record} {k : Nat}
  {rows rows' : List Record}

/-! ### Listings in order -/

namespace Record.Before

theorem trans {r'' : Record} (first : r.Before r') (later : r'.Before r'') : r.Before r'' :=
  String.lt_trans first later

theorem irrefl (r : Record) : ¬r.Before r :=
  String.lt_irrefl _

/-- Lists of rows in order that have the same members are the same. -/
theorem eq_of_mem_iff (sorted : rows.Pairwise Before) (sorted' : rows'.Pairwise Before)
    (same : ∀ r, r ∈ rows ↔ r ∈ rows') : rows = rows' := by
  have nodup : ∀ {l : List Record}, l.Pairwise Before → l.Nodup := by
    intro l sorted
    refine sorted.imp ?_
    rintro a _ before rfl
    exact irrefl a before
  have perm := (List.perm_ext_iff_of_nodup (nodup sorted) (nodup sorted')).mpr same
  refine perm.eq_of_pairwise (fun a b _ _ before after => ?_) sorted sorted'
  exact absurd (before.trans after) (irrefl a)

end Record.Before

namespace Store

theorem Distinct.matching_pairwise (distinct : s.Distinct) :
    (s.matching owner f).Pairwise Record.Before := by
  have nodup : (s.matching owner f).Nodup :=
    (List.mergeSort_perm _ _).nodup_iff.mpr ((List.Nodup.of_map _ distinct).filter _)
  refine (s.matching_sorted.and nodup).imp_of_mem fun memA memB ordered => ?_
  obtain ⟨notAfter, other⟩ := ordered
  simp only [listingOrder, decide_eq_true_eq] at notAfter
  refine String.not_le.mp fun notBefore => other ?_
  exact distinct.eq_of_key (mem_matching.mp memA).1 (mem_matching.mp memB).1
    (String.le_antisymm notAfter notBefore)

/-- Beyond a row that matches lie the rows that match and come after it, in any store. -/
theorem mem_matching_beyond (matched : r ∈ s.matching owner f) :
    r' ∈ t.matching owner (f.beyond r.storageId) ↔ r' ∈ t.matching owner f ∧ r.Before r' := by
  have admits : (f.beyond r.storageId).admits r' = true ↔ f.admits r' = true ∧ r.Before r' := by
    have reached := (mem_matching.mp matched).2.2.2
    simp only [ListFilter.admits, ListFilter.beyond, Bool.and_eq_true] at reached ⊢
    refine Iff.trans (and_congr_right fun _ => ?_) and_assoc.symm
    refine decide_eq_true_iff.trans (and_iff_right_of_imp fun before => ?_).symm
    cases start : f.after with
    | none => rfl
    | some after =>
        rw [start] at reached
        exact decide_eq_true (String.lt_trans (of_decide_eq_true reached.2) before)
  rw [mem_matching, mem_matching, admits]
  simp only [and_assoc]

/-- Beyond one of the rows that match lie the ones behind it. -/
theorem Distinct.matching_beyond (distinct : s.Distinct)
    (split : s.matching owner f = rows ++ r :: rows') :
    s.matching owner (f.beyond r.storageId) = rows' := by
  have sorted : (s.matching owner f).Pairwise Record.Before := distinct.matching_pairwise
  have matched : r ∈ s.matching owner f := by
    rw [split]
    exact List.mem_append_right _ List.mem_cons_self
  rw [split, List.pairwise_append, List.pairwise_cons] at sorted
  obtain ⟨-, ⟨behind, sorted'⟩, inFront⟩ := sorted
  refine Record.Before.eq_of_mem_iff distinct.matching_pairwise sorted' fun r' => ?_
  rw [mem_matching_beyond matched, split, List.mem_append, List.mem_cons]
  constructor
  · rintro ⟨front | rfl | back, before⟩
    · exact absurd (before.trans (inFront r' front r List.mem_cons_self)) (Record.Before.irrefl r)
    · exact absurd before (Record.Before.irrefl r')
    · exact back
  · exact fun back => ⟨.inr (.inr back), behind r' back⟩

end Store

/-! ### One page -/

/-- The page has all of these rows, or the first `k` of them and the last one's storage id for
going on. -/
inductive Page.Opens (k : Nat) : List Record → Page → Prop where
  | whole {rows : List Record} : rows.length ≤ k → Opens k rows ⟨rows, false, none⟩
  | part {front rest : List Record} {last : Record} :
      front.length + 1 = k → rest ≠ [] →
      Opens k (front ++ last :: rest) ⟨front ++ [last], true, some last.storageId⟩

/-- One row more than a page may have is enough to tell whether it is the end. -/
theorem Page.opens_ofRecords (rows : List Record) (positive : 1 ≤ k) :
    Opens k rows (ofRecords k (rows.take (k + 1))) := by
  unfold ofRecords
  by_cases small : rows.length ≤ k
  · rw [List.take_of_length_le (by omega), if_neg (by omega)]
    exact .whole small
  · obtain ⟨j, rfl⟩ : ∃ j, k = j + 1 := ⟨k - 1, by omega⟩
    have short : j < rows.length := by omega
    have longer : (rows.take (j + 1 + 1)).length > j + 1 := by
      rw [List.length_take]
      omega
    have kept : (rows.take (j + 1 + 1)).take (j + 1) = rows.take j ++ [rows[j]] := by
      rw [List.take_take, Nat.min_eq_left (by omega), List.take_concat_get' _ _ short]
    have split : rows = rows.take j ++ rows[j] :: rows.drop (j + 1) := by
      rw [← List.drop_eq_getElem_cons short, List.take_append_drop]
    rw [if_pos longer, kept]
    dsimp only
    rw [List.getLast?_concat, Option.map_some]
    have opens : Opens (j + 1) (rows.take j ++ rows[j] :: rows.drop (j + 1)) _ :=
      .part (by rw [List.length_take]; omega) (by rw [Ne, List.drop_eq_nil_iff]; omega)
    rwa [← split] at opens

/-! ### Scans -/

/-- One page call: the surroundings and the store that it meets, and the page that answers it. -/
structure Turn where
  surroundings : Surroundings
  store : Store
  page : Page

/-- The call of this turn, made for this request, has been answered. -/
def Turn.Answers (turn : Turn) (caller : Caller) (q : ListRequest) : Prop :=
  ((Action.list q).run caller turn.surroundings ⟨turn.store, 0⟩).1 = .ok turn.page

/-- The request for what lies beyond a token. -/
def ListRequest.onward (q : ListRequest) (token : String) : ListRequest :=
  { q with continuation := some token }

/-- The token of a page as it comes back: as it was, or by way of a URL. -/
def ComesBack (id token : String) : Prop :=
  token = id ∨ token = Http.decodeContinuation (Http.encodeContinuation id)

/-- The page calls of a scan so far. Each one meets a store to which some run leads from that of the
call before it, and hands back the token of the page before it. -/
inductive Scan (caller : Caller) : Store → ListRequest → List Turn → Prop where
  | start {s : Store} {q : ListRequest} {turn : Turn} :
      s.LeadsTo turn.store → turn.Answers caller q → Scan caller s q [turn]
  | onward {s : Store} {q : ListRequest} {turn : Turn} {id token : String} {turns : List Turn} :
      s.LeadsTo turn.store → turn.Answers caller q → turn.page.next = some id →
      ComesBack id token → Scan caller turn.store (q.onward token) turns →
      Scan caller s q (turn :: turns)

/-- The scan has come to a page without a token. -/
def Finished (turns : List Turn) : Prop :=
  ∃ turn, turns.getLast? = some turn ∧ turn.page.truncated = false

/-- The records on the pages, one page after the other. -/
def scanned (turns : List Turn) : List Record :=
  turns.flatMap (·.page.records)

/-- How many pages `n` rows take, of which a page has at most `k`; no rows take a page, too. -/
def pageCount (n k : Nat) : Nat :=
  max 1 ((n + k - 1) / k)

theorem one_le_pageCount (n k : Nat) : 1 ≤ pageCount n k :=
  le_max_left _ _

theorem pageCount_eq_one_iff {n k : Nat} (positive : 1 ≤ k) : pageCount n k = 1 ↔ n ≤ k := by
  have quotient : (n + k - 1) / k ≤ 1 ↔ n ≤ k := by
    rw [← Nat.lt_succ_iff, Nat.div_lt_iff_lt_mul positive]
    omega
  rw [← quotient, pageCount, max_eq_left_iff]

/-- One page more for the rows of one page more. -/
theorem pageCount_add {n k : Nat} (nonzero : 1 ≤ n) (positive : 1 ≤ k) :
    pageCount (k + n) k = pageCount n k + 1 := by
  have shifted : (k + n + k - 1) / k = (n + k - 1) / k + 1 := by
    rw [← Nat.add_div_right _ positive]
    congr 1
    omega
  have quotient : 1 ≤ (n + k - 1) / k := by
    rw [Nat.one_le_div_iff positive]
    omega
  rw [pageCount, pageCount, shifted, max_eq_right quotient, max_eq_right (by omega)]

/-! ### One turn -/

namespace ListRequest

variable {q : ListRequest} {token : String}

theorem limit_pos (q : ListRequest) : 1 ≤ q.limit :=
  le_max_left _ _

theorem limit_le (q : ListRequest) : q.limit ≤ maxPageSize :=
  max_le (by decide) (min_le_left _ _)

theorem effectiveFilter_onward (effective : q.effectiveFilter = .ok f) :
    (q.onward token).effectiveFilter = .ok (f.beyond token) := by
  cases given : q.filter.sha256 with
  | none =>
      simp only [effectiveFilter, given, onward] at effective ⊢
      cases effective
      rfl
  | some text =>
      simp only [effectiveFilter, given, onward] at effective ⊢
      cases required : ContentHash.require text with
      | error r =>
          rw [required] at effective
          cases effective
      | ok hash =>
          rw [required] at effective
          cases effective
          rfl

end ListRequest

theorem comesBack_iff {id token : String} : ComesBack id token ↔ token = id := by
  rw [ComesBack, Http.decodeContinuation_encodeContinuation, or_self]

variable {caller : Caller} {q : ListRequest} {turn : Turn} {turns : List Turn} {page : Page}
  {e : Surroundings}

theorem Store.list_limit (s : Store) (q : ListRequest) :
    s.list owner f (q.limit + 1) = (s.matching owner f).take (q.limit + 1) := by
  refine if_pos (le_trans (Nat.succ_le_succ q.limit_le) ?_)
  decide

/-- An answered page opens the listing that its request stands for. -/
theorem Turn.Answers.opens (answers : turn.Answers caller q)
    (effective : q.effectiveFilter = .ok f) :
    turn.page.Opens q.limit (turn.store.matching caller.owner f) := by
  have ensures : (Operation.listPage caller q).Ensures turn.surroundings turn.store
      (fun page _ => page.Opens q.limit (turn.store.matching caller.owner f)) fun _ _ => True := by
    refine Operation.ensures_listPage (fun filter effective' => ?_) fun _ => trivial
    rw [effective] at effective'
    cases effective'
    rw [Store.list_limit]
    exact Page.opens_ofRecords _ q.limit_pos
  exact ensures.answered answers

theorem Operation.listPage_run (effective : q.effectiveFilter = .ok f) (s : Store)
    (carries : e.Carries 0 (.listing caller.owner)) :
    listPage caller q e ⟨s, 0⟩ =
      (.ok (Page.ofRecords q.limit (s.list caller.owner f (q.limit + 1))), ⟨s, .calling 0 1⟩) := by
  rcases list_run e s 0 caller.owner f (q.limit + 1) with ⟨-, listed⟩ | ⟨hit, -⟩
  case inr => exact absurd carries hit
  rw [listPage, effective, ofExcept, bind_run, give]
  dsimp only
  rw [bind_run, listed]
  rfl

/-- A call that is carried out is answered. -/
theorem exists_answers (effective : q.effectiveFilter = .ok f) (s : Store)
    (carries : e.Carries 0 (.listing caller.owner)) :
    ∃ page, Turn.Answers ⟨e, s, page⟩ caller q :=
  ⟨_, congrArg Prod.fst (Operation.listPage_run effective s carries)⟩

namespace Page.Opens

theorem mem (opens : page.Opens k rows) (returned : r ∈ page.records) : r ∈ rows := by
  cases opens with
  | whole _ => exact returned
  | part _ _ =>
      rw [List.append_cons]
      exact List.mem_append_left _ returned

theorem length_le (opens : page.Opens k rows) : page.records.length ≤ k := by
  cases opens with
  | whole small => exact small
  | part full _ =>
      rw [List.length_append, List.length_singleton]
      exact full.le

theorem pairwise (opens : page.Opens k rows) (sorted : rows.Pairwise Record.Before) :
    page.records.Pairwise Record.Before := by
  cases opens with
  | whole _ => exact sorted
  | part _ _ =>
      rw [List.append_cons] at sorted
      exact (List.pairwise_append.mp sorted).1

theorem truncated_eq_false_iff (opens : page.Opens k rows) :
    page.truncated = false ↔ rows.length ≤ k := by
  cases opens with
  | whole small => exact iff_of_true rfl small
  | @part front rest last full more =>
      refine iff_of_false Bool.noConfusion ?_
      have nonzero := List.length_pos_iff.mpr more
      rw [List.length_append, List.length_cons]
      omega

theorem records_eq (opens : page.Opens k rows) (ends : page.truncated = false) :
    page.records = rows := by
  cases opens with
  | whole _ => rfl
  | part _ _ => cases ends

theorem exists_next (opens : page.Opens k rows) (more : page.truncated = true) :
    ∃ id, page.next = some id := by
  cases opens with
  | whole _ => cases more
  | part _ _ => exact ⟨_, rfl⟩

/-- A page with a token has the rows up to the one that the token names, and others are left. -/
theorem of_next {id : String} (opens : page.Opens k rows) (next : page.next = some id) :
    ∃ front last rest, rows = front ++ last :: rest ∧ page.records = front ++ [last] ∧
      front.length + 1 = k ∧ rest ≠ [] ∧ id = last.storageId := by
  cases opens with
  | whole _ => cases next
  | @part front rest last full more =>
      cases next
      exact ⟨front, last, rest, rfl, rfl, full, more, rfl⟩

end Page.Opens

/-- The page of this turn has the rows that match up to `last`, and others are left. -/
structure Turn.ReachesTo (turn : Turn) (owner : String) (f : ListFilter) (k : Nat)
    (front : List Record) (last : Record) (rest : List Record) : Prop where
  split : turn.store.matching owner f = front ++ last :: rest
  returned : turn.page.records = front ++ [last]
  full : front.length + 1 = k
  more : rest ≠ []

theorem Turn.ReachesTo.matched {front rest : List Record} {last : Record}
    (reaches : turn.ReachesTo owner f k front last rest) : last ∈ turn.store.matching owner f := by
  rw [reaches.split]
  exact List.mem_append_right _ List.mem_cons_self

/-- A page with a token reaches up to the row that the token stands for. -/
theorem Turn.Answers.reachesTo {id token : String} (answers : turn.Answers caller q)
    (effective : q.effectiveFilter = .ok f) (next : turn.page.next = some id)
    (back : ComesBack id token) :
    ∃ front last rest, turn.ReachesTo caller.owner f q.limit front last rest ∧
      token = last.storageId := by
  obtain ⟨front, last, rest, split, returned, full, more, named⟩ :=
    (answers.opens effective).of_next next
  exact ⟨front, last, rest, ⟨split, returned, full, more⟩, (comesBack_iff.mp back).trans named⟩

/-! ### What every scan has seen -/

theorem mem_scanned : r ∈ scanned turns ↔ ∃ turn ∈ turns, r ∈ turn.page.records :=
  List.mem_flatMap

namespace Scan

theorem wellFormed (scan : Scan caller s q turns) (wellFormed : s.WellFormed Set.univ) :
    ∀ turn ∈ turns, turn.store.WellFormed Set.univ := by
  induction scan with
  | start leads _ =>
      intro turn mem
      rw [List.mem_singleton.mp mem]
      exact leads.wellFormed wellFormed
  | onward leads _ _ _ _ ih =>
      intro turn mem
      rcases List.mem_cons.mp mem with rfl | later
      · exact leads.wellFormed wellFormed
      · exact ih (leads.wellFormed wellFormed) turn later

/-- No page of a scan is too long, and each has rows that match as the scan was asked for. -/
theorem returned_matching (scan : Scan caller s q turns) (effective : q.effectiveFilter = .ok f) :
    ∀ turn ∈ turns, turn.page.records.length ≤ q.limit ∧
      ∀ r ∈ turn.page.records, r ∈ turn.store.matching caller.owner f := by
  induction scan generalizing f with
  | start _ answers =>
      intro turn mem
      rw [List.mem_singleton.mp mem]
      have opens := answers.opens effective
      exact ⟨opens.length_le, fun r returned => opens.mem returned⟩
  | onward _ answers next back _ ih =>
      intro turn mem
      rcases List.mem_cons.mp mem with rfl | later
      · have opens := answers.opens effective
        exact ⟨opens.length_le, fun r returned => opens.mem returned⟩
      · -- From here on less is asked for: only what lies beyond the last row of this page.
        obtain ⟨front, last, rest, reaches, rfl⟩ := answers.reachesTo effective next back
        obtain ⟨small, all⟩ := ih (ListRequest.effectiveFilter_onward effective) turn later
        refine ⟨small, fun r returned => ?_⟩
        exact ((Store.mem_matching_beyond reaches.matched).mp (all r returned)).1

/-- Whatever a scan returns later lies behind what it has returned before. -/
theorem pairwise (scan : Scan caller s q turns) (effective : q.effectiveFilter = .ok f)
    (wellFormed : s.WellFormed Set.univ) : (scanned turns).Pairwise Record.Before := by
  induction scan generalizing f with
  | @start s q turn leads answers =>
      have distinct := (leads.wellFormed wellFormed).distinct
      rw [scanned, List.flatMap_singleton]
      exact (answers.opens effective).pairwise distinct.matching_pairwise
  | @onward s q turn id token turns leads answers next back scan ih =>
      obtain ⟨front, last, rest, reaches, rfl⟩ := answers.reachesTo effective next back
      have distinct := (leads.wellFormed wellFormed).distinct
      have effective' : (q.onward last.storageId).effectiveFilter =
          .ok (f.beyond last.storageId) := ListRequest.effectiveFilter_onward effective
      have page := (answers.opens effective).pairwise distinct.matching_pairwise
      rw [scanned, List.flatMap_cons, List.pairwise_append]
      refine ⟨page, ih effective' (leads.wellFormed wellFormed), fun r returned r' later => ?_⟩
      have beyond : last.Before r' := by
        obtain ⟨turn', mem, returned'⟩ := mem_scanned.mp later
        have matched := (scan.returned_matching effective' turn' mem).2 r' returned'
        exact ((Store.mem_matching_beyond reaches.matched).mp matched).2
      rw [reaches.returned] at returned page
      rcases List.mem_append.mp returned with front | isLast
      · have before := (List.pairwise_append.mp page).2.2 r front last (List.mem_singleton_self _)
        exact before.trans beyond
      · rw [List.mem_singleton.mp isLast]
        exact beyond

/-! ### Scans that have come to the end -/

theorem finished_cons (scan : Scan caller s q turns) :
    Finished (turn :: turns) ↔ Finished turns := by
  cases scan with
  | start => rw [Finished, Finished, List.getLast?_cons_cons]
  | onward => rw [Finished, Finished, List.getLast?_cons_cons]

/-- A row that matches at every page is on one of them once the scan is at the end. -/
theorem exists_scanned {id : String} (scan : Scan caller s q turns)
    (effective : q.effectiveFilter = .ok f) (wellFormed : s.WellFormed Set.univ)
    (finished : Finished turns)
    (present : ∀ turn ∈ turns, ∃ r ∈ turn.store.matching caller.owner f, r.storageId = id) :
    ∃ r ∈ scanned turns, r.storageId = id := by
  induction scan generalizing f with
  | @start s q turn leads answers =>
      obtain ⟨_, ⟨⟩, ends⟩ := finished
      obtain ⟨r, matched, hasId⟩ := present turn (List.mem_singleton_self _)
      refine ⟨r, mem_scanned.mpr ⟨turn, List.mem_singleton_self _, ?_⟩, hasId⟩
      rw [(answers.opens effective).records_eq ends]
      exact matched
  | @onward s q turn _ token turns leads answers next back scan ih =>
      obtain ⟨front, last, rest, reaches, rfl⟩ := answers.reachesTo effective next back
      obtain ⟨r, matched, hasId⟩ := present turn List.mem_cons_self
      have onPage : r ∈ turn.page.records → ∃ r ∈ scanned (turn :: turns), r.storageId = id :=
        fun returned => ⟨r, mem_scanned.mpr ⟨turn, List.mem_cons_self, returned⟩, hasId⟩
      have sorted : (turn.store.matching caller.owner f).Pairwise Record.Before :=
        (leads.wellFormed wellFormed).distinct.matching_pairwise
      rw [reaches.split] at matched sorted
      rw [reaches.returned] at onPage
      rcases List.mem_append.mp matched with inFront | notInFront
      · exact onPage (List.mem_append_left _ inFront)
      rcases List.mem_cons.mp notInFront with rfl | behind
      · exact onPage (List.mem_append_right _ List.mem_cons_self)
      · -- The row lies beyond this page, so it does so at every later one.
        have before : last.Before r :=
          (List.pairwise_cons.mp (List.pairwise_append.mp sorted).2.1).1 r behind
        obtain ⟨r', returned, hasId'⟩ := ih (ListRequest.effectiveFilter_onward effective)
          (leads.wellFormed wellFormed) (scan.finished_cons.mp finished) fun turn' later => by
            obtain ⟨r', matched', hasId'⟩ := present turn' (List.mem_cons_of_mem _ later)
            refine ⟨r', (Store.mem_matching_beyond reaches.matched).mpr ⟨matched', ?_⟩, hasId'⟩
            rw [Record.Before, hasId', ← hasId]
            exact before
        refine ⟨r', ?_, hasId'⟩
        rw [scanned, List.flatMap_cons]
        exact List.mem_append_right _ returned

/-! ### Scans of rows that stay the same -/

/-- Each page that is not the end takes as many of the rows as a page may have. -/
theorem length_le (scan : Scan caller s q turns) (effective : q.effectiveFilter = .ok f)
    (wellFormed : s.WellFormed Set.univ)
    (same : ∀ turn ∈ turns, turn.store.matching caller.owner f = rows) :
    turns.length ≤ pageCount rows.length q.limit ∧
      (Finished turns ↔ turns.length = pageCount rows.length q.limit) := by
  induction scan generalizing f rows with
  | @start s q turn leads answers =>
      have opens := answers.opens effective
      rw [same turn (List.mem_singleton_self _)] at opens
      have one : Finished [turn] ↔ turn.page.truncated = false := by
        rw [Finished, List.getLast?_singleton]
        simp
      rw [one, opens.truncated_eq_false_iff, ← pageCount_eq_one_iff q.limit_pos,
        List.length_singleton]
      exact ⟨one_le_pageCount _ _, eq_comm⟩
  | @onward s q turn _ token turns leads answers next back scan ih =>
      obtain ⟨front, last, rest, reaches, rfl⟩ := answers.reachesTo effective next back
      have split : rows = front ++ last :: rest := by
        rw [← same turn List.mem_cons_self, reaches.split]
      have counted : rows.length = q.limit + rest.length := by
        rw [split, List.length_append, List.length_cons, ← reaches.full]
        omega
      have more : 1 ≤ rest.length := List.length_pos_iff.mpr reaches.more
      have later : ∀ turn' ∈ turns,
          turn'.store.matching caller.owner (f.beyond last.storageId) = rest := by
        intro turn' mem
        have distinct := (scan.wellFormed (leads.wellFormed wellFormed) turn' mem).distinct
        refine distinct.matching_beyond ((same turn' (List.mem_cons_of_mem _ mem)).trans split)
      obtain ⟨most, reached⟩ := ih (ListRequest.effectiveFilter_onward effective)
        (leads.wellFormed wellFormed) later
      have sameLimit : (q.onward last.storageId).limit = q.limit := rfl
      rw [sameLimit] at most reached
      rw [counted, pageCount_add more q.limit_pos, List.length_cons, scan.finished_cons, reached]
      exact ⟨Nat.succ_le_succ most, Nat.succ_inj.symm⟩

/-- Over a store that stays the same, with every call carried out, a scan comes to the end. -/
theorem exists_finished (effective : q.effectiveFilter = .ok f) (leads : s.LeadsTo t)
    (distinct : t.Distinct) (carries : e.Carries 0 (.listing caller.owner)) :
    ∃ turns, Scan caller s q turns ∧ Finished turns ∧
      ∀ turn ∈ turns, turn.surroundings = e ∧ turn.store = t := by
  induction counted : (t.matching caller.owner f).length using Nat.strong_induction_on
    generalizing q f s with
  | _ count ih =>
  obtain ⟨page, answers⟩ := exists_answers effective t carries
  have opens := answers.opens effective
  cases ends : page.truncated with
  | false =>
      refine ⟨[⟨e, t, page⟩], .start leads answers, ⟨_, rfl, ends⟩, fun turn mem => ?_⟩
      rw [List.mem_singleton.mp mem]
      exact ⟨rfl, rfl⟩
  | true =>
      obtain ⟨id, next⟩ := opens.exists_next ends
      obtain ⟨front, last, rest, reaches, rfl⟩ := answers.reachesTo effective next (.inl rfl)
      have behind : t.matching caller.owner (f.beyond last.storageId) = rest :=
        distinct.matching_beyond reaches.split
      have fewer : rest.length < count := by
        rw [← counted, reaches.split, List.length_append, List.length_cons]
        omega
      obtain ⟨turns, scan, finished, there⟩ := ih _ fewer
        (ListRequest.effectiveFilter_onward effective) .here (congrArg List.length behind)
      refine ⟨⟨e, t, page⟩ :: turns, .onward leads answers next (.inl rfl) scan,
        scan.finished_cons.mpr finished, fun turn mem => ?_⟩
      rcases List.mem_cons.mp mem with rfl | later
      · exact ⟨rfl, rfl⟩
      · exact there turn later

/-- Where more rows match than a page may have, the scan goes on over whatever store a run leads to
before the second call, with the token as it comes back by way of a URL. -/
theorem exists_resumed {start : Store} (effective : q.effectiveFilter = .ok f)
    (leads : start.LeadsTo s) (changes : s.LeadsTo t) (distinct : t.Distinct)
    (carries : e.Carries 0 (.listing caller.owner))
    (many : q.limit < (s.matching caller.owner f).length) :
    ∃ page rest, Scan caller start q (⟨e, s, page⟩ :: rest) ∧ Finished (⟨e, s, page⟩ :: rest) ∧
      page.truncated = true ∧ rest ≠ [] ∧ ∀ turn ∈ rest, turn.store = t := by
  obtain ⟨page, answers⟩ := exists_answers effective s carries
  have opens : page.Opens q.limit (s.matching caller.owner f) := answers.opens effective
  have more : page.truncated = true := by
    rw [← Bool.not_eq_false, opens.truncated_eq_false_iff]
    exact Nat.not_le.mpr many
  obtain ⟨id, next⟩ := opens.exists_next more
  let token := Http.decodeContinuation (Http.encodeContinuation id)
  have resumed : (q.onward token).effectiveFilter = .ok (f.beyond token) :=
    ListRequest.effectiveFilter_onward effective
  obtain ⟨rest, scan, finished, there⟩ := exists_finished resumed changes distinct carries
  refine ⟨page, rest, .onward leads answers next (.inr rfl) scan, scan.finished_cons.mpr finished,
    more, ?_, fun turn mem => (there turn mem).2⟩
  rintro rfl
  cases scan

end Scan

end Listings

/-- **Scans neither lose nor repeat records.** Whatever is done between the page calls, the storage
ids that a scan returns grow from each to the next, no page has more records than it may have, and
each record returned is one of the caller's live rows that match as the store is at its call. Once
the scan has come to the end, a row that was live and matched at every call has been returned
exactly once. If the rows that match are the same at every call, then the scan is at the end exactly
after as many pages as they take; and over a store that stays the same, with every call carried out,
there is a scan that comes to the end. -/
theorem scans_complete (caller : Caller) (q : ListRequest) {f : ListFilter}
    (effective : q.effectiveFilter = .ok f) :
    (∀ turns, Scan caller .empty q turns →
      (scanned turns).Pairwise Record.Before ∧
      (∀ turn ∈ turns, turn.page.records.length ≤ q.limit ∧
        ∀ r ∈ turn.page.records, r ∈ turn.store.matching caller.owner f) ∧
      (Finished turns → ∀ id,
        (∀ turn ∈ turns, ∃ r ∈ turn.store.matching caller.owner f, r.storageId = id) →
          ((scanned turns).map (·.storageId)).count id = 1) ∧
      ∀ rows, (∀ turn ∈ turns, turn.store.matching caller.owner f = rows) →
        turns.length ≤ pageCount rows.length q.limit ∧
          (Finished turns ↔ turns.length = pageCount rows.length q.limit)) ∧
    ∀ e s, Store.empty.LeadsTo s → e.Carries 0 (.listing caller.owner) →
      ∃ turns, Scan caller .empty q turns ∧ Finished turns ∧
        ∀ turn ∈ turns, turn.surroundings = e ∧ turn.store = s := by
  refine ⟨fun turns scan => ?_, fun e s leads carries => ?_⟩
  · have sorted := scan.pairwise effective .empty
    refine ⟨sorted, scan.returned_matching effective, fun finished id present => ?_,
      fun rows same => scan.length_le effective .empty same⟩
    obtain ⟨r, returned, hasId⟩ := scan.exists_scanned effective .empty finished present
    refine List.count_eq_one_of_mem ?_ (List.mem_map.mpr ⟨r, returned, hasId⟩)
    refine List.pairwise_map.mpr (sorted.imp fun {a b} before same => ?_)
    rw [Record.Before, same] at before
    exact String.lt_irrefl _ before
  · exact Scan.exists_finished effective leads (leads.wellFormed .empty).distinct carries

/-- The hash of twos. -/
def ContentHash.twos : ContentHash :=
  ⟨List.replicate 32 2, List.length_replicate⟩

/-- Ann has records of two contents. -/
def Store.growing : Store :=
  (Action.register ContentHash.ones.hex .empty false).after .ann (.calm .empty) <|
    (Action.register ContentHash.zeros.hex .empty false).after .ann (.calm .empty) .empty

/-- One of her records has been deleted since, and one of other content has come up. -/
def Store.grown : Store :=
  (Action.register ContentHash.twos.hex .empty false).after .ann (.calm .empty) <|
    (Action.delete ContentHash.zeros.hex).after .ann (.calm .empty) .growing

set_option maxRecDepth 10000 in
/-- At first two records match, and one of them does all along. -/
theorem Store.growing_rows :
    (Store.growing.rows.filter fun r =>
      r.owner = Caller.ann.owner && !r.garbage && ListFilter.all.admits r).length = 2 ∧
    ∀ s ∈ [Store.growing, .grown], ∃ r ∈ s.rows, r.owner = Caller.ann.owner ∧ r.garbage = false ∧
      ListFilter.all.admits r = true ∧ r.storageId = storageId "ann" .ones := by
  decide +kernel

/-- A scan with one record to a page, over a store that changes after its first page. -/
theorem scans_complete_changing :
    ∃ page rest, Scan .ann .empty ⟨.all, none, some 1⟩ (⟨.calm .empty, .growing, page⟩ :: rest) ∧
      page.truncated = true ∧ rest ≠ [] ∧ (∀ turn ∈ rest, turn.store = .grown) ∧
      (scanned (⟨.calm .empty, .growing, page⟩ :: rest)).Pairwise Record.Before ∧
      ((scanned (⟨.calm .empty, .growing, page⟩ :: rest)).map (·.storageId)).count
        (storageId "ann" .ones) = 1 := by
  have effective : (ListRequest.mk .all none (some 1)).effectiveFilter = .ok .all := rfl
  have started : Store.empty.LeadsTo .growing := .act (.act .here)
  have changes : Store.growing.LeadsTo .grown := .act (.act .here)
  have distinct := (changes.wellFormed (started.wellFormed .empty)).distinct
  obtain ⟨two, present⟩ := Store.growing_rows
  have many : (ListRequest.mk .all none (some 1)).limit <
      (Store.growing.matching Caller.ann.owner .all).length := by
    rw [Store.matching, List.length_mergeSort, two]
    decide
  obtain ⟨page, rest, scan, finished, more, nonempty, later⟩ := Scan.exists_resumed
    (e := .calm .empty) effective started changes distinct ⟨rfl, fun _ => rfl⟩ many
  obtain ⟨sorted, -, once, -⟩ := (scans_complete .ann _ effective).1 _ scan
  refine ⟨page, rest, scan, more, nonempty, later, sorted, once finished _ fun turn mem => ?_⟩
  have met : turn.store ∈ [Store.growing, .grown] := by
    rcases List.mem_cons.mp mem with first | mem
    · rw [first]
      dsimp only
      exact List.mem_cons_self
    · rw [later turn mem]
      exact List.mem_cons_of_mem _ (List.mem_singleton_self _)
  obtain ⟨r, stands, owned, live, admitted, hasId⟩ := present turn.store met
  exact ⟨r, Store.mem_matching.mpr ⟨stands, owned, live, admitted⟩, hasId⟩

end ContentStore
