/-!
# Pieces of text

Splitting a list of characters at every mark, and at the first one.
-/

namespace ContentStore.Text

/-- The pieces between marks; a text without marks is one piece. -/
def pieces (isMark : Char → Bool) : List Char → List (List Char)
  | [] => [[]]
  | c :: rest =>
    if isMark c then [] :: pieces isMark rest
    else
      match pieces isMark rest with
      | [] => [[c]]
      | p :: ps => (c :: p) :: ps

/-- What stands before the first mark, and what stands after it, if there is one. -/
def cutAt (isMark : Char → Bool) : List Char → List Char × Option (List Char)
  | [] => ([], none)
  | c :: rest =>
    if isMark c then ([], some rest)
    else (c :: (cutAt isMark rest).1, (cutAt isMark rest).2)

/-- The text without the given mark at its end, however often it stands there. -/
def dropAtEnd (mark : Char) (s : String) : String :=
  String.ofList (s.toList.reverse.dropWhile (· = mark)).reverse

/-- There is at least one piece. -/
theorem pieces_ne_nil (isMark : Char → Bool) (cs : List Char) : pieces isMark cs ≠ [] := by
  cases cs with
  | nil => simp [pieces]
  | cons c rest =>
    simp only [pieces]
    split
    · simp
    · split <;> simp

theorem pieces_append {isMark : Char → Bool} {mark : Char} (marks : isMark mark = true)
    (front back : List Char) :
    pieces isMark (front ++ mark :: back) = pieces isMark front ++ pieces isMark back := by
  induction front with
  | nil =>
      rw [List.nil_append, pieces.eq_def isMark (mark :: back)]
      exact if_pos marks
  | cons c front ih =>
      rw [List.cons_append, pieces, pieces, ih]
      split
      · rfl
      · -- The first piece grows by one character; there is one, whatever stands in front.
        obtain ⟨first, others, split⟩ := List.exists_cons_of_ne_nil (pieces_ne_nil isMark front)
        rw [split]
        rfl

theorem pieces_of_plain {isMark : Char → Bool} {cs : List Char}
    (plain : ∀ c ∈ cs, isMark c = false) : pieces isMark cs = [cs] := by
  induction cs with
  | nil => rfl
  | cons c cs ih =>
      obtain ⟨plainFirst, plainRest⟩ := List.forall_mem_cons.mp plain
      rw [pieces, plainFirst, ih plainRest]
      rfl

theorem cutAt_append {isMark : Char → Bool} {front back : List Char} {mark : Char}
    (marks : isMark mark = true) (plain : ∀ c ∈ front, isMark c = false) :
    cutAt isMark (front ++ mark :: back) = (front, some back) := by
  induction front with
  | nil => rw [List.nil_append, cutAt, if_pos marks]
  | cons c front ih =>
      have plain' : ¬isMark c = true := by
        rw [plain c List.mem_cons_self]
        exact Bool.false_ne_true
      rw [List.cons_append, cutAt, if_neg plain',
        ih fun c' mem => plain c' (List.mem_cons_of_mem _ mem)]

theorem cutAt_of_plain {isMark : Char → Bool} {cs : List Char}
    (plain : ∀ c ∈ cs, isMark c = false) : cutAt isMark cs = (cs, none) := by
  induction cs with
  | nil => rfl
  | cons c cs ih =>
      rw [cutAt, plain c List.mem_cons_self, if_neg Bool.false_ne_true,
        ih fun c' mem => plain c' (List.mem_cons_of_mem _ mem)]

/-- Nothing is dropped at the end of a text that does not end in what is to be dropped. -/
theorem dropWhile_reverse_of_getLast? {isMark : Char → Bool} {cs : List Char}
    (ends : ∀ c, cs.getLast? = some c → isMark c = false) :
    cs.reverse.dropWhile isMark = cs.reverse := by
  cases backwards : cs.reverse with
  | nil => rfl
  | cons c rest =>
      have last : cs.getLast? = some c := by
        rw [← List.head?_reverse, backwards]
        rfl
      rw [List.dropWhile_cons_of_neg]
      simp [ends c last]

/-- Marks that are put behind a text are dropped again, and no others, if it ends in none. -/
theorem dropAtEnd_append_replicate {mark : Char} {s : String}
    (bare : s.toList.getLast? ≠ some mark) (n : Nat) :
    dropAtEnd mark (s ++ String.ofList (List.replicate n mark)) = s := by
  have ends : ∀ c, s.toList.getLast? = some c → decide (c = mark) = false := by
    intro c last
    refine decide_eq_false ?_
    rintro rfl
    exact bare last
  have marks : ∀ c ∈ List.replicate n mark, decide (c = mark) = true := fun c mem =>
    decide_eq_true (List.eq_of_mem_replicate mem)
  rw [dropAtEnd, String.toList_append, String.toList_ofList, List.reverse_append,
    List.reverse_replicate, List.dropWhile_append_of_pos marks, dropWhile_reverse_of_getLast? ends,
    List.reverse_reverse, String.ofList_toList]

end ContentStore.Text
