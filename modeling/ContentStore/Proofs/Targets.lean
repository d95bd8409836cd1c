import ContentStore.Backend.Gateway

/-!
# Targets of plain URLs

Reading a URL drops blanks, resolves points and encodes characters. None of this touches a path of
plain segments: behind a site, it is asked for letter by letter as it stands in the URL
(`Url.targetOn?_joined`). So slashes at the end of a base URL are the only part of it that is lost,
and that happens before a path is put behind it (`Gateway.base_create`).
-/

namespace ContentStore

namespace Url

/-- What may stand in front of a path: a scheme, a host and a port have no blanks or controls in
them and do not end in a slash. -/
structure IsSite (site : String) : Prop where
  visible : ∀ c ∈ site.toList, 0x20 < c.toNat
  bare : site.toList.getLast? ≠ some '/'

instance (site : String) : Decidable (IsSite site) :=
  -- Going through the list, and not through all characters that there are.
  decidable_of_iff ((site.toList.all fun c => decide (0x20 < c.toNat)) ∧
      site.toList.getLast? ≠ some '/') <| by
    simp only [List.all_eq_true, decide_eq_true_eq]
    exact ⟨fun ⟨visible, bare⟩ => ⟨visible, bare⟩, fun isSite => ⟨isSite.visible, isSite.bare⟩⟩

/-- A part of a path between slashes that is read as it is written. -/
structure IsPlainSegment (segment : List Char) : Prop where
  kept : ∀ c ∈ segment, encodedInPath c = false ∧ c ≠ '/' ∧ c ≠ '\\'
  noPoint : isPoint segment = false
  noDoublePoint : isDoublePoint segment = false

instance (segment : List Char) : Decidable (IsPlainSegment segment) :=
  decidable_of_iff ((segment.all fun c => decide (encodedInPath c = false ∧ c ≠ '/' ∧ c ≠ '\\')) ∧
      isPoint segment = false ∧ isDoublePoint segment = false) <| by
    simp only [List.all_eq_true, decide_eq_true_eq]
    exact ⟨fun ⟨kept, noPoint, noDoublePoint⟩ => ⟨kept, noPoint, noDoublePoint⟩,
      fun plain => ⟨plain.kept, plain.noPoint, plain.noDoublePoint⟩⟩

/-- The segments, each behind a slash. -/
def joined (segments : List (List Char)) : List Char :=
  segments.flatMap ('/' :: ·)

/-- A path of plain segments that may stand in a base URL: it is empty, or it starts with a slash,
and it does not end in one. -/
def IsPlainPath (path : String) : Prop :=
  ∃ segments, (∀ segment ∈ segments, IsPlainSegment segment) ∧ path.toList = joined segments ∧
    path.toList.getLast? ≠ some '/'

/-! ### Reading a URL -/

section Reading

variable {c : Char} {cs : List Char} {segments : List (List Char)}

theorem visible_of_not_encodedInPath (kept : encodedInPath c = false) : 0x20 < c.toNat := by
  simp only [encodedInPath, Bool.or_eq_false_iff, decide_eq_false_iff_not] at kept
  omega

theorem mem_joined (mem : c ∈ joined segments) : c = '/' ∨ ∃ segment ∈ segments, c ∈ segment := by
  obtain ⟨segment, among, mem⟩ := List.mem_flatMap.mp mem
  rcases List.mem_cons.mp mem with slash | mem
  · exact .inl slash
  · exact .inr ⟨segment, among, mem⟩

/-- Nothing in a plain path is encoded. -/
theorem not_encodedInPath_of_mem_joined (plain : ∀ segment ∈ segments, IsPlainSegment segment)
    (mem : c ∈ joined segments) : encodedInPath c = false := by
  rcases mem_joined mem with rfl | ⟨segment, among, mem⟩
  · decide
  · exact ((plain segment among).kept c mem).1

theorem cleaned_of_visible (visible : ∀ c ∈ cs, 0x20 < c.toNat) : cleaned cs = cs := by
  have ends : ∀ c, cs.getLast? = some c → decide (c.toNat ≤ 0x20) = false := fun c last =>
    decide_eq_false (Nat.not_le.mpr (visible c (List.mem_of_getLast? last)))
  rw [cleaned, Text.dropWhile_reverse_of_getLast? ends, List.reverse_reverse]
  refine List.filter_eq_self.mpr fun c mem => ?_
  have seen := visible c mem
  have other (blank : Char) (low : blank.toNat ≤ 0x20) : c ≠ blank := by
    rintro rfl
    omega
  simp [other '\t' (by decide), other '\n' (by decide), other '\x0d' (by decide)]

theorem percentEncode_of_kept {isEncoded : Char → Bool} (kept : ∀ c ∈ cs, isEncoded c = false) :
    percentEncode isEncoded cs = cs := by
  induction cs with
  | nil => rfl
  | cons c cs ih =>
      obtain ⟨keptFirst, keptRest⟩ := List.forall_mem_cons.mp kept
      have rest := ih keptRest
      rw [percentEncode] at rest ⊢
      rw [List.flatMap_cons, rest, keptFirst]
      rfl

/-- Segments without points are left as they are. -/
theorem resolvePoints_of_plain (done : List (List Char))
    (plain : ∀ segment ∈ segments, IsPlainSegment segment) :
    resolvePoints done segments = done.reverse ++ segments := by
  induction segments generalizing done with
  | nil => rw [resolvePoints, List.append_nil]
  | cons segment rest ih =>
      obtain ⟨first, later⟩ := List.forall_mem_cons.mp plain
      cases rest with
      | nil => simp [resolvePoints, first.noPoint, first.noDoublePoint]
      | cons next rest =>
          rw [resolvePoints, first.noDoublePoint, first.noPoint, if_neg Bool.false_ne_true,
            if_neg Bool.false_ne_true, ih _ later]
          · simp
          · simp

/-- Cutting a path at its slashes gives its segments back. -/
theorem pieces_joined (segment : List Char)
    (plain : ∀ s ∈ segment :: segments, IsPlainSegment s) :
    Text.pieces (fun c => c = '/' || c = '\\') (segment ++ joined segments) =
      segment :: segments := by
  have whole {s : List Char} (isPlain : IsPlainSegment s) :
      Text.pieces (fun c => c = '/' || c = '\\') s = [s] :=
    Text.pieces_of_plain fun c mem => by simp [(isPlain.kept c mem).2]
  induction segments generalizing segment with
  | nil => rw [joined, List.flatMap_nil, List.append_nil, whole (plain _ List.mem_cons_self)]
  | cons next rest ih =>
      obtain ⟨first, later⟩ := List.forall_mem_cons.mp plain
      rw [joined, List.flatMap_cons, List.cons_append, Text.pieces_append (by decide), whole first]
      exact congrArg _ (ih next later)

theorem requestPath_joined (plain : ∀ segment ∈ segments, IsPlainSegment segment)
    (nonempty : segments ≠ []) : requestPath (joined segments) = joined segments := by
  obtain ⟨segment, rest, rfl⟩ := List.exists_cons_of_ne_nil nonempty
  have cut : (joined (segment :: rest)).drop 1 = segment ++ joined rest := rfl
  rw [requestPath, cut, pieces_joined segment plain, resolvePoints_of_plain [] plain]
  refine congrArg List.flatten (List.map_congr_left fun s mem => ?_)
  rw [percentEncode_of_kept fun c mem' => ((plain s mem).kept c mem').1]

theorem requestTarget_joined (plain : ∀ segment ∈ segments, IsPlainSegment segment)
    (nonempty : segments ≠ []) : requestTarget (joined segments) = joined segments := by
  have without (mark : Char) (encoded : encodedInPath mark = true) :
      ∀ c ∈ joined segments, decide (c = mark) = false := by
    intro c mem
    have kept := not_encodedInPath_of_mem_joined plain mem
    refine decide_eq_false ?_
    rintro rfl
    exact Bool.false_ne_true (kept.symm.trans encoded)
  rw [requestTarget, Text.cutAt_of_plain (without '#' (by decide))]
  dsimp only
  rw [Text.cutAt_of_plain (without '?' (by decide)), requestPath_joined plain nonempty]
  exact List.append_nil _

/-- A path of plain segments is asked for as it stands in the URL. -/
theorem targetOn?_joined {site : String} (isSite : IsSite site)
    (plain : ∀ segment ∈ segments, IsPlainSegment segment) (nonempty : segments ≠ []) :
    targetOn? site (site ++ String.ofList (joined segments)) =
      some (String.ofList (joined segments)) := by
  have visible : ∀ c ∈ site.toList ++ joined segments, 0x20 < c.toNat := by
    intro c mem
    rcases List.mem_append.mp mem with mem | mem
    · exact isSite.visible c mem
    · exact visible_of_not_encodedInPath (not_encodedInPath_of_mem_joined plain mem)
  have behind : (site.toList ++ joined segments).drop site.length = joined segments :=
    List.drop_left
  have starts : ∃ rest, joined segments = '/' :: rest := by
    obtain ⟨segment, rest, rfl⟩ := List.exists_cons_of_ne_nil nonempty
    exact ⟨segment ++ joined rest, rfl⟩
  rw [targetOn?, String.toList_append, String.toList_ofList, cleaned_of_visible visible,
    if_pos (by simp), behind]
  dsimp only
  rw [requestTarget_joined plain nonempty]
  obtain ⟨rest, starts⟩ := starts
  rw [starts]
  exact if_pos (.inl rfl)

end Reading
end Url

/-- The base URL of a gateway is the configured one without the slashes at its end. -/
theorem Gateway.base_create {site front : String} (isSite : Url.IsSite site)
    (plain : Url.IsPlainPath front) (slashes : Nat) (reply : String → Reply) :
    (create site (site ++ front ++ String.ofList (List.replicate slashes '/')) reply).base =
      site ++ front := by
  refine Text.dropAtEnd_append_replicate ?_ slashes
  obtain ⟨-, -, -, bare⟩ := plain
  rw [String.toList_append, List.getLast?_append]
  cases ends : front.toList.getLast? with
  | none => simpa using isSite.bare
  | some c => simpa [ends] using bare

end ContentStore
