import ContentStore.Proofs.Paging
import ContentStore.Proofs.Requests
import ContentStore.Proofs.Tokens
import Mathlib.Data.String.Basic

/-!
# Raw storage ids as continuation tokens

A listing goes on behind a token that was handed out, and a storage id may stand in the place of a
token. What is asked for is told apart by trying: a text that is the base64 of some text is a token,
and any other stands for itself. The digits of a storage id are digits of base64 as well, and there
are as many as 48 bytes take, so every storage id is the base64 of some bytes, and it is taken for a
token exactly if these bytes are UTF-8 (`decodeContinuation_eq_self_iff`).

What the query says otherwise does not matter: a token at the end of it is one more field, with the
characters that stand there (`ListQuery.parse?_continuing`).
-/

namespace ContentStore

open Http

/-! ### Fields at the end of a query -/

theorem Url.percentDecode_of_notMem {bytes : List UInt8} (plain : (37 : UInt8) ∉ bytes) :
    percentDecode bytes = bytes := by
  fun_induction percentDecode bytes with
  | case1 => rfl
  | case2 => exact absurd List.mem_cons_self plain
  | case3 => exact absurd List.mem_cons_self plain
  | case4 b rest _ ih => rw [ih fun mem => plain (List.mem_cons_of_mem _ mem)]

/-- ASCII is read as it is. -/
theorem Text.lossyChars_map_ascii {cs : List Char} (small : ∀ c ∈ cs, c.toNat < 128) :
    lossyChars none (cs.map Json.ascii) = cs := by
  induction cs with
  | nil => rfl
  | cons c cs ih =>
      obtain ⟨smallFirst, smallRest⟩ := List.forall_mem_cons.mp small
      have byte : (Json.ascii c).toNat = c.toNat := by
        rw [Json.ascii, UInt8.toNat_ofNat']
        omega
      have lead : Lead.ofByte (Json.ascii c) = .whole c := by
        simp only [Lead.ofByte, byte, if_pos smallFirst, Char.ofNat_toNat]
      rw [List.map_cons, lossyChars, lead]
      exact congrArg _ (ih smallRest)

theorem Text.spell_of_ascii {cs : List Char} (small : ∀ c ∈ cs, c.toNat < 128) :
    spell cs = cs.map Json.ascii := by
  rw [spell, List.map_eq_flatMap]
  exact List.flatMap_congr fun c mem => utf8EncodeChar_of_ascii (small c mem)

namespace Http

/-- The character stands for itself in a field of a query. -/
def IsPlain (c : Char) : Prop :=
  c.toNat < 128 ∧ c ≠ '+' ∧ c ≠ '%' ∧ c ≠ '&'

instance (c : Char) : Decidable (IsPlain c) :=
  inferInstanceAs (Decidable (_ ∧ _))

theorem decodeField_of_plain {cs : List Char} (plain : ∀ c ∈ cs, IsPlain c) :
    decodeField cs = String.ofList cs := by
  have small : ∀ c ∈ cs, c.toNat < 128 := fun c mem => (plain c mem).1
  have spaced : (cs.map fun c => if c = '+' then ' ' else c) = cs :=
    (List.map_congr_left fun c mem => if_neg (plain c mem).2.1).trans (List.map_id' cs)
  have noPercent : (37 : UInt8) ∉ cs.map Json.ascii := by
    intro mem
    obtain ⟨c, mem, same⟩ := List.mem_map.mp mem
    have code := congrArg UInt8.toNat same
    rw [Json.ascii, UInt8.toNat_ofNat'] at code
    have := small c mem
    refine (plain c mem).2.2.1 (Char.toNat_inj.mp ?_)
    change c.toNat = 37
    change c.toNat % 2 ^ 8 = 37 at code
    omega
  rw [decodeField, spaced, Text.utf8_ofList, Text.spell_of_ascii small,
    Url.percentDecode_of_notMem noPercent, Text.lossy, Text.lossyChars_map_ascii small]

/-- The name of the field for a token. -/
def tokenField : String := "continuation-token"

/-- A query with a token at its end. -/
def continuing (query token : String) : String :=
  query ++ "&" ++ tokenField ++ "=" ++ token

/-- A token at the end of a query is one more field. -/
theorem fields_continuing (query : String) {token : String}
    (plain : ∀ c ∈ token.toList, IsPlain c) :
    fields (continuing query token) = fields query ++ [(tokenField, token)] := by
  have chars : (continuing query token).toList =
      query.toList ++ '&' :: (tokenField.toList ++ '=' :: token.toList) := by
    simp [continuing]
  have plainName : ∀ c ∈ tokenField.toList, IsPlain c ∧ c ≠ '=' := by
    have checked : (tokenField.toList.all fun c => decide (IsPlain c ∧ c ≠ '=')) = true := by
      decide
    simpa only [List.all_eq_true, decide_eq_true_eq] using checked
  have whole : ∀ c ∈ tokenField.toList ++ '=' :: token.toList, decide (c = '&') = false := by
    intro c mem
    refine decide_eq_false ?_
    rcases List.mem_append.mp mem with name | mem
    · exact (plainName c name).1.2.2.2
    · rcases List.mem_cons.mp mem with rfl | value
      · decide
      · exact (plain c value).2.2.2
  have cut : Text.cutAt (· = '=') (tokenField.toList ++ '=' :: token.toList) =
      (tokenField.toList, some token.toList) :=
    Text.cutAt_append rfl fun c mem => decide_eq_false (plainName c mem).2
  rw [fields, chars, Text.pieces_append rfl, Text.pieces_of_plain whole, List.filter_append,
    List.map_append]
  refine congrArg _ ?_
  rw [List.filter_cons_of_pos (by simp), List.filter_nil, List.map_singleton, cut]
  dsimp only
  rw [Option.getD_some, decodeField_of_plain fun c mem => (plainName c mem).1,
    decodeField_of_plain plain, String.ofList_toList, String.ofList_toList]

/-! ### Queries that go on -/

theorem field?_concat_of_ne {fs : List (String × String)} {name name' value : String}
    (other : name' ≠ name) : field? (fs ++ [(name', value)]) name = field? fs name := by
  rw [field?, field?, List.filter_append, List.filter_cons_of_neg (by simpa using other),
    List.filter_nil, List.append_nil]

theorem fieldOf?_concat_of_ne {α : Type} {read : String → Option α} {fs : List (String × String)}
    {name name' value : String} (other : name' ≠ name) :
    fieldOf? read (fs ++ [(name', value)]) name = fieldOf? read fs name := by
  rw [fieldOf?, fieldOf?, field?_concat_of_ne other]

/-- A field that stands there once more stands there for the first time. -/
theorem field?_concat (fs : List (String × String)) (name value : String) :
    field? (fs ++ [(name, value)]) name =
      (field? fs name).bind fun before => if before.isNone then some (some value) else none := by
  rw [field?, field?, List.filter_append, List.filter_cons_of_pos (by simp), List.filter_nil]
  cases fs.filter (·.1 = name) with
  | nil => rfl
  | cons first others =>
      cases others with
      | nil => rfl
      | cons second others => rfl

/-- A query with a token at its end says the same and the token, unless there is one already. -/
theorem ListQuery.parse?_continuing (query : String) {token : String}
    (plain : ∀ c ∈ token.toList, IsPlain c) :
    parse? (continuing query token) = (parse? query).bind fun q =>
      if q.continuation.isNone then some { q with continuation := some token } else none := by
  rw [parse?, parse?, fields_continuing query plain]
  simp only [field?_concat_of_ne (show tokenField ≠ "objectname" by decide),
    field?_concat_of_ne (show tokenField ≠ "prefix" by decide),
    field?_concat_of_ne (show tokenField ≠ "mime-type" by decide),
    field?_concat_of_ne (show tokenField ≠ "sha256sum" by decide),
    fieldOf?_concat_of_ne (show tokenField ≠ "linked" by decide),
    fieldOf?_concat_of_ne (show tokenField ≠ "max-keys" by decide),
    show "continuation-token" = tokenField from rfl, field?_concat]
  -- The fields are read one after the other, and the first that cannot be read ends it all.
  rcases field? (fields query) "objectname" with _ | objectName
  · rfl
  rcases field? (fields query) "prefix" with _ | nameStart
  · rfl
  rcases field? (fields query) "mime-type" with _ | mimeType
  · rfl
  rcases field? (fields query) "sha256sum" with _ | sha256
  · rfl
  rcases fieldOf? readFlag (fields query) "linked" with _ | linked
  · rfl
  rcases fieldOf? readCount (fields query) "max-keys" with _ | maxKeys
  · rfl
  rcases field? (fields query) tokenField with _ | _ | token'
  · rfl
  · rfl
  · rfl

/-! ### Storage ids that are taken for tokens -/

/-- A text that is the token of another is taken for it, and every other one stands for itself. -/
theorem decodeContinuation_cases (token : String) :
    (∃ text, encodeContinuation text = token ∧ decodeContinuation token = text) ∨
      (∀ text, encodeContinuation text ≠ token) ∧ decodeContinuation token = token := by
  by_cases any : ∃ text, encodeContinuation text = token
  · obtain ⟨text, rfl⟩ := any
    exact .inl ⟨text, rfl, decodeContinuation_encodeContinuation text⟩
  · refine .inr ⟨not_exists.mp any, ?_⟩
    cases read : (Text.Base64Url.decode? token).bind Text.ofUtf8? with
    | none => rw [decodeContinuation, read, Option.getD_none]
    | some text =>
        obtain ⟨bytes, decoded, isText⟩ := Option.bind_eq_some_iff.mp read
        refine absurd ⟨text, ?_⟩ any
        rw [encodeContinuation, Text.utf8_of_ofUtf8? isText,
          Text.Base64Url.encodeText_of_decode? decoded]

/-- A storage id is shorter than the token for it. -/
theorem encodeContinuation_ne_self {id : String} (isId : IsStorageId id) :
    encodeContinuation id ≠ id := by
  intro same
  have single : ∀ c ∈ id.toList, c.utf8Size = 1 := fun c mem =>
    Text.utf8Size_of_isLowerHex (isId.2 c mem)
  have size := Text.length_utf8_ofList single
  rw [String.ofList_toList, String.length_toList, isId.1] at size
  have count := congrArg String.length same
  rw [encodeContinuation, Text.Base64Url.encodeText, String.length_ofList,
    Text.Base64Url.length_encode, size, isId.1] at count
  omega

theorem decodeContinuation_eq_self_iff {id : String} (isId : IsStorageId id) :
    decodeContinuation id = id ↔ ∀ text, encodeContinuation text ≠ id := by
  rcases decodeContinuation_cases id with ⟨text, spells, taken⟩ | ⟨other, itself⟩
  · refine iff_of_false (fun same => ?_) fun other => other text spells
    rw [taken] at same
    rw [same] at spells
    exact encodeContinuation_ne_self isId spells
  · exact iff_of_true itself other

theorem isPlain_of_isStorageId {id : String} (isId : IsStorageId id) :
    ∀ c ∈ id.toList, IsPlain c := by
  intro c mem
  have digit := isId.2 c mem
  refine ⟨Text.toNat_of_isLowerHex digit, ?_, ?_, ?_⟩ <;>
    rintro rfl <;> exact absurd digit (by decide)

theorem isPlain_encodeContinuation (text : String) :
    ∀ c ∈ (encodeContinuation text).toList, IsPlain c := by
  have all : ∀ n : Fin 64, IsPlain (Text.Base64Url.digit n) := by decide
  intro c mem
  obtain ⟨values, small, spelled, -⟩ := Text.Base64Url.exists_values_encode (Text.utf8 text)
  rw [encodeContinuation, Text.Base64Url.encodeText, String.toList_ofList, spelled] at mem
  obtain ⟨v, isValue, rfl⟩ := List.mem_map.mp mem
  exact all ⟨v, small v isValue⟩

/-! ### Requests that go on -/

/-- The request with a query that has a token at its end. -/
def Request.continuing (r : Request) (query token : String) : Request :=
  { r with target := { r.target with query := some (Http.continuing query token) } }

/-- The request is for a listing. -/
def Request.Lists (r : Request) : Prop :=
  r.method = "GET" ∧ r.target.segments = ["objects"]

theorem Request.demand_of_lists {r : Request} (lists : r.Lists) :
    r.demand = .orSettled r.caller fun caller =>
      .orSettled (r.query ListQuery.parse?) fun query => .action caller (.list query.request) := by
  obtain ⟨method, target, headers, body⟩ := r
  obtain ⟨rfl, objects⟩ := lists
  dsimp only at objects
  rw [demand, if_neg (show ¬"GET" = "HEAD" by decide)]
  simp only [objects, Route.ofSegments?]
  rfl

/-- With a token at the end of its query, a request for a listing demands what lies beyond it. -/
theorem Request.demand_continuing {r : Request} (lists : r.Lists) (query : String) {token : String}
    (plain : ∀ c ∈ token.toList, IsPlain c) :
    (r.continuing query token).demand = .orSettled r.caller fun caller =>
      match (ListQuery.parse? query).filter (·.continuation.isNone) with
      | some q => .action caller (.list (q.request.onward (decodeContinuation token)))
      | none => .settled (.turnedAway 400) := by
  rw [demand_of_lists (r := r.continuing query token) lists, Request.query]
  dsimp only [continuing]
  rw [Option.getD_some, ListQuery.parse?_continuing query plain]
  refine congrArg _ (funext fun caller => ?_)
  rcases ListQuery.parse? query with _ | q
  · rfl
  · rw [Option.bind_some, Option.filter_some]
    cases q.continuation <;> rfl

end Http

/-! ### A listing that tells two tokens apart -/

/-- A listing that is carried out is sent back as a page. -/
theorem Action.respond_list {e : Surroundings} {caller : Caller} {q : ListRequest} {f : ListFilter}
    (effective : q.effectiveFilter = .ok f) (s : Store)
    (carries : e.Carries 0 (.listing caller.owner)) :
    (Action.list q).respond caller e ⟨s, 0⟩ =
      (.ok (.ofJson 200 (pageBody (Page.ofRecords q.limit (s.list caller.owner f (q.limit + 1))))),
        ⟨s, .calling 0 1⟩) := by
  have ran := Operation.listPage_run effective s carries
  rw [respond, Operation.answered, Operation.bind_run, Operation.attempt, Operation.bind_run,
    show (Action.list q).run caller = Operation.listPage caller q from rfl, ran]
  rfl

/-- A row of Ann's under a given storage id. -/
def Record.annUnder (id : String) : Record :=
  { (ownDraft "ann" .zeros .empty 0).fresh (Uuid.numbered 0) ⟨0, 0⟩ with storageId := id }

/-- A store with that row. -/
def Store.annUnder (id : String) : Store :=
  ⟨[.annUnder id], [], 1⟩

theorem Store.list_annUnder (id after : String) {limit : Nat} (positive : 1 ≤ limit)
    (small : limit ≤ Text.maxInt64.toNat) :
    (annUnder id).list "ann" (ListFilter.all.beyond after) limit =
      if after < id then [.annUnder id] else [] := by
  have keeps : (decide ((Record.annUnder id).owner = "ann") && !(Record.annUnder id).garbage &&
      (ListFilter.all.beyond after).admits (.annUnder id)) = decide (after < id) :=
    rfl
  rw [list, if_pos small, matching, annUnder, List.filter_singleton, keeps]
  by_cases less : after < id
  · rw [decide_eq_true less, if_pos less, cond_true, List.mergeSort_singleton]
    exact List.take_of_length_le positive
  · rw [decide_eq_false less, if_neg less, cond_false, List.mergeSort_nil, List.take_nil]

/-- Beyond the smaller of two texts there is something that is not beyond the larger one. -/
theorem Action.respond_onward_ne {a b : String} (less : a < b) (q : ListRequest)
    (all : q.effectiveFilter = .ok .all) :
    (Action.list (q.onward a)).respond .ann (.calm .empty) ⟨.annUnder b, 0⟩ ≠
      (Action.list (q.onward b)).respond .ann (.calm .empty) ⟨.annUnder b, 0⟩ := by
  have page (after : String) :
      (Action.list (q.onward after)).respond .ann (.calm .empty) ⟨.annUnder b, 0⟩ =
        (.ok (.ofJson 200 (pageBody (Page.ofRecords q.limit
          (if after < b then [.annUnder b] else [])))), ⟨.annUnder b, .calling 0 1⟩) := by
    rw [respond_list (ListRequest.effectiveFilter_onward all) _ ⟨rfl, fun _ => rfl⟩]
    have small : q.limit + 1 ≤ Text.maxInt64.toNat :=
      le_trans (Nat.succ_le_succ q.limit_le) (by decide)
    rw [show (q.onward after).limit = q.limit from rfl]
    rw [show Caller.ann.owner = "ann" from rfl, Store.list_annUnder b after (by omega) small]
  have whole (rows : List Record) (few : rows.length ≤ 1) :
      Page.ofRecords q.limit rows = ⟨rows, false, none⟩ :=
    if_neg (not_lt.mpr (few.trans q.limit_pos))
  rw [page, page, if_pos less, if_neg (String.lt_irrefl b),
    whole [.annUnder b] (Nat.le_refl 1), whole [] (Nat.zero_le 1)]
  intro same
  simp [Response.ofJson, pageBody] at same

/-! ### What is asked for with a raw storage id -/

/-- A request of Ann's for a listing. -/
def Http.Request.annLists : Request :=
  { method := "GET", target := ⟨"/objects", none⟩
    headers := [(ownerHeader, "ann"), (subjectHeader, "ann"), (kindHeader, "user")], body := [] }

theorem Operation.serve_annLists {token : String} (plain : ∀ c ∈ token.toList, IsPlain c) :
    serve (Request.annLists.continuing "" token) =
      (Action.list (ListRequest.onward ⟨.all, none, none⟩ (decodeContinuation token))).respond
        .ann := by
  have caller : Request.annLists.caller = .ok .ann := rfl
  rw [serve_eq, Request.demand_continuing ⟨rfl, by decide⟩ "" plain, caller]
  rfl

/-- **Raw storage ids are accepted as tokens, but for those that are tokens of other texts.** A
storage id stands for itself as a token exactly unless it is the token of some text. Exactly then a
query for a listing goes on right after it, and exactly then every request for a listing is served,
in all surroundings and stores, as it is with the token that is handed out for the storage id. -/
theorem raw_tokens_accepted_iff {id : String} (isId : IsStorageId id) :
    (decodeContinuation id = id ↔ ∀ text, encodeContinuation text ≠ id) ∧
    (∀ query q f, ListQuery.parse? query = some q → q.continuation = none →
      q.request.effectiveFilter = .ok f →
      ((ListQuery.parse? (continuing query id)).map (·.request.effectiveFilter) =
          some (.ok (f.beyond id)) ↔
        ∀ text, encodeContinuation text ≠ id)) ∧
    ((∀ r : Request, r.Lists → ∀ query,
        Operation.serve (r.continuing query id) =
          Operation.serve (r.continuing query (encodeContinuation id))) ↔
      ∀ text, encodeContinuation text ≠ id) := by
  have itself := decodeContinuation_eq_self_iff isId
  have plain := isPlain_of_isStorageId isId
  have plain' := isPlain_encodeContinuation id
  refine ⟨itself, ?_, ?_⟩
  · intro query q f asks fresh effective
    have parsed : ListQuery.parse? (continuing query id) =
        some { q with continuation := some id } := by
      rw [ListQuery.parse?_continuing query plain, asks, Option.bind_some, fresh]
      rfl
    have onward : { q with continuation := some id }.request =
        q.request.onward (decodeContinuation id) := rfl
    rw [parsed, Option.map_some, onward, ListRequest.effectiveFilter_onward effective, ← itself]
    constructor
    · intro same
      simpa [ListFilter.beyond] using same
    · intro same
      rw [same]
  · rw [← itself]
    constructor
    · intro served
      by_contra other
      have alike := served .annLists ⟨rfl, by decide⟩ ""
      rw [Operation.serve_annLists plain, Operation.serve_annLists plain',
        decodeContinuation_encodeContinuation] at alike
      rcases lt_or_gt_of_ne other with less | greater
      · exact Action.respond_onward_ne less _ rfl (congrFun (congrFun alike _) _)
      · exact Action.respond_onward_ne greater _ rfl (congrFun (congrFun alike.symm _) _)
    · intro same r lists query
      rw [Operation.serve_eq, Operation.serve_eq, Request.demand_continuing lists query plain,
        Request.demand_continuing lists query plain', same,
        decodeContinuation_encodeContinuation]

theorem raw_tokens_accepted_iff_zeros :
    IsStorageId ContentHash.zeros.hex ∧ ∀ r : Request, r.Lists → ∀ query,
      Operation.serve (r.continuing query ContentHash.zeros.hex) =
        Operation.serve (r.continuing query (encodeContinuation ContentHash.zeros.hex)) := by
  have isId := ContentHash.zeros.isStorageId_hex
  obtain ⟨itself, -, served⟩ := raw_tokens_accepted_iff isId
  exact ⟨isId, served.mpr (itself.mp (by decide +kernel))⟩

/-- Some storage ids are taken for tokens: `a000` is how `kM4` is written in base64, and so on for
all 64 digits. -/
theorem not_raw_tokens_accepted :
    ¬∀ id, IsStorageId id → decodeContinuation id = id := by
  intro accepted
  let id := String.ofList (List.replicate 16 ['a', '0', '0', '0']).flatten
  let text := String.ofList (List.replicate 16 ['k', 'M', '4']).flatten
  have isId : IsStorageId id := by decide +kernel
  have token : encodeContinuation text = id := by decide +kernel
  exact (decodeContinuation_eq_self_iff isId).mp (accepted id isId) text token

end ContentStore
