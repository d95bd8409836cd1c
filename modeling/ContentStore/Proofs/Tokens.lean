import ContentStore.Proofs.JsonReading
import ContentStore.Proofs.Outcomes
import ContentStore.Token.Verify
import Mathlib.Algebra.Order.Ring.Int

/-!
# Tokens and their grants

What a token says is what was signed: its three parts are found again, since base64 has no points,
the header and the signature are accepted by every issuer of the same secret, and the claims are
read as they were written, whatever characters stand in them (`signedClaims?_sign`). So a token is
good for the grant that it was issued for and for no other: for its method, its storage id and its
issuer, up to the second in which it ends.
-/

namespace ContentStore

/-! ### The parts of a token -/

namespace Token.Parts

theorem cutLast_append (front : List Char) {last : List Char} (plain : '.' ∉ last) :
    cutLast (front ++ '.' :: last) = some (front, last) := by
  have reversed : (front ++ '.' :: last).reverse = last.reverse ++ '.' :: front.reverse := by
    rw [List.reverse_append, List.reverse_cons, List.append_assoc]
    rfl
  have noPoint : ∀ c ∈ last.reverse, decide (c = '.') = false := by
    rintro c mem
    refine decide_eq_false ?_
    rintro rfl
    exact plain (List.mem_reverse.mp mem)
  rw [cutLast, reversed, Text.cutAt_append rfl noPoint]
  dsimp only
  rw [List.reverse_reverse, List.reverse_reverse]

/-- A token of three parts is cut into them, if the last two have no points. -/
theorem ofText?_append {header payload signature : String} (plain : '.' ∉ payload.toList)
    (plain' : '.' ∉ signature.toList) :
    ofText? (header ++ "." ++ payload ++ "." ++ signature) = some ⟨header, payload, signature⟩ := by
  have written : (header ++ "." ++ payload ++ "." ++ signature).toList =
      (header.toList ++ '.' :: payload.toList) ++ '.' :: signature.toList := by
    simp only [String.toList_append, List.append_assoc]
    rfl
  rw [ofText?, written, cutLast_append _ plain', Option.bind_eq_bind, Option.bind_some]
  dsimp only
  rw [cutLast_append _ plain, Option.bind_some]
  dsimp only
  rw [String.ofList_toList, String.ofList_toList, String.ofList_toList]
  rfl

end Token.Parts

namespace Issuer

theorem stop_notMem_encodeText (bytes : List UInt8) :
    '.' ∉ (Text.Base64Url.encodeText bytes).toList := by
  rw [Text.Base64Url.encodeText, String.toList_ofList]
  exact Text.Base64Url.stop_notMem_encode bytes

theorem partBytes?_part (v : Json) : partBytes? (part v) = some (Text.utf8 v.text) :=
  Text.Base64Url.decode?_encodeText _

set_option maxRecDepth 10000 in
theorem isHeader_header : Token.isHeader (Text.utf8 header.text) = true := by
  decide +kernel

end Issuer

/-! ### Claims -/

namespace Claims

open Json

/-- The times of the claims have their places among numbers of 64 bits. -/
structure Timely (c : Claims) : Prop where
  issued : 0 ≤ c.issuedAt ∧ c.issuedAt ≤ Text.maxInt64
  ends : 0 ≤ c.expiresAt ∧ c.expiresAt ≤ Text.maxInt64

/-- The claims are built of their members. -/
theorem ofMembers?_members (c : Claims) :
    ofMembers? [("iss", .str c.issuer), ("sub", .str c.subject), ("aud", .str c.audience),
      ("iat", .int c.issuedAt), ("exp", .int c.expiresAt), ("method", .str c.method.text)] =
        some c := by
  obtain ⟨issuer, subject, audience, issuedAt, expiresAt, method⟩ := c
  cases method <;> rfl

theorem parse_json {c : Claims} (timely : c.Timely) : parse (Text.utf8 c.json.text) = .ok c := by
  have method : (Method.ofText? c.method.text).isSome = true := by
    rw [Method.ofText?_text]
    rfl
  exact Shape.parse_obj (.cons (Shape.adds_field rfl rfl rfl Reader.takes_text) <|
    .cons (Shape.adds_field rfl rfl rfl Reader.takes_text) <|
    .cons (Shape.adds_field rfl rfl rfl Reader.takes_text) <|
    .cons (Shape.adds_field rfl rfl rfl (Reader.takes_int64 timely.issued.1 timely.issued.2)) <|
    .cons (Shape.adds_field rfl rfl rfl (Reader.takes_int64 timely.ends.1 timely.ends.2)) <|
    .cons (Shape.adds_field rfl rfl rfl (Reader.takes_oneOf method)) .nil) rfl
    (ofMembers?_members c)

/-- None of the claims is a start time, so that all of them are passed over. -/
theorem isPayload_json {c : Claims} (timely : c.Timely) :
    Token.isPayload (Text.utf8 c.json.text) = true := by
  have read : Token.startShape.parse (fun _ => some ()) (Text.utf8 c.json.text) = .ok () :=
    Shape.parse_obj (.cons (Shape.adds_other rfl (Reader.takes_pass_str _ _ _)) <|
      .cons (Shape.adds_other rfl (Reader.takes_pass_str _ _ _)) <|
      .cons (Shape.adds_other rfl (Reader.takes_pass_str _ _ _)) <|
      .cons (Shape.adds_other rfl (Reader.takes_pass_int _ timely.issued.1)) <|
      .cons (Shape.adds_other rfl (Reader.takes_pass_int _ timely.ends.1)) <|
      .cons (Shape.adds_other rfl (Reader.takes_pass_str _ _ _)) .nil) rfl rfl
  rw [Token.isPayload, read]

end Claims

/-! ### Signed claims -/

namespace Issuer

variable {i i' : Issuer} {c : Claims}

/-- Every issuer of the same secret reads the claims of a token as they were signed. -/
theorem signedClaims?_sign (same : i'.secret = i.secret) (timely : c.Timely) :
    i'.signedClaims? (sign i.secret c) = some c := by
  have parts : Token.Parts.ofText? (sign i.secret c) =
      some ⟨part header, part c.json, signature i.secret (part header ++ "." ++ part c.json)⟩ :=
    Token.Parts.ofText?_append (stop_notMem_encodeText _) (stop_notMem_encodeText _)
  rw [signedClaims?, parts, Option.bind_eq_bind, Option.bind_some, Option.bind_eq_bind,
    partBytes?_part, Option.bind_some, isHeader_header, Token.Parts.message, same, partBytes?_part]
  simp [guard, Claims.parse_json timely, Claims.isPayload_json timely, Except.toOption]

/-- A token is good exactly for its own grant. -/
theorem verify_sign (same : i'.secret = i.secret) (timely : c.Timely) (method : Method)
    (storageId : String) (now : Time.Instant) :
    i'.verify (sign i.secret c) method storageId now =
      if c.issuer = i'.name ∧ c.method = method ∧ c.audience = storageId ∧
          now.seconds ≤ c.expiresAt then .ok c
      else .error .noAccess := by
  rw [verify, signedClaims?_sign same timely]
  dsimp only
  refine if_congr ?_ rfl rfl
  constructor
  · rintro ⟨-, within, name, audience, method⟩
    exact ⟨name, method, audience, within⟩
  · rintro ⟨name, method, audience, within⟩
    exact ⟨timely.ends.1, within, name, audience, method⟩

theorem create_eq_ok {secret : String} {seconds : Int} (name url : String)
    (long : minSecretBytes ≤ secret.utf8ByteSize) (positive : 0 < seconds) :
    create secret name seconds url = .ok ⟨secret, name, seconds.toNat, Text.dropAtEnd '/' url⟩ := by
  rw [create, if_neg (Nat.not_lt.mpr long), if_neg (Int.not_le.mpr positive)]

end Issuer

/-- The seconds of the calendar have their places among numbers of 64 bits. -/
theorem Time.Instant.seconds_le {t : Time.Instant} (inRange : t.inCalendar = true) :
    t.seconds ≤ Text.maxInt64 := by
  have last : Time.yearStart (Time.lastYear + 1) ≤ Text.maxInt64 := by decide
  rw [inCalendar, Bool.and_eq_true, decide_eq_true_eq, decide_eq_true_eq] at inRange
  exact inRange.2.le.trans last

/-- **Tokens are good for exactly their own grant.** Let two issuers have the same secret, one that
is long enough, and let the first one give out a grant in or after 1970 that ends within the
calendar. To the second one its token is good for a name, a method and a storage id if and only if
they are those of the grant and the second in which it ends is not over; the claims are then those
of the grant, with the seconds in which it starts and ends, and any other token is refused without
access. So the token is good when its grant ends, and from one second later on it is refused. The
grant that an issuer gives out ends after the lifetime of the issuer, to the nanosecond. -/
theorem tokens_good_for_own_grant (secret name name' url url' : String) (ttl ttl' : Int)
    (m : Method) (s u : String) (t₀ t : Time.Instant)
    (long : Issuer.minSecretBytes ≤ secret.utf8ByteSize) (positive : 0 < ttl) (positive' : 0 < ttl')
    (since : 0 ≤ t₀.seconds) (ordered : t₀.seconds ≤ t.seconds) (inRange : t.inCalendar = true) :
    ∃ i i', Issuer.create secret name ttl url = .ok i ∧
      Issuer.create secret name' ttl' url' = .ok i' ∧
      (t = ⟨t₀.seconds + ttl, t₀.nanos⟩ → i.issue? m s u t₀ = some (i.grantUntil m s u t₀ t)) ∧
      (∀ m' s' t₁, i'.verify (i.token (i.grantUntil m s u t₀ t)) m' s' t₁ =
        if name = name' ∧ m = m' ∧ s = s' ∧ t₁.seconds ≤ t.seconds then
          .ok ⟨name, u, s, t₀.seconds, t.seconds, m⟩
        else .error .noAccess) ∧
      i.verify (i.token (i.grantUntil m s u t₀ t)) m s t =
        .ok ⟨name, u, s, t₀.seconds, t.seconds, m⟩ ∧
      ∀ m' s' t₁, t.seconds + 1 ≤ t₁.seconds →
        i'.verify (i.token (i.grantUntil m s u t₀ t)) m' s' t₁ = .error .noAccess := by
  refine ⟨_, _, Issuer.create_eq_ok name url long positive,
    Issuer.create_eq_ok name' url' long positive', ?_⟩
  have timely : Claims.Timely ⟨name, u, s, t₀.seconds, t.seconds, m⟩ :=
    ⟨⟨since, ordered.trans (Time.Instant.seconds_le inRange)⟩,
      since.trans ordered, Time.Instant.seconds_le inRange⟩
  refine ⟨fun ends => ?_, fun m' s' t₁ => ?_, ?_, fun m' s' t₁ late => ?_⟩
  · have later : t₀.later? ttl.toNat = some t := by
      rw [Time.Instant.later?, Int.toNat_of_nonneg positive.le, ← ends]
      exact if_pos inRange
    rw [Issuer.issue?, later]
    rfl
  · exact Issuer.verify_sign rfl timely m' s' t₁
  · exact (Issuer.verify_sign rfl timely m s t).trans (if_pos ⟨rfl, rfl, rfl, le_refl _⟩)
  · refine (Issuer.verify_sign rfl timely m' s' t₁).trans (if_neg ?_)
    rintro ⟨-, -, -, within⟩
    exact absurd (late.trans within) (Int.not_le.mpr (Int.lt_succ _))

/-- A grant of half a minute that starts within a second. -/
theorem tokens_good_for_own_grant_half_minute :
    ∃ i g, Issuer.create "0123456789abcdef0123456789abcdef" "store" 30 "" = .ok i ∧
      i.issue? .get "id" "ann" ⟨1700000000, 500000000⟩ = some g ∧
      i.verify (i.token g) .get "id" ⟨1700000030, 999999999⟩ =
        .ok ⟨"store", "ann", "id", 1700000000, 1700000030, .get⟩ ∧
      i.verify (i.token g) .put "id" ⟨1700000000, 0⟩ = .error .noAccess ∧
      i.verify (i.token g) .get "id" ⟨1700000031, 0⟩ = .error .noAccess := by
  obtain ⟨i, i', created, created', issued, verified, -, ended⟩ :=
    tokens_good_for_own_grant "0123456789abcdef0123456789abcdef" "store" "store" "" "" 30 30 .get
      "id" "ann" ⟨1700000000, 500000000⟩ ⟨1700000030, 500000000⟩ (by decide) (by decide) (by decide)
      (by decide) (by decide) (by decide)
  obtain rfl : i = i' := Except.ok.inj (created.symm.trans created')
  exact ⟨i, _, created, issued rfl, verified .get "id" _, verified .put "id" _,
    ended .get "id" _ (by decide)⟩

end ContentStore
