import ContentStore.Proofs.Faultless
import ContentStore.Proofs.HandledIds
import ContentStore.Settings

/-!
# How long tokens may last

A token that would end after the calendar does is not given out, and the operation that wanted it
ends without an answer. Settings put no such bound on the lifetime of tokens: it has to be positive,
and its milliseconds have to be an integer of 64 bits (`Settings.issuer_eq_ok_iff`). So there are
two kinds of issuers that settings can lead to. With a lifetime up to `Issuer.longestLifetime`, no
operation before year 10000 wants a token that there is not; with a longer one, a first registration
can leave its row and end without an answer (`issuing_never_overflows_iff`).
-/

namespace ContentStore

/-! ### Lifetimes and the calendar -/

/-- The instant lies in one of the years 1970 to 9999. -/
def Time.Instant.IsCurrent (t : Time.Instant) : Prop :=
  Time.yearStart 1970 ≤ t.seconds ∧ t.seconds < Time.yearStart 10000

/-- The last instant before year 10000. -/
def Time.Instant.lastCurrent : Time.Instant :=
  ⟨Time.yearStart 10000 - 1, 999999999⟩

/-- The seconds from the start of year 10000 to the end of the calendar. -/
def Issuer.longestLifetime : Nat :=
  (Time.yearStart (Time.lastYear + 1) - Time.yearStart 10000).toNat

namespace Time.Instant

theorem isCurrent_lastCurrent : lastCurrent.IsCurrent :=
  ⟨by decide, by decide⟩

variable {t : Instant} {n : Nat}

/-- Of the two ends of the calendar, only the last one can be passed. -/
theorem later?_eq_some_iff (current : t.IsCurrent) :
    t.later? n = some ⟨t.seconds + n, t.nanos⟩ ↔ t.seconds + n < yearStart (lastYear + 1) := by
  have begun : yearStart firstYear ≤ t.seconds + n := by
    have first : yearStart firstYear ≤ yearStart 1970 := by decide
    have := current.1
    omega
  simp [later?, inCalendar, begun]

theorem later?_eq_none_iff (current : t.IsCurrent) :
    t.later? n = none ↔ yearStart (lastYear + 1) ≤ t.seconds + n := by
  rw [← not_lt, ← later?_eq_some_iff current]
  unfold later?
  dsimp only
  split <;> simp

theorem later?_of_le (current : t.IsCurrent) (short : n ≤ Issuer.longestLifetime) :
    t.later? n = some ⟨t.seconds + n, t.nanos⟩ := by
  have room : (Issuer.longestLifetime : Int) = yearStart (lastYear + 1) - yearStart 10000 := by
    decide
  refine (later?_eq_some_iff current).mpr ?_
  have := current.2
  omega

theorem later?_lastCurrent (long : Issuer.longestLifetime < n) : lastCurrent.later? n = none := by
  have room : (Issuer.longestLifetime : Int) =
      yearStart (lastYear + 1) - (lastCurrent.seconds + 1) := by
    decide
  refine (later?_eq_none_iff isCurrent_lastCurrent).mpr ?_
  omega

end Time.Instant

/-! ### Lifetimes that settings can have -/

namespace Settings

variable {settings : Settings} {i : Issuer}

theorem issuer_eq_ok_iff :
    settings.issuer = .ok i ↔
      settings.tokenSeconds ≤ maxTokenSeconds ∧
        Issuer.minSecretBytes ≤ settings.tokenSecret.utf8ByteSize ∧ 0 < settings.tokenSeconds ∧
        i = ⟨settings.tokenSecret, settings.tokenIssuer, settings.tokenSeconds,
          Text.dropAtEnd '/' settings.publicUrl⟩ := by
  unfold issuer Issuer.create
  split
  · next long => simp [long]
  · next counted =>
      split
      · next short => simp [Except.mapError, short]
      · next enough =>
          split
          · next none => simp [Except.mapError]; omega
          · next lasts =>
              simp only [Except.mapError, Except.ok.injEq, Int.toNat_natCast]
              constructor
              · rintro rfl
                exact ⟨by omega, by omega, by omega, rfl⟩
              · rintro ⟨-, -, -, rfl⟩
                rfl

/-- The lifetime is the one of the command line, or else the one of the environment. -/
theorem tokenSeconds_of_merge {a : Arguments} {env : Environment}
    (merged : merge a env = .ok settings) :
    ∃ v, env.variables = .ok v ∧ settings.tokenSeconds = a.tokenSeconds.getD v.tokenSeconds := by
  unfold merge at merged
  cases read : env.variables with
  | error fault =>
      rw [read] at merged
      cases merged
  | ok v =>
      rw [read] at merged
      refine ⟨v, rfl, ?_⟩
      change check (ofVariables a v) = .ok settings at merged
      unfold check at merged
      split at merged
      · cases merged
      · split at merged
        · cases merged
        · cases merged
          rfl

end Settings

/-- A command line that says nothing but how long tokens last. -/
def Arguments.lasting (seconds : Nat) : Arguments :=
  { Arguments.empty with tokenSeconds := some seconds }

/-- An environment in which nothing but a secret is set. -/
def Environment.onlySecret : Environment := fun name =>
  if name = variableStart ++ "TOKEN_SECRET" then
    some (Text.utf8 "0123456789abcdef0123456789abcdef")
  else none

/-- The defaults, with that secret. -/
def Variables.onlySecret : Variables where
  host := "0.0.0.0"
  port := 3000
  databaseUrl := "sqlite://./data/meta/object_store.db"
  storageDir := "./data/objects"
  backendUrl := none
  publicUrl := "http://127.0.0.1:9000"
  tokenSeconds := 30
  tokenSecret := "0123456789abcdef0123456789abcdef"
  tokenIssuer := "fleet-object-store"
  defaultPlan := "free"
  defaultQuota := 104857600
  callMilliseconds := 5000

/-- Every lifetime in the range can be had. -/
theorem Settings.exists_issuer_lasting (seconds : Nat) (positive : 0 < seconds)
    (counted : seconds ≤ maxTokenSeconds) :
    ∃ settings i, merge (.lasting seconds) .onlySecret = .ok settings ∧
      settings.issuer = .ok i ∧ i.seconds = seconds := by
  have read : Environment.onlySecret.variables = .ok .onlySecret := by
    decide +kernel
  have lasts : ¬(ofVariables (.lasting seconds) .onlySecret).tokenSeconds = 0 :=
    Nat.ne_of_gt positive
  have owed : ¬(ofVariables (.lasting seconds) .onlySecret).defaultQuota < 0 :=
    (by decide : ¬(104857600 : Int) < 0)
  refine ⟨ofVariables (.lasting seconds) .onlySecret, _, ?_,
    issuer_eq_ok_iff.mpr ⟨counted, ?_, positive, rfl⟩, rfl⟩
  · rw [merge, read]
    change check (ofVariables (.lasting seconds) .onlySecret) = _
    rw [check, if_neg lasts, if_neg owed]
  · change 32 ≤ String.utf8ByteSize "0123456789abcdef0123456789abcdef"
    decide

/-! ### Operations that want a token too late -/

namespace Issuer

variable {i : Issuer}

/-- Every token that is wanted in these years is given out, from now on and for the lifetime. -/
def AlwaysIssues (i : Issuer) : Prop :=
  ∀ (method : Method) (storageId subject : String) (now : Time.Instant), now.IsCurrent →
    ∃ g, i.issue? method storageId subject now = some g ∧ g.issuedAt = now ∧
      g.expiresAt = ⟨now.seconds + i.seconds, now.nanos⟩

/-- In these years every action on every store that a run leads to ends with an answer or a
refusal, here and over HTTP. -/
def AlwaysAnswers (i : Issuer) : Prop :=
  ∀ (s : Store) (e : Surroundings) (caller : Caller) (a : Action) (n : Journal) (why : Abort),
    Store.empty.LeadsTo s → e.issuer = i → e.now.IsCurrent →
      (a.run caller e ⟨s, n⟩).1 ≠ .error (.aborted why) ∧
        (a.respond caller e ⟨s, n⟩).1 ≠ .error (.aborted why)

/-- In these years an action that ends without an answer leaves the store as it was. -/
def AbortsUnchanged (i : Issuer) : Prop :=
  ∀ (s : Store) (e : Surroundings) (caller : Caller) (a : Action) (n : Journal) (why : Abort),
    Store.empty.LeadsTo s → e.issuer = i → e.now.IsCurrent →
      (a.run caller e ⟨s, n⟩).1 = .error (.aborted why) →
      (a.run caller e ⟨s, n⟩).2.store = s

theorem alwaysIssues_iff : i.AlwaysIssues ↔ i.seconds ≤ longestLifetime := by
  constructor
  · intro issues
    by_contra long
    obtain ⟨g, issued, -⟩ := issues .get "" "" .lastCurrent Time.Instant.isCurrent_lastCurrent
    rw [issue?, Time.Instant.later?_lastCurrent (not_le.mp long)] at issued
    cases issued
  · intro short method storageId subject now current
    rw [issue?, Time.Instant.later?_of_le current short]
    exact ⟨_, rfl, rfl, rfl⟩

end Issuer

/-- A failure that is permitted is a refusal, if the calendar lasts. -/
theorem Surroundings.Permits.ne_aborted {e : Surroundings} {f : Failure} (permits : e.Permits f)
    (inTime : e.now.later? e.issuer.seconds ≠ none) (why : Abort) : f ≠ .aborted why := by
  rintro rfl
  cases why with
  | noPath id => exact permits
  | endOfTime => exact inTime permits

/-- Ids apart, only the end of the calendar keeps an operation from an answer. -/
theorem Operation.Handles.ne_aborted {α : Type} {x : Operation α} {e : Surroundings} {s : Store}
    {n : Journal} {good : α → Prop} (handles : x.Handles e s n good)
    (inTime : e.now.later? e.issuer.seconds ≠ none) (why : Abort) :
    (x e ⟨s, n⟩).1 ≠ .error (.aborted why) := by
  obtain ⟨result, t, k, ran, -, -, ends⟩ := handles
  rw [ran]
  rintro rfl
  exact Surroundings.Permits.ne_aborted ends inTime why rfl

theorem Issuer.AlwaysAnswers.of_le {i : Issuer} (short : i.seconds ≤ longestLifetime) :
    i.AlwaysAnswers := by
  rintro s e caller a n why reached rfl current
  have names := reached.namesIds
  have inTime : e.now.later? e.issuer.seconds ≠ none := by
    rw [Time.Instant.later?_of_le current short]
    nofun
  exact ⟨(a.handles caller e n names).ne_aborted inTime why,
    (a.handles_respond caller e n names).ne_aborted inTime why⟩

namespace Operation

variable {e : Surroundings} {s : Store} {caller : Caller} {text : String} {hash : ContentHash}
  {m : Metadata} {size : Int}

theorem yields_grantAccess_late {record : Record} {readFrom : Option String} {writable : Bool}
    (late : e.now.later? e.issuer.seconds = none) :
    (grantAccess caller record readFrom writable).Yields e s (.error (.aborted .endOfTime)) s := by
  intro n
  have granted := award_run e caller ⟨record, readFrom, writable⟩ ⟨s, n⟩
  rw [late] at granted
  exact ⟨n, granted⟩

/-- Too late for a token, a first registration that the quota admits leaves its row all the same. -/
theorem yields_register_late (carries : ∀ n c, e.Carries n c)
    (parsed : ContentHash.parse text = .ok hash) (sized : m.size = .ok size)
    (absent : s.find? (storageId caller.owner hash) = none)
    (admits : e.Admits s caller.owner [storageId caller.owner hash] size)
    (late : e.now.later? e.issuer.seconds = none) :
    (register caller text m false).Yields e s (.error (.aborted .endOfTime))
      (s.put (ownDraft caller.owner hash m size) e.now) := by
  unfold register
  refine yields_bind (yields_require parsed) (yields_bind (yields_ofExcept sized) ?_)
  refine yields_bind (yields_find carries _) ?_
  rw [absent]
  refine yields_bind_error ?_
  unfold registerNew
  refine yields_bind (yields_pure none) ?_
  refine yields_bind (yields_checkQuota carries admits) ?_
  exact yields_bind (yields_write carries _) (yields_grantAccess_late late)

end Operation

theorem Issuer.not_abortsUnchanged {i : Issuer} (long : longestLifetime < i.seconds) :
    ¬i.AbortsUnchanged := by
  intro unchanged
  let e : Surroundings := { Surroundings.calm .empty with now := .lastCurrent, issuer := i }
  let a : Action := .register ContentHash.zeros.hex .empty false
  let d : Draft := ownDraft Caller.ann.owner .zeros .empty 0
  have carries : ∀ n c, e.Carries n c := fun _ _ => ⟨rfl, fun _ => rfl⟩
  have admits : e.Admits .empty Caller.ann.owner [storageId Caller.ann.owner .zeros] 0 :=
    ⟨0, rfl, (by decide : (0 : Int) ≤ 100)⟩
  have run : (a.run .ann).Yields e .empty (.error (.aborted .endOfTime))
      (Store.empty.put d e.now) :=
    Operation.yields_register_late carries ContentHash.zeros.parse_hex rfl rfl admits
      (Time.Instant.later?_lastCurrent long)
  have kept := unchanged .empty e .ann a 0 .endOfTime .here rfl
    Time.Instant.isCurrent_lastCurrent (run.result 0)
  rw [run.left 0] at kept
  have row : Store.empty.written d e.now ∈ (Store.empty.put d e.now).rows :=
    Store.mem_put_iff.mpr (.inl rfl)
  rw [kept] at row
  exact nomatch row

/-- **The clock never overflows, exactly if tokens end soon enough.** Settings lead to issuers whose
lifetime is positive and at most so many seconds that their milliseconds are an integer of 64 bits.
The following are the same for such an issuer in the years 1970 to 9999: the lifetime is at most the
longest one; tokens are always given out; actions always end with an answer or a refusal; and an
action that ends with neither has not changed the store before. -/
theorem issuing_never_overflows_iff {a : Arguments} {env : Environment} {settings : Settings}
    {i : Issuer} (merged : Settings.merge a env = .ok settings)
    (accepted : settings.issuer = .ok i) :
    (∃ v, env.variables = .ok v ∧ i.seconds = a.tokenSeconds.getD v.tokenSeconds) ∧
    0 < i.seconds ∧ i.seconds ≤ Settings.maxTokenSeconds ∧
    (i.AlwaysIssues ↔ i.seconds ≤ Issuer.longestLifetime) ∧
    (i.AlwaysAnswers ↔ i.seconds ≤ Issuer.longestLifetime) ∧
    (i.AbortsUnchanged ↔ i.seconds ≤ Issuer.longestLifetime) := by
  have clean (answers : i.AlwaysAnswers) : i.AbortsUnchanged :=
    fun s e caller a n why reached signs current aborted =>
      absurd aborted (answers s e caller a n why reached signs current).1
  have short (unchanged : i.AbortsUnchanged) : i.seconds ≤ Issuer.longestLifetime :=
    not_lt.mp fun long => Issuer.not_abortsUnchanged long unchanged
  obtain ⟨counted, -, positive, rfl⟩ := Settings.issuer_eq_ok_iff.mp accepted
  refine ⟨Settings.tokenSeconds_of_merge merged, positive, counted, Issuer.alwaysIssues_iff, ?_, ?_⟩
  · exact ⟨fun answers => short (clean answers), Issuer.AlwaysAnswers.of_le⟩
  · exact ⟨short, fun le => clean (.of_le le)⟩

theorem issuing_never_overflows_iff_hour :
    ∃ settings i, Settings.merge (.lasting 3600) .onlySecret = .ok settings ∧
      settings.issuer = .ok i ∧ i.AlwaysIssues ∧ i.AlwaysAnswers := by
  obtain ⟨settings, i, merged, accepted, lasts⟩ :=
    Settings.exists_issuer_lasting 3600 (by decide) (by decide)
  have short : i.seconds ≤ Issuer.longestLifetime := by
    rw [lasts]
    decide
  obtain ⟨-, -, -, issues, answers, -⟩ := issuing_never_overflows_iff merged accepted
  exact ⟨settings, i, merged, accepted, issues.mpr short, answers.mpr short⟩

/-- A lifetime of 10¹³ seconds is accepted, and tokens and answers fail with it. -/
theorem not_issuing_never_overflows :
    ∃ settings i, Settings.merge (.lasting 10000000000000) .onlySecret = .ok settings ∧
      settings.issuer = .ok i ∧ ¬i.AlwaysIssues ∧ ¬i.AbortsUnchanged := by
  obtain ⟨settings, i, merged, accepted, lasts⟩ :=
    Settings.exists_issuer_lasting 10000000000000 (by decide) (by decide)
  have long : Issuer.longestLifetime < i.seconds := by
    rw [lasts]
    decide
  refine ⟨settings, i, merged, accepted, fun issues => ?_, Issuer.not_abortsUnchanged long⟩
  exact not_le.mpr long (Issuer.alwaysIssues_iff.mp issues)

end ContentStore
