import ContentStore.Proofs.Lifetimes

/-!
# Arguments before variables

A word of the command line is meant to stand before the variable of the same name. It does where
the variable can be read: then no value of it makes a difference. But all variables are read before
the command line is looked at, and the first that cannot be read ends the reading, so a variable
that does not count any more can still keep the settings from coming together. That is the only
way in which it shows (`arguments_override_iff`).
-/

namespace ContentStore

/-! ### Parameters and their variables -/

/-- The variable that stands behind a parameter. -/
def Arguments.Parameter.variable (p : Parameter) : String :=
  variableStart ++
    match p with
    | .host => "HOST"
    | .port => "PORT"
    | .databaseUrl => "DATABASE_URL"
    | .storageDir => "STORAGE_DIR"
    | .backendUrl => "BACKEND_URL"
    | .publicUrl => "PUBLIC_URL"
    | .tokenSeconds => "TOKEN_TTL_SECS"

namespace Arguments

/-- Whether a parameter is given. -/
def gives (a : Arguments) : Parameter → Bool
  | .host => a.host.isSome
  | .port => a.port.isSome
  | .databaseUrl => a.databaseUrl.isSome
  | .storageDir => a.storageDir.isSome
  | .backendUrl => a.backendUrl.isSome
  | .publicUrl => a.publicUrl.isSome
  | .tokenSeconds => a.tokenSeconds.isSome

/-- A parameter is given in place of the variable. -/
def Overrides (a : Arguments) (name : String) : Prop :=
  ∃ p, a.gives p = true ∧ p.variable = name

end Arguments

namespace Environment

/-! ### The first fault -/

/-- What a variable has to be, if it is set. -/
inductive Form where
  | text
  /-- A text that has to be there. -/
  | required
  | natural (most : Nat)
  | integer
  deriving DecidableEq, Repr

/-- The fault of a result that is one. -/
def failing? {α : Type} : Except Text.IntegerFault α → Option Text.IntegerFault
  | .ok _ => none
  | .error why => some why

/-- Why a text is not of the form. -/
def Form.fault? : Form → String → Option Text.IntegerFault
  | text, _ => none
  | required, _ => none
  | natural most, value => failing? (Text.readNat most value)
  | integer, value => failing? (Text.readInt64 value)

/-- What is wrong with a variable of the form. -/
def fault? (env : Environment) (form : Form) (name : String) : Option SettingsFault :=
  match env name with
  | none => if form = .required then some .noSecret else none
  | some bytes =>
    match Text.ofUtf8? bytes with
    | none => some (.notText name)
    | some value => (form.fault? value).map (.notNumber name value)

/-- The variables in the order in which they are read. -/
def forms : List (String × Form) :=
  [("HOST", .text), ("PORT", .natural 65535), ("DATABASE_URL", .text), ("STORAGE_DIR", .text),
    ("BACKEND_URL", .text), ("PUBLIC_URL", .text), ("TOKEN_TTL_SECS", .natural Text.maxNat64),
    ("TOKEN_SECRET", .required), ("TOKEN_ISSUER", .text), ("DEFAULT_PLAN", .text),
    ("DEFAULT_QUOTA_BYTES", .integer), ("CALL_TIMEOUT_MS", .natural Text.maxNat64)].map
      fun (name, form) => (variableStart ++ name, form)

/-- The first variable with which something is wrong, and what it is. -/
def firstFault? (env : Environment) : List (String × Form) → Option (String × SettingsFault)
  | [] => none
  | (name, form) :: rest =>
    match env.fault? form name with
    | some fault => some (name, fault)
    | none => env.firstFault? rest

/-- A result that is a fault, if there is one. -/
def settled {α : Type} (fault? : Option SettingsFault) (a : α) : Except SettingsFault α :=
  match fault? with
  | some fault => .error fault
  | none => .ok a

/-- The text of a variable, if it is set to one. -/
def given? (env : Environment) (name : String) : Option String :=
  (env name).bind Text.ofUtf8?

/-- The variables where something is right with them, and the defaults elsewhere. -/
def values (env : Environment) : Variables where
  host := (env.given? (variableStart ++ "HOST")).getD "0.0.0.0"
  port := ((env.given? (variableStart ++ "PORT")).bind fun s =>
    (Text.readNat 65535 s).toOption).getD 3000
  databaseUrl := (env.given? (variableStart ++ "DATABASE_URL")).getD
    "sqlite://./data/meta/object_store.db"
  storageDir := (env.given? (variableStart ++ "STORAGE_DIR")).getD "./data/objects"
  backendUrl := env.given? (variableStart ++ "BACKEND_URL")
  publicUrl := (env.given? (variableStart ++ "PUBLIC_URL")).getD "http://127.0.0.1:9000"
  tokenSeconds := ((env.given? (variableStart ++ "TOKEN_TTL_SECS")).bind fun s =>
    (Text.readNat Text.maxNat64 s).toOption).getD 30
  tokenSecret := (env.given? (variableStart ++ "TOKEN_SECRET")).getD ""
  tokenIssuer := (env.given? (variableStart ++ "TOKEN_ISSUER")).getD "fleet-object-store"
  defaultPlan := (env.given? (variableStart ++ "DEFAULT_PLAN")).getD "free"
  defaultQuota := ((env.given? (variableStart ++ "DEFAULT_QUOTA_BYTES")).bind fun s =>
    (Text.readInt64 s).toOption).getD 104857600
  callMilliseconds := ((env.given? (variableStart ++ "CALL_TIMEOUT_MS")).bind fun s =>
    (Text.readNat Text.maxNat64 s).toOption).getD 5000

section Reading

variable {α β : Type} {env : Environment} {name : String} {form : Form}
  {rest : List (String × Form)}

theorem bind_settled {x : Except SettingsFault α} {k : α → Except SettingsFault β} {a : α} {b : β}
    (first : x = settled (env.fault? form name) a)
    (later : k a = settled ((env.firstFault? rest).map Prod.snd) b) :
    (x >>= k) = settled ((env.firstFault? ((name, form) :: rest)).map Prod.snd) b := by
  rw [first, firstFault?]
  cases env.fault? form name with
  | some fault => rfl
  | none => exact later

theorem text?_eq : env.text? name = settled (env.fault? .text name) (env.given? name) := by
  unfold text? fault? given?
  cases env name with
  | none => rfl
  | some bytes => cases read : Text.ofUtf8? bytes <;> simp [read, settled, Form.fault?]

theorem text_eq (default : String) :
    env.text name default = settled (env.fault? .text name) ((env.given? name).getD default) := by
  rw [text, text?_eq]
  cases env.fault? .text name <;> rfl

theorem number_eq (form : Form) {read : String → Except Text.IntegerFault α}
    (optional : form ≠ .required)
    (reads : ∀ s, form.fault? s = failing? (read s))
    (default : α) :
    env.number read name default =
      settled (env.fault? form name)
        (((env.given? name).bind fun s => (read s).toOption).getD default) := by
  unfold number text? fault? given?
  cases env name with
  | none => simp [optional, settled]
  | some bytes =>
      cases text : Text.ofUtf8? bytes with
      | none => simp [text, settled]
      | some value =>
          cases met : read value <;>
            simp [text, reads, met, settled, failing?, Except.toOption]

theorem bind_required {k : Option String → Except SettingsFault β} {b : β}
    (absent : k none = .error .noSecret)
    (later : ∀ s, env.given? name = some s →
      k (some s) = settled ((env.firstFault? rest).map Prod.snd) b) :
    (env.text? name >>= k) =
      settled ((env.firstFault? ((name, .required) :: rest)).map Prod.snd) b := by
  cases isSet : env name with
  | none =>
      simp only [text?, firstFault?, fault?, isSet]
      exact absent
  | some bytes =>
      cases text : Text.ofUtf8? bytes with
      | none =>
          simp only [text?, firstFault?, fault?, isSet, text]
          rfl
      | some value =>
          have given : env.given? name = some value := by simp [given?, isSet, text]
          simp only [text?, firstFault?, fault?, isSet, text]
          exact later value given

theorem variables_eq (env : Environment) :
    env.variables = settled ((env.firstFault? forms).map Prod.snd) env.values := by
  have isNumber (most : Nat) : Form.natural most ≠ .required := nofun
  unfold Environment.variables
  refine bind_settled (text_eq _) ?_
  refine bind_settled (number_eq _ (isNumber 65535) (fun _ => rfl) _) ?_
  refine bind_settled (text_eq _) ?_
  refine bind_settled (text_eq _) ?_
  refine bind_settled text?_eq ?_
  refine bind_settled (text_eq _) ?_
  refine bind_settled (number_eq _ (isNumber Text.maxNat64) (fun _ => rfl) _) ?_
  refine bind_required rfl fun secret given => ?_
  simp only [pure_bind]
  refine bind_settled (text_eq _) ?_
  refine bind_settled (text_eq _) ?_
  refine bind_settled (number_eq .integer nofun (fun _ => rfl) _) ?_
  refine bind_settled (number_eq _ (isNumber Text.maxNat64) (fun _ => rfl) _) ?_
  rw [values, given]
  rfl

end Reading
end Environment

/-! ### Two environments -/

/-- The variable that a fault is about, if it is about the value of one. -/
def SettingsFault.variable? : SettingsFault → Option String
  | notText name => some name
  | notNumber name _ _ => some name
  | _ => none

/-- The environments differ at most in variables in whose place a parameter is given. -/
def Arguments.Covers (a : Arguments) (env env' : Environment) : Prop :=
  ∀ name, ¬a.Overrides name → env name = env' name

/-- The first variable with which something is wrong is one in whose place a parameter is given. -/
def Environment.Spoils (env : Environment) (a : Arguments) (fault : SettingsFault) : Prop :=
  ∃ name, a.Overrides name ∧ env.firstFault? Environment.forms = some (name, fault)

section TwoEnvironments

variable {a : Arguments} {env env' : Environment} {name : String} {fault : SettingsFault}
  {l : List (String × Environment.Form)}

namespace Environment

theorem fault?_congr (same : env name = env' name) (form : Form) :
    env.fault? form name = env'.fault? form name := by
  rw [fault?, fault?, same]

theorem given?_congr (same : env name = env' name) : env.given? name = env'.given? name := by
  rw [given?, given?, same]

theorem exists_fault_of_firstFault? (first : env.firstFault? l = some (name, fault)) :
    ∃ form, (name, form) ∈ l ∧ env.fault? form name = some fault := by
  induction l with
  | nil => cases first
  | cons entry rest ih =>
      obtain ⟨name', form⟩ := entry
      rw [firstFault?] at first
      cases met : env.fault? form name' with
      | some fault' =>
          rw [met] at first
          cases first
          exact ⟨form, List.mem_cons_self, met⟩
      | none =>
          rw [met] at first
          obtain ⟨form, mem, met⟩ := ih first
          exact ⟨form, List.mem_cons_of_mem _ mem, met⟩

/-- The first variable with a fault, if there is one, is none in whose place a parameter is
given. -/
def CleanBehind (env : Environment) (a : Arguments) (l : List (String × Form)) : Prop :=
  ∀ name fault, a.Overrides name → env.firstFault? l ≠ some (name, fault)

theorem CleanBehind.head {form : Form} (clean : env.CleanBehind a ((name, form) :: l))
    (overrides : a.Overrides name) : env.fault? form name = none := by
  cases met : env.fault? form name with
  | none => rfl
  | some fault => exact absurd (by rw [firstFault?, met]) (clean name fault overrides)

theorem CleanBehind.tail {form : Form} (clean : env.CleanBehind a ((name, form) :: l))
    (sound : env.fault? form name = none) : env.CleanBehind a l := by
  intro name' fault overrides
  have other := clean name' fault overrides
  rwa [firstFault?, sound] at other

/-- Environments that differ in no variable that counts have the same first fault, unless one that
does not count is first. -/
theorem CleanBehind.firstFault?_eq (covers : a.Covers env env') (clean : env.CleanBehind a l)
    (clean' : env'.CleanBehind a l) : env.firstFault? l = env'.firstFault? l := by
  induction l with
  | nil => rfl
  | cons entry rest ih =>
      obtain ⟨name, form⟩ := entry
      by_cases overrides : a.Overrides name
      · -- The two values may differ, but neither is a fault.
        have sound := clean.head overrides
        have sound' := clean'.head overrides
        rw [firstFault?, firstFault?, sound, sound']
        exact ih (clean.tail sound) (clean'.tail sound')
      · have same := fault?_congr (covers name overrides) form
        rw [firstFault?, firstFault?, ← same]
        cases met : env.fault? form name with
        | some fault => rfl
        | none => exact ih (clean.tail met) (clean'.tail (same ▸ met))

/-- A fault names the variable, unless it is that of a secret that is not there. -/
theorem variable?_of_fault? {form : Form} (met : env.fault? form name = some fault) :
    fault.variable? = some name ∨ fault = .noSecret ∧ form = .required := by
  unfold fault? at met
  split at met
  · split at met
    · next required =>
        cases met
        exact .inr ⟨rfl, required⟩
    · cases met
  · split at met
    · cases met
      exact .inl rfl
    · obtain ⟨why, -, rfl⟩ := Option.map_eq_some_iff.mp met
      exact .inl rfl

end Environment

/-! #### Values -/

theorem Arguments.Parameter.variable_injective : Function.Injective Parameter.variable := by
  intro p p' same
  cases p <;> cases p' <;> first | rfl | exact absurd same (by decide)

theorem Arguments.overrides_variable_iff {p : Parameter} :
    a.Overrides p.variable ↔ a.gives p = true := by
  constructor
  · rintro ⟨p', gives, same⟩
    exact Parameter.variable_injective same ▸ gives
  · exact fun gives => ⟨p, gives, rfl⟩

namespace Settings

theorem ofVariables_values (covers : a.Covers env env') :
    ofVariables a env.values = ofVariables a env'.values := by
  have free (p : Arguments.Parameter) (without : a.gives p = false) :
      env.given? p.variable = env'.given? p.variable := by
    refine Environment.given?_congr (covers _ fun overrides => ?_)
    rw [Arguments.overrides_variable_iff, without] at overrides
    cases overrides
  have shared (name : String) (none : ∀ p : Arguments.Parameter, p.variable ≠ name) :
      env.given? name = env'.given? name :=
    Environment.given?_congr (covers name fun ⟨p, _, same⟩ => none p same)
  have behind {α : Type} {given? : Option α} {x y : α} (same : given?.isSome = false → x = y) :
      given?.getD x = given?.getD y := by
    cases given? with
    | some value => rfl
    | none => exact same rfl
  simp only [ofVariables, Environment.values, Settings.mk.injEq]
  refine ⟨?_, ?_, ?_, ?_, ?_, ?_, ?_, ?_, ?_, ?_, ?_, ?_⟩
  · exact behind fun without => congrArg (Option.getD · _) (free .host without)
  · exact behind fun without =>
      congrArg (fun s => Option.getD (Option.bind s _) _) (free .port without)
  · exact behind fun without => congrArg (Option.getD · _) (free .databaseUrl without)
  · exact behind fun without => congrArg (Option.getD · _) (free .storageDir without)
  · cases url : a.backendUrl with
    | some value => rfl
    | none => exact free .backendUrl (by rw [Arguments.gives, url]; rfl)
  · exact behind fun without => congrArg (Option.getD · _) (free .publicUrl without)
  · rw [shared _ fun p => by cases p <;> decide]
  · rw [shared _ fun p => by cases p <;> decide]
  · exact behind fun without =>
      congrArg (fun s => Option.getD (Option.bind s _) _) (free .tokenSeconds without)
  · rw [shared _ fun p => by cases p <;> decide]
  · rw [shared _ fun p => by cases p <;> decide]
  · rw [shared _ fun p => by cases p <;> decide]

theorem merge_eq (a : Arguments) (env : Environment) :
    merge a env =
      match env.firstFault? Environment.forms with
      | some (_, fault) => .error fault
      | none => check (ofVariables a env.values) := by
  rw [merge, Environment.variables_eq]
  cases env.firstFault? Environment.forms <;> rfl

theorem variable?_of_check {settings : Settings} (failed : settings.check = .error fault) :
    fault.variable? = none := by
  unfold check at failed
  split at failed
  · cases failed
    rfl
  · split at failed
    · cases failed
      rfl
    · cases failed

end Settings

/-- The outcome shows whether a variable in whose place a parameter is given made a difference: it
is a fault that names the variable. -/
theorem Environment.spoils_iff :
    env.Spoils a fault ↔
      Settings.merge a env = .error fault ∧
        ∃ name, a.Overrides name ∧ fault.variable? = some name := by
  rw [Settings.merge_eq]
  constructor
  · rintro ⟨name, overrides, first⟩
    refine ⟨by rw [first], name, overrides, ?_⟩
    obtain ⟨form, mem, met⟩ := exists_fault_of_firstFault? first
    rcases variable?_of_fault? met with names | ⟨-, rfl⟩
    · exact names
    · -- The only variable that has to be there is no parameter's.
      obtain ⟨p, -, rfl⟩ := overrides
      cases p <;> exact absurd mem (by decide)
  · rintro ⟨merged, name, overrides, names⟩
    cases first : env.firstFault? forms with
    | none =>
        rw [first] at merged
        rw [Settings.variable?_of_check merged] at names
        cases names
    | some entry =>
        obtain ⟨name', fault'⟩ := entry
        rw [first] at merged
        cases merged
        obtain ⟨form, -, met⟩ := exists_fault_of_firstFault? first
        rcases variable?_of_fault? met with names' | ⟨rfl, -⟩
        · cases names.symm.trans names'
          exact ⟨name, overrides, first⟩
        · cases names

/-- Nothing is wrong with the variables in whose place a parameter is given: each is unset, or can
be read. -/
def Environment.ReadsBehind (env : Environment) (a : Arguments) : Prop :=
  ∀ name form, a.Overrides name → (name, form) ∈ forms → env.fault? form name = none

theorem Environment.ReadsBehind.not_spoils (reads : env.ReadsBehind a) : ¬env.Spoils a fault := by
  rintro ⟨name, overrides, first⟩
  obtain ⟨form, mem, met⟩ := exists_fault_of_firstFault? first
  rw [reads name form overrides mem] at met
  cases met

/-- **What a parameter is given for matters only where it cannot be read.** Two environments that
differ at most in variables in whose place a parameter is given lead to the same outcome exactly if
the first fault of all variables is the same one of these in both, or in neither one of these. Such
a fault is then the outcome. So while these variables can be read, their values do not matter. -/
theorem arguments_override_iff (covers : a.Covers env env') :
    (Settings.merge a env = Settings.merge a env' ↔
        ∀ fault, env.Spoils a fault ↔ env'.Spoils a fault) ∧
      (∀ fault, env.Spoils a fault → Settings.merge a env = .error fault) ∧
      (env.ReadsBehind a → env'.ReadsBehind a → Settings.merge a env = Settings.merge a env') := by
  have back (same : ∀ fault, env.Spoils a fault ↔ env'.Spoils a fault) :
      Settings.merge a env = Settings.merge a env' := by
    by_cases spoiled : ∃ fault, env.Spoils a fault
    · obtain ⟨fault, spoils⟩ := spoiled
      rw [(Environment.spoils_iff.mp spoils).1,
        (Environment.spoils_iff.mp ((same fault).mp spoils)).1]
    · have clean : env.CleanBehind a Environment.forms := fun name fault overrides first =>
        spoiled ⟨fault, name, overrides, first⟩
      have clean' : env'.CleanBehind a Environment.forms := fun name fault overrides first =>
        spoiled ⟨fault, (same fault).mpr ⟨name, overrides, first⟩⟩
      rw [Settings.merge_eq, Settings.merge_eq, clean.firstFault?_eq covers clean',
        Settings.ofVariables_values covers]
  refine ⟨⟨fun merged fault => ?_, back⟩, fun fault spoils => ?_, fun reads reads' => ?_⟩
  · rw [Environment.spoils_iff, Environment.spoils_iff, merged]
  · exact (Environment.spoils_iff.mp spoils).1
  · exact back fun fault => iff_of_false reads.not_spoils reads'.not_spoils

end TwoEnvironments

/-! ### A port behind a port -/

/-- A command line that says nothing but the port. -/
def Arguments.onPort (port : Nat) : Arguments :=
  { Arguments.empty with port := some port }

/-- An environment in which nothing but a secret and the port is set. -/
def Environment.withPort (value : String) : Environment := fun name =>
  if name = variableStart ++ "PORT" then some (Text.utf8 value) else onlySecret name

theorem Arguments.covers_withPort (port : Nat) (value : String) :
    (onPort port).Covers (.withPort value) .onlySecret := by
  intro name free
  rw [Environment.withPort, if_neg]
  rintro rfl
  exact free ⟨.port, rfl, rfl⟩

theorem arguments_override_iff_port :
    Settings.merge .empty (.withPort "9090") ≠ Settings.merge .empty .onlySecret ∧
      (Arguments.onPort 8080).Covers (.withPort "9090") .onlySecret ∧
      Settings.merge (.onPort 8080) (.withPort "9090") =
        Settings.merge (.onPort 8080) .onlySecret := by
  have covers := Arguments.covers_withPort 8080 "9090"
  have sound : ∀ entry ∈ Environment.forms,
      (Environment.withPort "9090").fault? entry.2 entry.1 = none ∧
        Environment.onlySecret.fault? entry.2 entry.1 = none := by
    decide +kernel
  obtain ⟨-, -, same⟩ := arguments_override_iff covers
  refine ⟨by decide +kernel, covers, same ?_ ?_⟩
  · exact fun name form _ mem => (sound (name, form) mem).1
  · exact fun name form _ mem => (sound (name, form) mem).2

/-- A port that is no number keeps the settings from coming together, though another is given. -/
theorem not_arguments_override :
    (Arguments.onPort 8080).Covers (.withPort "http") .onlySecret ∧
      Settings.merge (.onPort 8080) (.withPort "http") =
        .error (.notNumber "OBJECT_STORE_PORT" "http" .badDigit) ∧
      Settings.merge (.onPort 8080) .onlySecret =
        .ok (Settings.ofVariables (.onPort 8080) .onlySecret) :=
  ⟨Arguments.covers_withPort 8080 "http", by decide +kernel, by decide +kernel⟩

end ContentStore
