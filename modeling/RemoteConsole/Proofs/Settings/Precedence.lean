import RemoteConsole.Program.Preparation
import RemoteConsole.Proofs.Toml.Records

/-!
# Where settings come from

Every setting has its own sources, and the first of them that has a value gives
it: the flag of the command line, the variable, the document, and the standard
value. In the document it is the key of the setting that counts; but a section
can also be written as a list of values without keys, which are then taken in
the order of the settings.

* `Sources`, `Sources.value` — the sources of a setting and the value that they
  give.
* `Settings.FromSources` — settings each of which comes from its own sources.
* `Invocation.effective_fromSources` — where the settings of a run come from.
-/

namespace RemoteConsole

open Toml (Decoder Entries Fault)
open Toml.Decoder (Stands Takes record_takes)

/-! ## Sources -/

/-- Where the value of a setting can come from. -/
structure Sources (α : Type) where
  /-- The value of its flag. -/
  flag : Option α := none
  /-- The value of its variable. -/
  env : Option α := none
  /-- What stands under its key. -/
  key : Option Toml.Node
  /-- What stands at its place, where no keys are written. -/
  item : Option Toml.Node
  /-- How it is written. -/
  decode : Decoder α
  /-- What it is otherwise. -/
  standard : α

namespace Sources

variable {α : Type}

/-- The value of the first source that has one. -/
def value (s : Sources α) : Except Fault α :=
  match s.flag, s.env, s.key, s.item with
  | some flag, _, _, _ => .ok flag
  | none, some text, _, _ => .ok text
  | none, none, some node, _ => s.decode node
  | none, none, none, some node => s.decode node
  | none, none, none, none => .ok s.standard

/-- The sources of a setting in a document: its key in a section, and its place,
if sections may be lists. -/
def written (asLists : Bool) (es : Entries) (title name : String) (place : Nat) (decode : Decoder α)
    (standard : α) : Sources α where
  key := (Entries.last? es title).bind (·.key? name)
  item := if asLists then (Entries.last? es title).bind (·.item? place) else none
  decode := decode
  standard := standard

/-- Where a document gives a value, the variable and the flag come before it. -/
theorem value_eq_ok {s : Sources α} {a : α} (h : Takes s.decode (s.key.or s.item) s.standard a) :
    s.value = .ok (s.flag.getD (s.env.getD a)) := by
  obtain ⟨flag, env, key, item, decode, standard⟩ := s
  -- the sources in their order, and the first one that is there decides
  cases flag with
  | some flag => rfl
  | none =>
    cases env with
    | some text => rfl
    | none =>
      cases key with
      | some node => exact h
      | none =>
        cases item with
        | some node => exact h
        | none => exact congrArg Except.ok (Eq.symm h)

/-- A flag that is a switch. -/
theorem value_eq_ok_ite {s : Sources α} {a flag : α} {isOn : Bool} (hFlag : s.flag = if isOn then some flag else none)
    (h : Takes s.decode (s.key.or s.item) s.standard a) :
    s.value = .ok (if isOn then flag else s.env.getD a) := by
  rw [value_eq_ok h, hFlag]
  cases isOn <;> rfl

end Sources

/-- The name of a scheme. -/
def Connection.schemeDecoder : Decoder AuthScheme :=
  .alternative AuthScheme.ofText? AuthScheme.standard.text AuthScheme.legacy.text

/-- Settings each of which comes from its own sources; if `asLists`, sections of
the document may be lists. -/
structure Settings.FromSources (asLists : Bool) (i : Invocation) (env : Environment) (es : Entries)
    (s : Settings) : Prop where
  host : s.connection.host = i.host
  port : Sources.value
      { Sources.written asLists es "connection" "port" 1 Connection.portDecoder 8080 with flag := i.port } =
    .ok s.connection.port
  context : Sources.value
      { Sources.written asLists es "connection" "context" 2 Decoder.string "geoserver" with flag := i.context } =
    .ok s.connection.context
  user : Sources.value
      { Sources.written asLists es "connection" "user" 3 Decoder.string "admin" with flag := i.user } =
    .ok s.connection.user
  password : Sources.value
      { Sources.written asLists es "connection" "password" 4 Decoder.string "geoserver" with
        flag := i.password, env := Environment.nonEmpty env.password } =
    .ok s.connection.password
  scheme : Sources.value
      { Sources.written asLists es "connection" "auth_scheme" 5 Connection.schemeDecoder .standard with
        flag := if i.legacyAuth then some .legacy else none } =
    .ok s.connection.scheme
  timeout : Sources.value (Sources.written asLists es "connection" "connect_timeout_secs" 6
      (fun node => (Connection.timeoutDecoder node).map some) none) =
    .ok s.connection.timeout
  first : Sources.value (Sources.written asLists es "console" "prompt" 0 Decoder.string ">>> ") =
    .ok s.prompts.first
  continuation : Sources.value
      (Sources.written asLists es "console" "continuation_prompt" 1 Decoder.string "... ") =
    .ok s.prompts.continuation
  level : Sources.value
      { Sources.written asLists es "logging" "level" 0 Decoder.string "warn" with
        flag := if i.verbose then some "debug" else none, env := Environment.nonEmpty env.logLevel } =
    .ok s.logging.level
  file : Sources.value (Sources.written asLists es "logging" "file" 1
      (fun node => (Decoder.text "path string" node).map some) none) =
    .ok s.logging.file

/-! ## Documents -/

/-- The entries of a document, none of which are there if it is missing. -/
def Lookup.entries? : Lookup → Option Entries
  | missing => some []
  | unreadable _ => none
  | text document => Toml.parse? document

/-- No section of settings is written as a list that has items. -/
def Toml.Entries.Keyed (es : Entries) : Prop :=
  ∀ title ∈ ["connection", "console", "logging"], ∀ node ∈ Entries.last? es title, node.items.isEmpty = true

instance (es : Entries) : Decidable (Toml.Entries.Keyed es) :=
  inferInstanceAs (Decidable (∀ title ∈ ["connection", "console", "logging"], ∀ node ∈ Entries.last? es title,
    node.items.isEmpty = true))

/-- Settings that are loaded come from the entries of a document, which are none
if the file is missing. -/
theorem Settings.exists_entries_of_load {path : String} {document : Lookup} {d : Settings}
    (h : Settings.load path document = .ok d) :
    ∃ es, document.entries? = some es ∧ Settings.decoder (.table {} es) = .ok d := by
  cases document with
  | missing =>
    obtain rfl := Except.ok.inj h
    exact ⟨[], rfl, rfl⟩
  | unreadable reason => cases h
  | text document =>
    change (Settings.ofDocument document).mapError _ = .ok d at h
    unfold Settings.ofDocument at h
    cases hParse : Toml.parse? document with
    | none =>
      rw [hParse] at h
      cases h
    | some es =>
      rw [hParse] at h
      dsimp only at h
      refine ⟨es, hParse, ?_⟩
      cases hDecode : Settings.decoder (.table {} es) with
      | error fault =>
        rw [hDecode] at h
        cases h
      | ok s =>
        rw [hDecode] at h
        exact congrArg Except.ok (Except.ok.inj h)

/-! ## From the document to the settings of a run -/

namespace Settings

variable {es : Entries} {asLists : Bool} {d : Settings}

/-- A setting that stands at a place of its section has the value that is
written there. -/
theorem takes_written {α γ : Type} {fields : List (Toml.Decoder.Field α)} {kind title name : String} {place : Nat}
    {usual a : α} {decode : Decoder γ} (get : α → γ)
    (hSection : Takes (Decoder.record kind fields usual) (Entries.last? es title) usual a)
    (hKeyed : asLists = true ∨ ∀ node ∈ Entries.last? es title, node.items.isEmpty = true)
    (hStands : Stands fields name place decode get) :
    Takes decode
      ((Sources.written asLists es title name place decode (get usual)).key.or
        (Sources.written asLists es title name place decode (get usual)).item)
      (get usual) (get a) := by
  have hTakes := hSection.field fun node b h => record_takes get hStands h
  -- where no section is a list, nothing stands at a place of one
  have hWritten : (Entries.last? es title).bind (·.field? name place) =
      ((Entries.last? es title).bind (·.key? name)).or
        (if asLists then (Entries.last? es title).bind (·.item? place) else none) := by
    cases hLast : Entries.last? es title with
    | none => cases asLists <;> rfl
    | some node =>
      rcases hKeyed with hLists | hKeyed
      · rw [if_pos hLists]
        rfl
      · have hItems : node.items = [] := List.isEmpty_iff.mp (hKeyed node hLast)
        cases asLists <;> simp [Toml.Node.field?, Toml.Node.item?, hItems]
  rwa [hWritten] at hTakes

/-- What is effective of decoded settings comes from its sources. Each field
stands at its place in its section, and its value there is the one that
`takes_written` finds; the cases differ in the flag, the variable and the
decoder. -/
theorem fromSources_of_decoder (h : Settings.decoder (.table {} es) = .ok d) (i : Invocation) (env : Environment)
    (hKeyed : asLists = true ∨ Toml.Entries.Keyed es) : FromSources asLists i env es (i.effective env d) := by
  -- the document is a table, so that its sections stand under their keys
  have hRoot : ∀ name place, (Toml.Node.table {} es).field? name place = Entries.last? es name :=
    fun _ _ => Option.or_none
  have hConnection : Takes Connection.decoder (Entries.last? es "connection") {} d.connection :=
    hRoot "connection" 0 ▸ record_takes Settings.connection (.holding rfl (fun _ _ _ h => h) (by simp)) h
  have hPrompts : Takes Prompts.decoder (Entries.last? es "console") {} d.prompts :=
    hRoot "console" 1 ▸ record_takes Settings.prompts (.holding rfl (fun _ _ _ h => h) (by simp)) h
  have hLogging : Takes Logging.decoder (Entries.last? es "logging") {} d.logging :=
    hRoot "logging" 2 ▸ record_takes Settings.logging (.holding rfl (fun _ _ _ h => h) (by simp)) h
  -- a section that is no list has its fields under their keys
  have hConnectionKeyed := hKeyed.imp_right fun h => h "connection" (by decide)
  have hPromptsKeyed := hKeyed.imp_right fun h => h "console" (by decide)
  have hLoggingKeyed := hKeyed.imp_right fun h => h "logging" (by decide)
  constructor
  case host => rfl
  case port =>
    exact Sources.value_eq_ok (takes_written Connection.port hConnection hConnectionKeyed
      (.holding rfl (fun _ _ _ h => h) (by simp)))
  case context =>
    exact Sources.value_eq_ok (takes_written Connection.context hConnection hConnectionKeyed
      (.holding rfl (fun _ _ _ h => h) (by simp)))
  case user =>
    exact Sources.value_eq_ok (takes_written Connection.user hConnection hConnectionKeyed
      (.holding rfl (fun _ _ _ h => h) (by simp)))
  case password =>
    exact Sources.value_eq_ok (takes_written Connection.password hConnection hConnectionKeyed
      (.holding rfl (fun _ _ _ h => h) (by simp)))
  case scheme =>
    exact Sources.value_eq_ok_ite rfl (takes_written Connection.scheme hConnection hConnectionKeyed
      (.holding rfl (fun _ _ _ h => h) (by simp)))
  case timeout =>
    exact Sources.value_eq_ok (takes_written Connection.timeout hConnection hConnectionKeyed
      (.holding rfl (fun _ _ _ h => congrArg (Except.map some) h) (by simp)))
  case first =>
    exact Sources.value_eq_ok (takes_written Prompts.first hPrompts hPromptsKeyed
      (.holding rfl (fun _ _ _ h => h) (by simp)))
  case continuation =>
    exact Sources.value_eq_ok (takes_written Prompts.continuation hPrompts hPromptsKeyed
      (.holding rfl (fun _ _ _ h => h) (by simp)))
  case level =>
    exact Sources.value_eq_ok_ite rfl (takes_written Logging.level hLogging hLoggingKeyed
      (.holding rfl (fun _ _ _ h => h) (by simp)))
  case file =>
    exact Sources.value_eq_ok (takes_written Logging.file hLogging hLoggingKeyed
      (.holding rfl (fun _ _ _ h => congrArg (Except.map some) h) (by simp)))

end Settings

/-- **Where settings come from.** Behind a document, the variables and a command
line, every setting has the value of its own first source, where sections may be
lists; and of its flag, its variable, its key or the standard value where no
section is one. The authorization value and the addresses of requests are those
of these settings. -/
theorem Invocation.effective_fromSources {path : String} {document : Lookup} {d : Settings}
    (h : Settings.load path document = .ok d) (i : Invocation) (env : Environment) :
    ∃ es, document.entries? = some es ∧
      Settings.FromSources true i env es (i.effective env d) ∧
      (Toml.Entries.Keyed es → Settings.FromSources false i env es (i.effective env d)) ∧
      (let c := (i.effective env d).connection;
        c.endpoint.authorization = Credentials.authorization ⟨c.user, c.password⟩ c.scheme ∧
        ∀ route, c.endpoint.url route =
          "http://" ++ c.host ++ ":" ++ toString c.port.toNat ++ Route.root c.context ++
            String.ofList (route.toList.dropWhile (· == '/'))) := by
  obtain ⟨es, hEntries, hDecode⟩ := Settings.exists_entries_of_load h
  exact ⟨es, hEntries, Settings.fromSources_of_decoder hDecode i env (.inl rfl),
    fun hKeyed => Settings.fromSources_of_decoder hDecode i env (.inr hKeyed), rfl, fun _ => rfl⟩

/-- A key counts where neither flag nor variable has a value, an empty variable
has none, and a flag comes first. -/
theorem Invocation.effective_fromSources_of_table :
    let text := "[connection]\nport = 9000\npassword = \"p\"\nuser = \"u\"\n"
    let i : Invocation := { host := "h", user := some "v" }
    let env : Environment := { password := some "", logLevel := some "info" }
    let s : Settings := {
      connection := { host := "h", port := 9000, user := "v", password := "p" }
      logging := { level := "info" } }
    ∃ es, Toml.parse? text = some es ∧ Toml.Entries.Keyed es ∧ Settings.FromSources false i env es s := by
  intro text i env s
  have hLoad : Settings.load "config.toml" (.text text) =
      .ok { connection := { port := 9000, password := "p", user := "u" } } := by decide +kernel
  -- none of the sections of this document is a list
  have hDocument : (Toml.parse? text).map (fun es => decide (Toml.Entries.Keyed es)) = some true := by
    decide +kernel
  obtain ⟨es, hEntries, -, hSources, -⟩ := Invocation.effective_fromSources hLoad i env
  have hParse : Toml.parse? text = some es := hEntries
  rw [hParse, Option.map_some, Option.some.injEq, decide_eq_true_eq] at hDocument
  exact ⟨es, hParse, hDocument, hSources hDocument⟩

/-- A list gives a user although there is no key for it. -/
theorem Invocation.not_fromSources_of_list :
    let text := "connection = [\"h\", 1, \"geoserver\", \"bob\"]\n"
    let i : Invocation := { host := "127.0.0.1", port := some 9000, config := some "c.toml" }
    ∃ es d, Toml.parse? text = some es ∧ Settings.load "c.toml" (.text text) = .ok d ∧
      ¬ Settings.FromSources false i {} es (i.effective {} d) := by
  intro text i
  have hLoad : Settings.load "c.toml" (.text text) =
      .ok { connection := { host := "h", port := 1, user := "bob" } } := by decide +kernel
  -- by its keys the document would leave the user as it is usually
  have hStandard : (Toml.parse? text).map (fun es =>
      (Sources.written false es "connection" "user" 3 Decoder.string "admin").value) = some (.ok "admin") := by
    decide +kernel
  obtain ⟨es, hParse, hValue⟩ := Option.map_eq_some_iff.mp hStandard
  refine ⟨es, _, hParse, hLoad, fun h => ?_⟩
  exact absurd (hValue.symm.trans h.user) (by decide)

end RemoteConsole
