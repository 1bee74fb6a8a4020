import BrokerMonitor.Proofs.CommandLine.Mentions
import BrokerMonitor.Settings.Resolve
/-!
# Which source a setting comes from

A setting can be given by an option, by variables and by the settings file, and the first of them
that is there counts. The command line reads some variables as plain text, under exactly their
names, and the settings read some of them once more as values of any kind, in whatever spelling of
the name; each setting has its own chain through the two.
-/

namespace BrokerMonitor

/-! ### Single settings -/

namespace Settings

variable {α : Type}

/-- The value of a variable for a setting, if it fits. -/
def ofVariable? (read : Raw → Except Raw.Misfit α) (text : String) : Option α :=
  (read (Variable.read text)).toOption

/-- The value in a file for a setting, if it fits. -/
def ofFile? (read : Raw → Except Raw.Misfit α) (v : Toml.Value) : Option α :=
  (read (.ofToml v)).toOption

theorem exists_of_toOption {ε : Type} {x : Except ε α} (h : x.toOption.isSome) :
    ∃ a, x = .ok a := by
  cases x with
  | ok a => exact ⟨a, rfl⟩
  | error e => cases h

/-- A setting whose values fit comes from the variable, or else from the file. -/
theorem get?_eq {read : Raw → Except Raw.Misfit α} {file : Toml.Entries} {env : Environment}
    {key : String} (hvariable : ∀ text ∈ env.setting key, (ofVariable? read text).isSome)
    (hfile : ∀ v ∈ file.lookup key, (ofFile? read v).isSome) :
    get? read file env key =
      .ok ((env.setting key).bind (ofVariable? read) <|>
        (file.lookup key).bind (ofFile? read)) := by
  rw [get?, find]
  cases htext : env.setting key with
  | some text =>
      obtain ⟨a, ha⟩ := exists_of_toOption (hvariable text htext)
      simp [ofVariable?, ha, Except.toOption]
  | none =>
      cases hv : file.lookup key with
      | none => rfl
      | some v =>
          obtain ⟨a, ha⟩ := exists_of_toOption (hfile v hv)
          simp [ofFile?, ha, Except.toOption]

/-- The entries of the settings file; a file that is missing has none. -/
def entries? : Option String → Option Toml.Entries
  | none => some []
  | some text => Toml.parse text

theorem load_eq (file : Option String) (env : Environment) :
    load file env =
      match entries? file with
      | some entries => ofEntries entries env
      | none => .error (.config none) := by
  cases file with
  | none => rfl
  | some text => rfl

theorem entries?_empty : entries? (some "") = some [] := rfl

/-- A file that is missing is as one with nothing in it. -/
theorem load_none (env : Environment) : load none env = load (some "") env := by
  rw [load_eq, load_eq, entries?_empty]
  rfl

/-- The output format that a setting names, in any case of letters. -/
def formatOf? (text : String) : Option OutputFormat := OutputFormat.ofName? text.toLower

/-- The variables that stand for settings have values that fit these settings. -/
structure SuitedByVariables (env : Environment) : Prop where
  url : ∀ text ∈ env.setting "url", (ofVariable? Raw.asText text).isSome
  output : ∀ text ∈ env.setting "output", ((ofVariable? Raw.asText text).bind formatOf?).isSome
  adapterHz : ∀ text ∈ env.setting "adapter_hz", (ofVariable? Raw.asWord32 text).isSome
  connectTimeout : ∀ text ∈ env.setting "connect_timeout",
    (ofVariable? Raw.asWord64 text).isSome
  tcpKeepalive : ∀ text ∈ env.setting "tcp_keepalive", (ofVariable? Raw.asWord64 text).isSome

/-- The entries of a file have values that fit their settings. -/
structure SuitedByFile (entries : Toml.Entries) : Prop where
  url : ∀ v ∈ entries.lookup "url", (ofFile? Raw.asText v).isSome
  output : ∀ v ∈ entries.lookup "output", ((ofFile? Raw.asText v).bind formatOf?).isSome
  adapterHz : ∀ v ∈ entries.lookup "adapter_hz", (ofFile? Raw.asWord32 v).isSome
  connectTimeout : ∀ v ∈ entries.lookup "connect_timeout", (ofFile? Raw.asWord64 v).isSome
  tcpKeepalive : ∀ v ∈ entries.lookup "tcp_keepalive", (ofFile? Raw.asWord64 v).isSome

/-- A setting that fits where it is given comes from the variable, or else from the file. -/
def first? (read : Raw → Except Raw.Misfit α) (entries : Toml.Entries) (env : Environment)
    (key : String) : Option α :=
  (env.setting key).bind (ofVariable? read) <|> (entries.lookup key).bind (ofFile? read)

/-- The settings of variables and a file whose values fit: the variables count first. -/
def ofFirst (entries : Toml.Entries) (env : Environment) : Settings where
  url := (first? Raw.asText entries env "url").getD "http://localhost:5050"
  adapterHz := first? Raw.asWord32 entries env "adapter_hz"
  connectTimeout := first? Raw.asWord64 entries env "connect_timeout"
  tcpKeepalive := first? Raw.asWord64 entries env "tcp_keepalive"
  output := (first? Raw.asText entries env "output").getD "table"

theorem ofEntries_eq {entries : Toml.Entries} {env : Environment} (henv : SuitedByVariables env)
    (hfile : SuitedByFile entries) : ofEntries entries env = .ok (ofFirst entries env) := by
  have houtput := get?_eq (fun text h => Option.isSome_of_isSome_bind (henv.output text h))
    (fun v h => Option.isSome_of_isSome_bind (hfile.output v h))
  rw [ofEntries, houtput, get?_eq henv.adapterHz hfile.adapterHz,
    get?_eq henv.connectTimeout hfile.connectTimeout, get?_eq henv.tcpKeepalive hfile.tcpKeepalive,
    get?_eq henv.url hfile.url]
  rfl

/-- The format of the settings is the one that the variable names, or else the file, in any case of
letters. -/
theorem formatOf?_ofFirst {entries : Toml.Entries} {env : Environment}
    (henv : SuitedByVariables env) (hfile : SuitedByFile entries) :
    formatOf? (ofFirst entries env).output =
      some (((env.setting "output").bind (fun text => (ofVariable? Raw.asText text).bind formatOf?)
        <|> (entries.lookup "output").bind fun v => (ofFile? Raw.asText v).bind formatOf?).getD
          .table) := by
  have htable : formatOf? "table" = some .table := by decide +kernel
  simp only [ofFirst, first?]
  cases htext : env.setting "output" with
  | some text =>
      obtain ⟨f, hf⟩ := Option.isSome_iff_exists.mp (henv.output text htext)
      obtain ⟨name, hname, hformat⟩ := Option.bind_eq_some_iff.mp hf
      simp [hname, hformat]
  | none =>
      cases hv : entries.lookup "output" with
      | none => exact htable
      | some v =>
          obtain ⟨f, hf⟩ := Option.isSome_iff_exists.mp (hfile.output v hv)
          obtain ⟨name, hname, hformat⟩ := Option.bind_eq_some_iff.mp hf
          simp [hname, hformat]

end Settings

/-! ### All sources -/

namespace CommandLine

/-- The settings that words, variables and a file amount to, if the words are a command line, the
settings load and all values fit. -/
def settle (words : List String) (env : Environment) (file : Option String) : Option Resolved := do
  let o ← (parse words env).toOption
  let s ← (Settings.load file env).toOption
  (s.resolve o).toOption

theorem settle_eq {words : List String} {env : Environment} {file : Option String} {o : Options}
    {s : Settings} (hparse : (parse words env).toOption = some o)
    (hload : Settings.load file env = .ok s) :
    settle words env file = (s.resolve o).toOption := by
  simp only [settle, hparse, hload]
  rfl

/-- The variables that options fall back on, without their scope. -/
def optionNames : List String := ["URL", "HZ", "CONFIG", "OUTPUT"]

/-- The settings, by their keys in a file and by their variables. -/
def keys : List String := ["url", "output", "adapter_hz", "connect_timeout", "tcp_keepalive"]

/-- The names under which a variable has a say in what is settled: exactly as an option has it, or a
spelling of a setting's. -/
def ownNames : List VariableName :=
  optionNames.map (fun name => .exact (Environment.scope ++ name)) ++
    keys.map fun key => .anyCase (Environment.scope ++ key)

theorem own_congr {env env' : Environment} (h : ∀ name ∈ ownNames, env' name = env name)
    {name : String} (hname : name ∈ optionNames) : env'.own name = env.own name :=
  h _ (List.mem_append_left _ (List.mem_map_of_mem hname))

theorem setting_congr {env env' : Environment} (h : ∀ name ∈ ownNames, env' name = env name)
    {key : String} (hkey : key ∈ keys) : env'.setting key = env.setting key :=
  h _ (List.mem_append_right _ (List.mem_map_of_mem hkey))

theorem parse_congr {env env' : Environment}
    (h : ∀ name ∈ optionNames, env'.own name = env.own name) (words : List String) :
    parse words env' = parse words env := by
  have hgiven : ∀ g : Given, g.fromEnvironment env' = g.fromEnvironment env := fun g => by
    rw [Given.fromEnvironment_eq_bind, Given.fromEnvironment_eq_bind, h "URL" (by decide),
      h "HZ" (by decide), h "CONFIG" (by decide), h "OUTPUT" (by decide)]
  simp only [parse, hgiven]

end CommandLine

namespace Settings

theorem get?_congr {α : Type} {read : Raw → Except Raw.Misfit α} {file file' : Toml.Entries}
    {env env' : Environment} {key : String} (henv : env'.setting key = env.setting key)
    (hfile : file'.lookup key = file.lookup key) :
    get? read file' env' key = get? read file env key := by
  rw [get?, get?, find, find, henv, hfile]

theorem ofEntries_congr {entries entries' : Toml.Entries} {env env' : Environment}
    (henv : ∀ key ∈ CommandLine.keys, env'.setting key = env.setting key)
    (hfile : ∀ key ∈ CommandLine.keys, entries'.lookup key = entries.lookup key) :
    ofEntries entries' env' = ofEntries entries env := by
  have hget : ∀ {α : Type} (read : Raw → Except Raw.Misfit α), ∀ key ∈ CommandLine.keys,
      get? read entries' env' key = get? read entries env key :=
    fun read key hkey => get?_congr (henv key hkey) (hfile key hkey)
  simp only [ofEntries, hget _ _ (show "adapter_hz" ∈ CommandLine.keys by decide),
    hget _ _ (show "connect_timeout" ∈ CommandLine.keys by decide),
    hget _ _ (show "output" ∈ CommandLine.keys by decide),
    hget _ _ (show "tcp_keepalive" ∈ CommandLine.keys by decide),
    hget _ _ (show "url" ∈ CommandLine.keys by decide)]

end Settings

namespace CommandLine

open Settings (Raw ofVariable? ofFile? formatOf? entries?)

/-- The value that an option is given: after the command, or else before it. -/
def option? (before after : List Mention) (f : Flag) : Option String :=
  value? after f <|> value? before f

theorem accepts_of_value? {mentions : List Mention} (h : AreSuitable mentions) {f : Flag}
    {text : String} (hvalue : value? mentions f = some text) : f.Accepts text := by
  obtain ⟨⟨f', text'⟩, hm, hif⟩ := List.exists_of_findSome?_eq_some hvalue
  split at hif
  · next heq =>
      cases heq
      exact h.accepted _ hm text hif
  · cases hif

/-- Of two places, the first that has a value gives what is read from it. -/
theorem bind_orElse {α β : Type} {a b : Option α} {read : α → Option β}
    (h : ∀ x ∈ a, (read x).isSome) : (a <|> b).bind read = (a.bind read <|> b.bind read) := by
  cases a with
  | none => simp
  | some x =>
      obtain ⟨y, hy⟩ := Option.isSome_iff_exists.mp (h x rfl)
      simp [hy]

/-- The value of an option is read from the place where it is first given, or else from its
variable. -/
theorem option?_bind {before after : List Mention} (hbefore : AreSuitable before)
    (hafter : AreSuitable after) {α : Type} (f : Flag) (read : String → Option α)
    (haccepts : ∀ text, f.Accepts text → (read text).isSome) (found? : Option String) :
    (option? before after f <|> found?).bind read =
      (((value? after f).bind read <|> (value? before f).bind read) <|> found?.bind read) := by
  have hplace : ∀ mentions, AreSuitable mentions → ∀ text ∈ value? mentions f, (read text).isSome :=
    fun mentions h text htext => haccepts text (accepts_of_value? h htext)
  have hoption : ∀ text ∈ option? before after f, (read text).isSome := by
    intro text htext
    rw [option?] at htext
    cases hvalue : value? after f with
    | some text' =>
        rw [hvalue] at htext
        cases htext
        exact hplace after hafter text hvalue
    | none =>
        rw [hvalue] at htext
        exact hplace before hbefore text htext
  rw [bind_orElse hoption, option?, bind_orElse (hplace after hafter)]

/-- A format that is given hides the one in the settings, which is a name in any case of letters. -/
theorem resolve_eq {o : Options} {s : Settings} {format : OutputFormat}
    (h : o.output = none → formatOf? s.output = some format) :
    (s.resolve o).toOption = some {
      url := o.url.getD s.url
      output := o.output.getD format
      adapterHz := o.hz <|> s.adapterHz
      connectTimeout := o.connectTimeout <|> s.connectTimeout
      tcpKeepalive := s.tcpKeepalive } := by
  cases houtput : o.output with
  | some f =>
      simp [Settings.resolve, houtput, bind, Except.bind, pure, Except.pure, Except.toOption]
  | none =>
      have hformat : OutputFormat.ofName? s.output.toLower = some format := h houtput
      simp [Settings.resolve, houtput, OutputFormat.ofSetting, hformat, bind, Except.bind, pure,
        Except.pure, Except.toOption]

/-- Variables for which no name stands do not matter to any of the names. -/
theorem ofList_congr_of_mem {names : List VariableName} {vars vars' : List (String × String)}
    (h : vars'.filter (fun v => names.any (·.means v.1)) =
      vars.filter fun v => names.any (·.means v.1)) {name : VariableName} (hname : name ∈ names) :
    Environment.ofList vars' name = Environment.ofList vars name := by
  have hmeant : ∀ vs : List (String × String), vs.filter (name.means ·.1) =
      (vs.filter fun v => names.any (·.means v.1)).filter (name.means ·.1) := by
    intro vs
    rw [List.filter_filter]
    refine List.filter_congr fun v _ => ?_
    cases hmeans : name.means v.1 with
    | false => rfl
    | true => simpa using ⟨name, hname, hmeans⟩
  refine Environment.ofList_congr ?_
  rw [hmeant vars', hmeant vars, h]

/-- Each setting comes from the first of its sources that is there: the option, wherever it stands,
the variable that the option falls back on, the variable of the setting, the settings file, and what
is built in. The variable of an option has exactly its name. That of a setting has its name in any
case of letters, so it may be the same variable once more, or another spelling of its name.

The options may be spelled in any way and stand before and after the command. The values that are
there fit their settings, also those that do not count. A file that is missing is as an empty one,
and nothing but these options, variables and keys has a say: of the variables that are set, only
those matter that have one of these names. -/
theorem settings_come_from_their_first_source {before after : List String}
    {mentions mentions' : List Mention} {name : String} {c : Command} {env : Environment}
    {file : Option String} {entries : Toml.Entries}
    (hbefore : Spells .program before mentions) (hsuitable : AreSuitable mentions)
    (hname : Command.ofName? name = some c)
    (hafter : Spells (.command c) after mentions') (hsuitable' : AreSuitable mentions')
    (hoptions : env.SuitsOptions) (hsettings : Settings.SuitedByVariables env)
    (hentries : entries? file = some entries) (hfile : Settings.SuitedByFile entries) :
    settle (before ++ name :: after) env file = some {
      url :=
        (option? mentions mentions' .url <|> env.own "URL" <|>
          (env.setting "url").bind (ofVariable? Raw.asText) <|>
          (entries.lookup "url").bind (ofFile? Raw.asText)).getD "http://localhost:5050"
      output :=
        ((option? mentions mentions' .output <|> env.own "OUTPUT").bind OutputFormat.ofName? <|>
          (env.setting "output").bind (fun text => (ofVariable? Raw.asText text).bind formatOf?) <|>
          (entries.lookup "output").bind fun v => (ofFile? Raw.asText v).bind formatOf?).getD .table
      adapterHz :=
        (option? mentions mentions' .hz <|> env.own "HZ").bind Text.word32? <|>
          (env.setting "adapter_hz").bind (ofVariable? Raw.asWord32) <|>
          (entries.lookup "adapter_hz").bind (ofFile? Raw.asWord32)
      connectTimeout :=
        (option? mentions mentions' .connectTimeout).bind Text.word64? <|>
          (env.setting "connect_timeout").bind (ofVariable? Raw.asWord64) <|>
          (entries.lookup "connect_timeout").bind (ofFile? Raw.asWord64)
      tcpKeepalive :=
        (env.setting "tcp_keepalive").bind (ofVariable? Raw.asWord64) <|>
          (entries.lookup "tcp_keepalive").bind (ofFile? Raw.asWord64) } ∧
    (∀ words, settle words env none = settle words env (some "")) ∧
    (∀ (words : List String) (env' : Environment) (file' : Option String) (entries' : Toml.Entries),
      (∀ name ∈ ownNames, env' name = env name) → entries? file' = some entries' →
      (∀ key ∈ keys, entries'.lookup key = entries.lookup key) →
      settle words env' file' = settle words env file) ∧
    ∀ (words : List String) (vars vars' : List (String × String)),
      vars'.filter (fun v => ownNames.any (·.means v.1)) =
        vars.filter (fun v => ownNames.any (·.means v.1)) →
      settle words (.ofList vars') file = settle words (.ofList vars) file := by
  have hothers : ∀ (words : List String) (env env' : Environment) (file' : Option String)
      (entries' : Toml.Entries), (∀ name ∈ ownNames, env' name = env name) →
      entries? file' = some entries' →
      (∀ key ∈ keys, entries'.lookup key = entries.lookup key) →
      settle words env' file' = settle words env file := by
    intro words env env' file' entries' henv hentries' hkeys
    simp only [settle, parse_congr fun _ => own_congr henv, Settings.load_eq, hentries, hentries',
      Settings.ofEntries_congr (fun _ => setting_congr henv) hkeys]
  refine ⟨?_, fun words => ?_, fun words => hothers words env, fun words vars vars' h => ?_⟩
  · let p : Places := ⟨c, .ofMentions mentions, .ofMentions mentions'⟩
    let o := p.options env
    have hparse : (parse (before ++ name :: after) env).toOption = some o :=
      toOption_parse_of_takes (places?_spelled hbefore hsuitable hname hafter hsuitable')
        ⟨Given.takes_of_suitsOptions hoptions _, Given.takes_of_suitsOptions hoptions _⟩
    have hload : Settings.load file env = .ok (Settings.ofFirst entries env) := by
      rw [Settings.load_eq, hentries]
      exact Settings.ofEntries_eq hsettings hfile
    have houtput : o.output =
        (option? mentions mentions' .output <|> env.own "OUTPUT").bind OutputFormat.ofName? :=
      (option?_bind hsuitable hsuitable' .output _ (fun _ h => h) _).symm
    have hhz : o.hz = (option? mentions mentions' .hz <|> env.own "HZ").bind Text.word32? :=
      (option?_bind hsuitable hsuitable' .hz _ (fun _ h => h) _).symm
    have htimeout : o.connectTimeout =
        (option? mentions mentions' .connectTimeout <|> none).bind Text.word64? :=
      (option?_bind hsuitable hsuitable' .connectTimeout _ (fun _ h => h) none).symm
    have hurl : o.url = (option? mentions mentions' .url <|> env.own "URL") := rfl
    rw [settle_eq hparse hload,
      resolve_eq fun _ => Settings.formatOf?_ofFirst hsettings hfile, hurl, hhz, houtput, htimeout]
    simp [Settings.ofFirst, Settings.first?]
  · simp only [settle, Settings.load_none]
  · exact hothers words _ _ file entries (fun _ hname => ofList_congr_of_mem h hname) hentries
      fun _ _ => rfl

/-- Every chain ends somewhere else: an option before the command, options after it, a variable that
hides the file, and one that does so in small letters. -/
theorem settings_come_from_sources_of_every_kind :
    settle ["-qu", "http://a", "status", "-o", "json", "--hz=7"]
        (.ofList [("VICTORY_ADMIN_CONNECT_TIMEOUT", "3"), ("victory_admin_tcp_keepalive", "60")])
        (some "url = \"http://c\"\nconnect_timeout = 5\ntcp_keepalive = 30\n") =
      some ⟨"http://a", .json, some 7, some 3, some 60⟩ := by
  have hbefore : Spells .program ["-qu", "http://a"] [(.quiet, none), (.url, some "http://a")] :=
    .lettersNext (.switch (f := .quiet) (by decide) rfl rfl (.next (by decide) rfl rfl))
      (by rintro c rest ⟨⟩) .nil
  have hafter : Spells (.command .status) ["-o", "json", "--hz=7"]
      [(.output, some "json"), (.hz, some "7")] :=
    .lettersNext (.next (f := .output) (by decide) rfl rfl) (by rintro c rest ⟨⟩)
      (.equals (f := .hz) (by decide) rfl "7" .nil)
  have hoptions : (Environment.ofList [("VICTORY_ADMIN_CONNECT_TIMEOUT", "3"),
      ("victory_admin_tcp_keepalive", "60")]).SuitsOptions :=
    ⟨by decide +kernel, by decide +kernel, by decide +kernel⟩
  have hsettings : Settings.SuitedByVariables (.ofList
      [("VICTORY_ADMIN_CONNECT_TIMEOUT", "3"), ("victory_admin_tcp_keepalive", "60")]) :=
    ⟨by decide +kernel, by decide +kernel, by decide +kernel, by decide +kernel, by decide +kernel⟩
  have hfile : Settings.SuitedByFile
      [("url", .text "http://c"), ("connect_timeout", .integer 5),
        ("tcp_keepalive", .integer 30)] :=
    ⟨by decide, by decide, by decide, by decide, by decide⟩
  have hentries : entries?
      (some "url = \"http://c\"\nconnect_timeout = 5\ntcp_keepalive = 30\n") = some
      [("url", .text "http://c"), ("connect_timeout", .integer 5),
        ("tcp_keepalive", .integer 30)] :=
    rfl
  have hfirst := (settings_come_from_their_first_source hbefore
    ⟨by decide, by simp [Flag.Accepts], by decide⟩ (show Command.ofName? "status" = _ by decide)
    hafter ⟨by decide, by simp [Flag.Accepts]; decide, by decide⟩ hoptions hsettings hentries
    hfile).1
  exact hfirst.trans (by decide +kernel)

end CommandLine

end BrokerMonitor
