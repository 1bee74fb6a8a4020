import BrokerMonitor.Proofs.Settings.Precedence
/-!
# What an option hides

An option hides the variable that stands for it, but not from the settings, which read the variable
once more and of any kind. A run with the option therefore comes to the same whatever the variable
is among those that the settings take for a text, and it fails for every other variable. The output
format is chosen in two places, and a place without the option checks the variable too.
-/

namespace BrokerMonitor

open CommandLine

namespace Environment

variable {env env' : Environment} {name : String}

/-- Nothing differs but the variable of one name: every name that has a say and does not mean this
variable has the same text. -/
def AgreesOutside (env' env : Environment) (name : String) : Prop :=
  ∀ other ∈ ownNames, other.means (scope ++ name) = false → env' other = env other

instance (env' env : Environment) (name : String) : Decidable (env'.AgreesOutside env name) :=
  inferInstanceAs (Decidable
    (∀ other ∈ ownNames, other.means (scope ++ name) = false → env' other = env other))

namespace AgreesOutside

theorem symm (h : env'.AgreesOutside env name) : env.AgreesOutside env' name :=
  fun other hother hmeans => (h other hother hmeans).symm

theorem own_eq (h : env'.AgreesOutside env name) (other : String) (hother : other ∈ optionNames)
    (hmeans : (VariableName.exact (scope ++ other)).means (scope ++ name) = false) :
    env'.own other = env.own other :=
  h _ (List.mem_append_left _ (List.mem_map_of_mem hother)) hmeans

theorem setting_eq (h : env'.AgreesOutside env name) {key : String} (hkey : key ∈ keys)
    (hmeans : (VariableName.anyCase (scope ++ key)).means (scope ++ name) = false) :
    env'.setting key = env.setting key :=
  h _ (List.mem_append_right _ (List.mem_map_of_mem hkey)) hmeans

/-- It makes no difference elsewhere what is set of one name. -/
theorem ofList {vars vars' : List (String × String)}
    (h : vars'.filter (·.1 ≠ scope ++ name) = vars.filter (·.1 ≠ scope ++ name)) :
    (Environment.ofList vars').AgreesOutside (.ofList vars) name := by
  intro other _ hmeans
  have hmeant : ∀ vs : List (String × String), vs.filter (other.means ·.1) =
      (vs.filter (·.1 ≠ scope ++ name)).filter (other.means ·.1) := by
    intro vs
    rw [List.filter_filter]
    refine List.filter_congr fun v _ => ?_
    by_cases hname : v.1 = scope ++ name
    · simp [hname, hmeans]
    · simp [hname]
  refine ofList_congr ?_
  rw [hmeant vars', hmeant vars, h]

end AgreesOutside

end Environment

namespace Settings

variable {entries : Toml.Entries} {env env' : Environment} {key name : String}

/-- What the settings find for a text is one: in the variable, or without it in the file. -/
def LoadsText (entries : Toml.Entries) (env : Environment) (key : String) : Prop :=
  match env.setting key with
  | some text => ∃ s, Variable.read text = .text s
  | none => ∀ v ∈ entries.lookup key, ∃ s, v = .text s

theorem isSome_asText_iff (raw : Raw) : raw.asText.toOption.isSome ↔ ∃ s, raw = .text s := by
  cases raw <;> simp [Raw.asText, Except.toOption]

theorem toOption_get? {α : Type} (read : Raw → Except Raw.Misfit α) (source : Source) (raw : Raw)
    (hfind : find entries env key = some (source, raw)) :
    (get? read entries env key).toOption = (read raw).toOption.map some := by
  rw [get?, hfind]
  cases hread : read raw <;> simp [hread, Except.toOption]

theorem isSome_get?_iff :
    (get? Raw.asText entries env key).toOption.isSome ↔ LoadsText entries env key := by
  cases htext : env.setting key with
  | some text =>
      have hfind : find entries env key = some (.variable, Variable.read text) := by
        rw [find, htext]
        rfl
      rw [toOption_get? _ _ _ hfind, Option.isSome_map, isSome_asText_iff, LoadsText, htext]
  | none =>
      cases hv : entries.lookup key with
      | none => simp [get?, find, htext, hv, LoadsText, Except.toOption]
      | some v =>
          have hfind : find entries env key = some (.file, Raw.ofToml v) := by
            rw [find, htext, hv]
            rfl
          rw [toOption_get? _ _ _ hfind, Option.isSome_map, isSome_asText_iff, LoadsText, htext]
          cases v <;> simp [Raw.ofToml, hv]

/-! ### Loading -/

theorem get?_of_agreesOutside (h : env'.AgreesOutside env name) {α : Type}
    (read : Raw → Except Raw.Misfit α) {key : String} (hkey : key ∈ keys)
    (hmeans : (VariableName.anyCase (Environment.scope ++ key)).means (Environment.scope ++ name) =
      false) : get? read entries env' key = get? read entries env key :=
  get?_congr (h.setting_eq hkey hmeans) rfl

/-- The settings but for the address. -/
def withoutUrl (s : Settings) : Settings := { s with url := "" }

/-- The settings but for the output format. -/
def withoutOutput (s : Settings) : Settings := { s with output := "" }

theorem withoutUrl_ofEntries (h : env'.AgreesOutside env "URL")
    (hloads : LoadsText entries env "url") (hloads' : LoadsText entries env' "url") :
    (ofEntries entries env').toOption.map withoutUrl =
      (ofEntries entries env).toOption.map withoutUrl := by
  obtain ⟨u, hu⟩ := Option.isSome_iff_exists.mp (isSome_get?_iff.mpr hloads)
  obtain ⟨u', hu'⟩ := Option.isSome_iff_exists.mp (isSome_get?_iff.mpr hloads')
  simp only [ofEntries, bind, Given.toOption_bind, hu, hu',
    get?_of_agreesOutside h _ (show "adapter_hz" ∈ keys by decide) (by decide +kernel),
    get?_of_agreesOutside h _ (show "connect_timeout" ∈ keys by decide) (by decide +kernel),
    get?_of_agreesOutside h _ (show "output" ∈ keys by decide) (by decide +kernel),
    get?_of_agreesOutside h _ (show "tcp_keepalive" ∈ keys by decide) (by decide +kernel)]
  simp only [Option.map_bind, Option.bind_some, Function.comp_def]
  rfl

theorem withoutOutput_ofEntries (h : env'.AgreesOutside env "OUTPUT")
    (hloads : LoadsText entries env "output") (hloads' : LoadsText entries env' "output") :
    (ofEntries entries env').toOption.map withoutOutput =
      (ofEntries entries env).toOption.map withoutOutput := by
  obtain ⟨u, hu⟩ := Option.isSome_iff_exists.mp (isSome_get?_iff.mpr hloads)
  obtain ⟨u', hu'⟩ := Option.isSome_iff_exists.mp (isSome_get?_iff.mpr hloads')
  simp only [ofEntries, bind, Given.toOption_bind, hu, hu',
    get?_of_agreesOutside h _ (show "adapter_hz" ∈ keys by decide) (by decide +kernel),
    get?_of_agreesOutside h _ (show "connect_timeout" ∈ keys by decide) (by decide +kernel),
    get?_of_agreesOutside h _ (show "tcp_keepalive" ∈ keys by decide) (by decide +kernel),
    get?_of_agreesOutside h _ (show "url" ∈ keys by decide) (by decide +kernel)]
  simp only [Option.map_bind, Option.bind_some, Function.comp_def]
  rfl

/-- Settings that load have taken a text for the address and one for the format. -/
theorem loadsText_of_ofEntries {s : Settings} (h : (ofEntries entries env).toOption = some s) :
    LoadsText entries env "url" ∧ LoadsText entries env "output" := by
  simp only [ofEntries, bind, Given.toOption_bind, Option.bind_eq_some_iff] at h
  obtain ⟨_, -, _, -, _, houtput, _, -, _, hurl, -⟩ := h
  exact ⟨isSome_get?_iff.mp (hurl ▸ rfl), isSome_get?_iff.mp (houtput ▸ rfl)⟩

/-- An address that is given hides the one in the settings. -/
theorem resolve_withoutUrl {o : Options} (h : o.url.isSome) (s : Settings) :
    s.withoutUrl.resolve o = s.resolve o := by
  obtain ⟨u, hu⟩ := Option.isSome_iff_exists.mp h
  simp [resolve, withoutUrl, hu]

/-- A format that is given hides the one in the settings. -/
theorem resolve_withoutOutput {o : Options} (h : o.output.isSome) (s : Settings) :
    s.withoutOutput.resolve o = s.resolve o := by
  obtain ⟨f, hf⟩ := Option.isSome_iff_exists.mp h
  simp [resolve, withoutOutput, hf]

end Settings

namespace CommandLine

open Settings (LoadsText entries?)

variable {words : List String} {env env' : Environment} {p : Places} {entries : Toml.Entries}
  {file : Option String}

/-! ### Reading -/

/-- The variable for the format is one wherever a place falls back on it. -/
def Places.ChoosesOutput (p : Places) (env : Environment) : Prop :=
  p.before.output = none ∨ p.after.output = none →
    ∀ text ∈ env.own "OUTPUT", (OutputFormat.ofName? text).isSome

theorem Given.takes_of_agreesOutside_url {g : Given} (h : env'.AgreesOutside env "URL")
    (htakes : g.Takes env) : g.Takes env' := by
  obtain ⟨hhz, hconfig, houtput⟩ := htakes
  constructor
  · rwa [h.own_eq "HZ" (by decide) (by decide)]
  · rwa [h.own_eq "CONFIG" (by decide) (by decide)]
  · rwa [h.own_eq "OUTPUT" (by decide) (by decide)]

/-- What is carried out is the same if both places make do with both environments or with
neither. -/
theorem toOption_parse_congr (hplaces : places? words = some p)
    (htakes : p.Takes env' ↔ p.Takes env) (hoptions : p.options env' = p.options env) :
    (parse words env').toOption = (parse words env).toOption := by
  have hnone : ∀ e : Environment, ¬ p.Takes e → (parse words e).toOption = none := by
    intro e hno
    rw [Option.eq_none_iff_forall_ne_some]
    intro o ho
    obtain ⟨q, hq, htakes, -⟩ := takes_of_toOption_parse ho
    rw [hplaces] at hq
    cases hq
    exact hno htakes
  by_cases h : p.Takes env
  · rw [toOption_parse_of_takes hplaces h, toOption_parse_of_takes hplaces (htakes.mpr h), hoptions]
  · rw [hnone env h, hnone env' (htakes.not.mpr h)]

theorem parse_congr_url (hplaces : places? words = some p) (hgiven : p.given.url.isSome)
    (h : env'.AgreesOutside env "URL") :
    (parse words env').toOption = (parse words env).toOption := by
  obtain ⟨u, hu⟩ := Option.isSome_iff_exists.mp hgiven
  refine toOption_parse_congr hplaces ⟨fun htakes => ?_, fun htakes => ?_⟩ ?_
  · exact ⟨Given.takes_of_agreesOutside_url h.symm htakes.before,
      Given.takes_of_agreesOutside_url h.symm htakes.after⟩
  · exact ⟨Given.takes_of_agreesOutside_url h htakes.before,
      Given.takes_of_agreesOutside_url h htakes.after⟩
  · simp [Places.options, Given.orElse, Given.ofEnvironment, hu,
      h.own_eq "HZ" (by decide) (by decide), h.own_eq "CONFIG" (by decide) (by decide),
      h.own_eq "OUTPUT" (by decide) (by decide)]

theorem Places.Takes.choosesOutput (h : p.Takes env) : p.ChoosesOutput env := by
  rintro (hbefore | hafter)
  · exact h.before.output hbefore
  · exact h.after.output hafter

theorem Places.Takes.of_agreesOutside_output (h : env'.AgreesOutside env "OUTPUT")
    (hchooses : p.ChoosesOutput env') (htakes : p.Takes env) : p.Takes env' := by
  have hhz := h.own_eq "HZ" (by decide) (by decide)
  have hconfig := h.own_eq "CONFIG" (by decide) (by decide)
  refine ⟨⟨?_, ?_, fun hnone => hchooses (.inl hnone)⟩,
    ⟨?_, ?_, fun hnone => hchooses (.inr hnone)⟩⟩
  · rw [hhz]
    exact htakes.before.hz
  · rw [hconfig]
    exact htakes.before.config
  · rw [hhz]
    exact htakes.after.hz
  · rw [hconfig]
    exact htakes.after.config

theorem parse_congr_output (hplaces : places? words = some p) (hgiven : p.given.output.isSome)
    (h : env'.AgreesOutside env "OUTPUT") (hchooses : p.ChoosesOutput env)
    (hchooses' : p.ChoosesOutput env') :
    (parse words env').toOption = (parse words env).toOption := by
  obtain ⟨f, hf⟩ := Option.isSome_iff_exists.mp hgiven
  refine toOption_parse_congr hplaces ⟨fun htakes => ?_, fun htakes => ?_⟩ ?_
  · exact htakes.of_agreesOutside_output h.symm hchooses
  · exact htakes.of_agreesOutside_output h hchooses'
  · simp [Places.options, Given.orElse, Given.ofEnvironment, hf,
      h.own_eq "HZ" (by decide) (by decide), h.own_eq "CONFIG" (by decide) (by decide),
      h.own_eq "URL" (by decide) (by decide)]

/-! ### Whole runs -/

/-- What is settled, as what is read, what is loaded, and what both resolve to. -/
theorem settle_eq_bind (hentries : entries? file = some entries) (env : Environment) :
    settle words env file = (parse words env).toOption.bind fun o =>
      (Settings.ofEntries entries env).toOption.bind fun s => (s.resolve o).toOption := by
  rw [settle, Settings.load_eq, hentries]
  rfl

/-- Settings that differ only in what the options hide resolve to the same. -/
theorem bind_resolve_congr {o : Options} {hide : Settings → Settings}
    (hresolve : ∀ s : Settings, (hide s).resolve o = s.resolve o) {s s' : Option Settings}
    (h : s'.map hide = s.map hide) :
    (s'.bind fun s => (s.resolve o).toOption) = s.bind fun s => (s.resolve o).toOption := by
  have hhide : ∀ t : Option Settings, (t.bind fun s => (s.resolve o).toOption) =
      (t.map hide).bind fun s => (s.resolve o).toOption := fun t => by
    simp only [Option.bind_map, Function.comp_def, hresolve]
  rw [hhide s', hhide s, h]

theorem settle_congr_url (hplaces : places? words = some p)
    (hentries : entries? file = some entries) (hgiven : p.given.url.isSome)
    (h : env'.AgreesOutside env "URL")
    (hloads : LoadsText entries env "url") (hloads' : LoadsText entries env' "url") :
    settle words env' file = settle words env file := by
  rw [settle_eq_bind hentries, settle_eq_bind hentries, parse_congr_url hplaces hgiven h]
  refine Option.bind_congr fun o ho => bind_resolve_congr (Settings.resolve_withoutUrl ?_)
    (Settings.withoutUrl_ofEntries h hloads hloads')
  obtain ⟨q, hq, -, rfl⟩ := takes_of_toOption_parse ho
  obtain rfl : p = q := Option.some.inj (hplaces.symm.trans hq)
  obtain ⟨u, hu⟩ := Option.isSome_iff_exists.mp hgiven
  simp [Places.options, Given.options, Given.orElse, hu]

theorem settle_congr_output (hplaces : places? words = some p)
    (hentries : entries? file = some entries) (hgiven : p.given.output.isSome)
    (h : env'.AgreesOutside env "OUTPUT") (hchooses : p.ChoosesOutput env)
    (hchooses' : p.ChoosesOutput env') (hloads : LoadsText entries env "output")
    (hloads' : LoadsText entries env' "output") :
    settle words env' file = settle words env file := by
  rw [settle_eq_bind hentries, settle_eq_bind hentries,
    parse_congr_output hplaces hgiven h hchooses hchooses']
  refine Option.bind_congr fun o ho => bind_resolve_congr (Settings.resolve_withoutOutput ?_)
    (Settings.withoutOutput_ofEntries h hloads hloads')
  obtain ⟨q, hq, -, rfl⟩ := takes_of_toOption_parse ho
  obtain rfl : p = q := Option.some.inj (hplaces.symm.trans hq)
  obtain ⟨f, hf⟩ := Option.isSome_iff_exists.mp hgiven
  simp [Places.options, Given.options, Given.orElse, hf]

/-- What is settled was read in both places and loaded, variables included. -/
theorem exists_of_settle {r : Resolved} (h : settle words env file = some r) :
    ∃ p ∈ places? words, ∃ entries ∈ entries? file, p.ChoosesOutput env ∧
      LoadsText entries env "url" ∧ LoadsText entries env "output" := by
  cases hentries : entries? file with
  | none =>
      simp [settle, Settings.load_eq, hentries, Except.toOption] at h
  | some entries =>
      rw [settle_eq_bind hentries] at h
      simp only [Option.bind_eq_some_iff] at h
      obtain ⟨o, ho, s, hs, -⟩ := h
      obtain ⟨p, hp, htakes, -⟩ := takes_of_toOption_parse ho
      exact ⟨p, hp, entries, rfl, htakes.choosesOutput, Settings.loadsText_of_ofEntries hs⟩

/-- An option hides its variable from the outcome of a run as long as the variable loads, and no
longer.

With the address given, two environments that differ in its variable alone, as they do if nothing
else is set otherwise, settle the same if the settings find a text for the address in both: in the
variable, which they know by any spelling of its name, or without it in the file. Where they find a
number, a truth value, a list or a table, nothing is settled, although the value would not count.
For the output format each place of the command line without the option has its own look at the
variable, which has to name a format there. Words that are no command line and files that are not
well-formed settle nothing in any environment. -/
theorem option_hides_a_variable_that_loads (words : List String) (file : Option String) :
    (∀ (vars vars' : List (String × String)) (name : String),
      vars'.filter (·.1 ≠ Environment.scope ++ name) =
        vars.filter (·.1 ≠ Environment.scope ++ name) →
      (Environment.ofList vars').AgreesOutside (.ofList vars) name) ∧
    (places? words = none ∨ entries? file = none → ∀ env, settle words env file = none) ∧
    ∀ p ∈ places? words, ∀ entries ∈ entries? file, ∀ env : Environment,
      (p.given.url.isSome →
        (¬ LoadsText entries env "url" → settle words env file = none) ∧
        ∀ env' : Environment, env'.AgreesOutside env "URL" →
          LoadsText entries env "url" → LoadsText entries env' "url" →
          settle words env' file = settle words env file) ∧
      (p.given.output.isSome →
        (¬ (p.ChoosesOutput env ∧ LoadsText entries env "output") →
          settle words env file = none) ∧
        ∀ env' : Environment, env'.AgreesOutside env "OUTPUT" →
          p.ChoosesOutput env ∧ LoadsText entries env "output" →
          p.ChoosesOutput env' ∧ LoadsText entries env' "output" →
          settle words env' file = settle words env file) := by
  refine ⟨fun vars vars' name h => .ofList h, fun hnone env => ?_, fun p hp entries hentries env =>
    ⟨fun hgiven => ⟨fun hno => ?_, ?_⟩, fun hgiven => ⟨fun hno => ?_, ?_⟩⟩⟩
  · rw [Option.eq_none_iff_forall_ne_some]
    intro r hr
    obtain ⟨p, hp, entries, hentries, -⟩ := exists_of_settle hr
    rcases hnone with hnone | hnone
    · exact absurd (hnone.symm.trans hp) nofun
    · exact absurd (hnone.symm.trans hentries) nofun
  · rw [Option.eq_none_iff_forall_ne_some]
    intro r hr
    obtain ⟨-, -, entries', hentries', -, hurl, -⟩ := exists_of_settle hr
    obtain rfl : entries = entries' := Option.some.inj (hentries.symm.trans hentries')
    exact hno hurl
  · intro env' h hloads hloads'
    exact settle_congr_url hp hentries hgiven h hloads hloads'
  · rw [Option.eq_none_iff_forall_ne_some]
    intro r hr
    obtain ⟨p', hp', entries', hentries', hchooses, -, houtput⟩ := exists_of_settle hr
    obtain rfl : p = p' := Option.some.inj (hp.symm.trans hp')
    obtain rfl : entries = entries' := Option.some.inj (hentries.symm.trans hentries')
    exact hno ⟨hchooses, houtput⟩
  · intro env' h hloads hloads'
    exact settle_congr_output hp hentries hgiven h hloads.1 hloads'.1 hloads.2 hloads'.2

/-- Not every variable is hidden: a number in the place of the address, and a format that there is
not, each end a run that has the option. -/
theorem option_does_not_hide_every_variable :
    ¬ (∀ (words : List String) (env env' : Environment) (file : Option String),
      (∀ p ∈ places? words, p.given.url.isSome) → env'.AgreesOutside env "URL" →
      settle words env' file = settle words env file) ∧
    ¬ (∀ (words : List String) (env env' : Environment) (file : Option String),
      (∀ p ∈ places? words, p.given.output.isSome) → env'.AgreesOutside env "OUTPUT" →
      settle words env' file = settle words env file) := by
  constructor
  · intro h
    have hsame := h ["--url", "http://h", "status"] (.ofList [])
      (.ofList [("VICTORY_ADMIN_URL", "5")]) none (by decide +kernel) (by decide +kernel)
    exact absurd hsame (by decide +kernel)
  · intro h
    have hsame := h ["-o", "json", "status"] (.ofList [])
      (.ofList [("VICTORY_ADMIN_OUTPUT", "yaml")]) none (by decide +kernel) (by decide +kernel)
    exact absurd hsame (by decide +kernel)

end CommandLine

end BrokerMonitor
