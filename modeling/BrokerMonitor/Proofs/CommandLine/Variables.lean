import BrokerMonitor.CommandLine.Parse
/-!
# What the variables give

Four options have a variable that they fall back on. A variable has to have a value that its option
can have, but only where the option is not given.
-/

namespace BrokerMonitor

/-- The variables that options fall back on have values that these options can have. -/
structure Environment.SuitsOptions (env : Environment) : Prop where
  hz : ∀ text ∈ env.own "HZ", (Text.word32? text).isSome
  config : ∀ text ∈ env.own "CONFIG", text ≠ ""
  output : ∀ text ∈ env.own "OUTPUT", (OutputFormat.ofName? text).isSome

namespace CommandLine

theorem toOption_readUrl (text : String) : (readUrl text).toOption = some text := rfl

theorem toOption_readHz (text : String) : (readHz text).toOption = Text.word32? text := by
  rw [readHz]
  cases Text.word32? text <;> rfl

theorem toOption_readOutput (text : String) :
    (readOutput text).toOption = OutputFormat.ofName? text := by
  rw [readOutput]
  cases OutputFormat.ofName? text <;> rfl

theorem toOption_readConfig {text : String} (h : text ≠ "") :
    (readConfig text).toOption = some text := by
  simp [readConfig, h, Except.toOption]

theorem isSome_readConfig {text : String} :
    (readConfig text).toOption.isSome ↔ text ≠ "" := by
  by_cases h : text = "" <;> simp [readConfig, h, Except.toOption]

/-- What is given, or else the value of a variable. -/
def orVariable {α : Type} (given : Option α) (found? : Option String)
    (read : String → Except Refusal α) : Except Refusal (Option α) :=
  match given, found? with
  | some a, _ => .ok (some a)
  | none, none => .ok none
  | none, some text => (read text).map some

/-- A variable is read only where nothing is given. -/
theorem toOption_orVariable {α : Type} {given : Option α} {found? : Option String}
    {read : String → Except Refusal α}
    (h : given = none → ∀ text ∈ found?, (read text).toOption.isSome) :
    (orVariable given found? read).toOption =
      some (given <|> found?.bind fun text => (read text).toOption) := by
  cases given with
  | some a => rfl
  | none =>
      cases found? with
      | none => rfl
      | some text =>
          have hsome := h rfl text rfl
          cases hread : read text with
          | ok a => simp [orVariable, hread, Except.map, Except.toOption]
          | error e => simp [hread, Except.toOption] at hsome

theorem isSome_of_orVariable {α : Type} {given a : Option α} {found? : Option String}
    {read : String → Except Refusal α} (h : (orVariable given found? read).toOption = some a)
    (hgiven : given = none) : ∀ text ∈ found?, (read text).toOption.isSome := by
  rintro text rfl
  subst hgiven
  cases hread : read text with
  | ok a => rfl
  | error e => simp [orVariable, hread, Except.map, Except.toOption] at h

namespace Given

/-- What is given makes do with the variables: where it has to fall back on one, the value suits. -/
structure Takes (g : Given) (env : Environment) : Prop where
  hz : g.hz = none → ∀ text ∈ env.own "HZ", (Text.word32? text).isSome
  config : g.config = none → ∀ text ∈ env.own "CONFIG", text ≠ ""
  output : g.output = none → ∀ text ∈ env.own "OUTPUT", (OutputFormat.ofName? text).isSome

theorem takes_of_suitsOptions {env : Environment} (h : env.SuitsOptions) (g : Given) :
    g.Takes env :=
  ⟨fun _ => h.hz, fun _ => h.config, fun _ => h.output⟩

/-- What the variables give. -/
def ofEnvironment (env : Environment) : Given where
  url := env.own "URL"
  hz := (env.own "HZ").bind Text.word32?
  config := env.own "CONFIG"
  output := (env.own "OUTPUT").bind OutputFormat.ofName?

theorem toOption_bind {ε α β : Type} (x : Except ε α) (f : α → Except ε β) :
    (x.bind f).toOption = x.toOption.bind fun a => (f a).toOption := by
  cases x <;> rfl

theorem toOption_map {ε α β : Type} (x : Except ε α) (f : α → β) :
    (x.map f).toOption = x.toOption.map f := by
  cases x <;> rfl

/-- The four variables are looked up one after the other. -/
theorem fromEnvironment_eq_bind (g : Given) (env : Environment) :
    g.fromEnvironment env =
      (orVariable g.url (env.own "URL") readUrl).bind fun url =>
        (orVariable g.hz (env.own "HZ") readHz).bind fun hz =>
          (orVariable g.config (env.own "CONFIG") readConfig).bind fun config =>
            (orVariable g.output (env.own "OUTPUT") readOutput).map fun output =>
              { g with url, hz, config, output } := rfl

/-- Variables that suit give what is not given without them. -/
theorem toOption_fromEnvironment {g : Given} {env : Environment} (h : g.Takes env) :
    (g.fromEnvironment env).toOption = some (g.orElse (.ofEnvironment env)) := by
  have hurl : g.url = none → ∀ text ∈ env.own "URL", (readUrl text).toOption.isSome :=
    fun _ _ _ => rfl
  have hhz : g.hz = none → ∀ text ∈ env.own "HZ", (readHz text).toOption.isSome :=
    fun hnone text htext => toOption_readHz text ▸ h.hz hnone text htext
  have hconfig : g.config = none → ∀ text ∈ env.own "CONFIG", (readConfig text).toOption.isSome :=
    fun hnone text htext => isSome_readConfig.mpr (h.config hnone text htext)
  have houtput : g.output = none → ∀ text ∈ env.own "OUTPUT", (readOutput text).toOption.isSome :=
    fun hnone text htext => toOption_readOutput text ▸ h.output hnone text htext
  rw [fromEnvironment_eq_bind, toOption_bind, toOption_orVariable hurl, Option.bind_some,
    toOption_bind, toOption_orVariable hhz, Option.bind_some, toOption_bind,
    toOption_orVariable hconfig, Option.bind_some, toOption_map, toOption_orVariable houtput]
  have hname : (g.config <|> (env.own "CONFIG").bind fun text => (readConfig text).toOption) =
      (g.config <|> env.own "CONFIG") := by
    cases hgiven : g.config with
    | some a => rfl
    | none =>
        cases htext : env.own "CONFIG" with
        | none => rfl
        | some text => simp [toOption_readConfig (h.config hgiven text htext)]
  rw [hname]
  simp [orElse, ofEnvironment, toOption_readUrl, toOption_readHz, toOption_readOutput]

theorem takes_of_fromEnvironment {g g' : Given} {env : Environment}
    (h : (g.fromEnvironment env).toOption = some g') : g.Takes env := by
  simp only [fromEnvironment_eq_bind, toOption_bind, toOption_map, Option.bind_eq_some_iff,
    Option.map_eq_some_iff] at h
  obtain ⟨_, -, _, hhz, _, hconfig, _, houtput, -⟩ := h
  constructor
  · intro hnone text htext
    exact toOption_readHz text ▸ isSome_of_orVariable hhz hnone text htext
  · intro hnone text htext
    exact isSome_readConfig.mp (isSome_of_orVariable hconfig hnone text htext)
  · intro hnone text htext
    exact toOption_readOutput text ▸ isSome_of_orVariable houtput hnone text htext

end Given

/-! ### Command lines -/

/-- What is given before and after a command. -/
structure Places where
  command : Command
  before : Given
  after : Given

/-- What words give, if they are a command line, whatever the variables are. -/
def places? (words : List String) : Option Places := do
  match ← (readWords .program words {}).toOption with
  | (before, some (command, rest)) =>
    let (after, _) ← (readWords (.command command) rest {}).toOption
    return ⟨command, ← before.flush.toOption, ← after.flush.toOption⟩
  | (_, none) => none

namespace Places

/-- What is given on the command line: what comes after the command counts. -/
def given (p : Places) : Given := p.after.orElse p.before

/-- Both places make do with the variables. -/
structure Takes (p : Places) (env : Environment) : Prop where
  before : p.before.Takes env
  after : p.after.Takes env

theorem eq_none_of_orElse {α : Type} {a b : Option α} (h : (a <|> b) = none) : a = none := by
  cases a with
  | none => rfl
  | some a => cases h

theorem Takes.given {p : Places} {env : Environment} (h : p.Takes env) : p.given.Takes env where
  hz hnone := h.after.hz (eq_none_of_orElse hnone)
  config hnone := h.after.config (eq_none_of_orElse hnone)
  output hnone := h.after.output (eq_none_of_orElse hnone)

/-- The options of a command line, with the variables for what is not given. -/
def options (p : Places) (env : Environment) : Options :=
  (p.given.orElse (.ofEnvironment env)).options p.command

end Places

open Given (toOption_bind toOption_map) in
/-- The variables are looked at for each place on its own, and then for both. -/
theorem toOption_parse (words : List String) (env : Environment) :
    (parse words env).toOption = (places? words).bind fun p =>
      (p.after.fromEnvironment env).toOption.bind fun _ =>
        (p.before.fromEnvironment env).toOption.bind fun _ =>
          (p.given.fromEnvironment env).toOption.map (·.options p.command) := by
  simp only [parse, places?, bind, toOption_bind]
  cases (readWords .program words {}).toOption with
  | none => rfl
  | some read =>
      obtain ⟨before, _ | ⟨c, rest⟩⟩ := read
      · simp only [Option.bind_some, toOption_bind, Option.bind_none]
        cases before.flush.toOption with
        | none => rfl
        | some given =>
            simp only [Option.bind_some]
            cases (given.fromEnvironment env).toOption with
            | none => rfl
            | some given => by_cases hnothing : given = {} <;> simp [hnothing, Except.toOption]
      · simp only [Option.bind_some, toOption_bind, pure, Except.pure]
        cases (readWords (.command c) rest {}).toOption with
        | none => rfl
        | some read =>
            simp only [Option.bind_some]
            cases read.1.flush.toOption with
            | none => cases before.flush.toOption <;> rfl
            | some after =>
                cases before.flush.toOption with
                | none => simp
                | some before =>
                    simp only [Option.bind_some, Places.given, Option.map_eq_bind]
                    rfl

/-- A command line whose places make do with the variables is carried out. -/
theorem toOption_parse_of_takes {words : List String} {env : Environment} {p : Places}
    (hplaces : places? words = some p) (h : p.Takes env) :
    (parse words env).toOption = some (p.options env) := by
  rw [toOption_parse, hplaces, Option.bind_some, Given.toOption_fromEnvironment h.after,
    Option.bind_some, Given.toOption_fromEnvironment h.before, Option.bind_some,
    Given.toOption_fromEnvironment h.given]
  rfl

/-- Nothing else is carried out, and with no other options. -/
theorem takes_of_toOption_parse {words : List String} {env : Environment} {o : Options}
    (h : (parse words env).toOption = some o) :
    ∃ p ∈ places? words, p.Takes env ∧ o = p.options env := by
  have htakes : ∃ p ∈ places? words, p.Takes env := by
    simp only [toOption_parse, Option.bind_eq_some_iff, Option.map_eq_some_iff] at h
    obtain ⟨p, hp, _, hafter, _, hbefore, -⟩ := h
    exact ⟨p, hp, Given.takes_of_fromEnvironment hbefore, Given.takes_of_fromEnvironment hafter⟩
  obtain ⟨p, hp, htakes⟩ := htakes
  rw [toOption_parse_of_takes hp htakes] at h
  exact ⟨p, hp, htakes, (Option.some.inj h).symm⟩

end CommandLine

end BrokerMonitor
