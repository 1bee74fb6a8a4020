import Mathlib.Data.List.Induction
import BrokerMonitor.Proofs.CommandLine.Spelling
import BrokerMonitor.Proofs.CommandLine.Variables
/-!
# What a command line gives

Each place gives the values that its options are mentioned with, whatever their order. What comes
after the command counts before what comes ahead of it, and the variables count last.
-/

namespace BrokerMonitor

namespace CommandLine

/-- A value that an option can have. -/
def Flag.Accepts : Flag → String → Prop
  | .url, _ => True
  | .hz, text => (Text.word32? text).isSome
  | .config, text => text ≠ ""
  | .output, text => (OutputFormat.ofName? text).isSome
  | .color, text => (ColorMode.ofName? text).isSome
  | .connectTimeout, text => (Text.word64? text).isSome
  | .wait, text => (Text.word64? text).isSome
  | _, _ => False

/-- Options that can be mentioned together in one place: none asks for a text about the program,
their values are such as they can have, and each but `--verbose` is there at most once. -/
structure AreSuitable (mentions : List Mention) : Prop where
  acts : ∀ m ∈ mentions, m.1 ≠ .help ∧ m.1 ≠ .version
  accepted : ∀ m ∈ mentions, ∀ text ∈ m.2, m.1.Accepts text
  once : mentions.Pairwise fun a b => a.1 = b.1 → b.1 = .verbose

/-- The value that an option is mentioned with. -/
def value? (mentions : List Mention) (f : Flag) : Option String :=
  mentions.findSome? fun m => if m.1 = f then m.2 else none

/-- How often `--verbose` counts that is mentioned so many times. -/
def verbosity : Nat → Option UInt8
  | 0 => none
  | times + 1 => some (Given.countUp (verbosity times))

namespace Given

/-- What is given with some options. -/
def ofMentions (mentions : List Mention) : Given where
  url := value? mentions .url
  hz := (value? mentions .hz).bind Text.word32?
  config := value? mentions .config
  output := (value? mentions .output).bind OutputFormat.ofName?
  color := (value? mentions .color).bind ColorMode.ofName?
  connectTimeout := (value? mentions .connectTimeout).bind Text.word64?
  wait := (value? mentions .wait).bind Text.word64?
  verbose := verbosity (mentions.countP (·.1 = .verbose))
  quiet := (mentions.find? (·.1 = .quiet)).map fun _ => true

end Given

theorem value?_append (here mentions : List Mention) (f : Flag) :
    value? (here ++ mentions) f = (value? here f).or (value? mentions f) :=
  List.findSome?_append

theorem value?_eq_none {mentions : List Mention} {f : Flag} (h : ∀ m ∈ mentions, m.1 ≠ f) :
    value? mentions f = none := by
  rw [value?, List.findSome?_eq_none_iff]
  intro m hm
  exact if_neg (h m hm)

theorem value?_singleton (f f' : Flag) (text : Option String) :
    value? [(f, text)] f' = if f = f' then text else none := by
  cases text <;> simp [value?, apply_ite]

/-- One more option is done as it says, after others that it suits. -/
theorem Given.take_ofMentions {l : Level} {mentions : List Mention} {m : Mention}
    (h : AreSuitable (mentions ++ [m])) (hm : IsMatched m) :
    (ofMentions mentions).take l m = .ok (ofMentions (mentions ++ [m])) := by
  obtain ⟨f, text⟩ := m
  have hnew : f ≠ .verbose → ∀ m ∈ mentions, m.1 ≠ f := fun hf m hm heq =>
    hf ((List.pairwise_append.mp h.once).2.2 m hm (f, text) List.mem_cons_self heq)
  have hacts := h.acts (f, text) (by simp)
  have haccepted := h.accepted (f, text) (by simp)
  have hnone : f ≠ .verbose → value? mentions f = none := fun hf => value?_eq_none (hnew hf)
  cases text with
  | none =>
      cases f with
      | verbose => simp [take, raise, ofMentions, value?_append, value?_singleton, verbosity]
      | quiet =>
          have hquiet : mentions.find? (·.1 = .quiet) = none := by
            simpa using hnew (by decide)
          simp [take, raise, ofMentions, value?_append, value?_singleton, once, hquiet, Except.map]
      | help => exact absurd rfl hacts.1
      | version => exact absurd rfl hacts.2
      | _ => cases hm
  | some text =>
      specialize haccepted text rfl
      cases f with
      | verbose | quiet | help | version => cases hm
      | url =>
          specialize hnone (by decide)
          simp [take, put, ofMentions, value?_append, value?_singleton, once, hnone, Except.map,
            readUrl]
      | config =>
          specialize hnone (by decide)
          have hne : text ≠ "" := haccepted
          simp [take, put, ofMentions, value?_append, value?_singleton, once, hnone, Except.map,
            readConfig, hne]
      | hz | output | color | connectTimeout | wait =>
          specialize hnone (by decide)
          obtain ⟨a, ha⟩ := Option.isSome_iff_exists.mp haccepted
          simp [take, put, ofMentions, value?_append, value?_singleton, once, hnone, Except.map,
            readHz, readOutput, readColor, readSeconds, ha]

theorem AreSuitable.of_append {here mentions : List Mention} (h : AreSuitable (here ++ mentions)) :
    AreSuitable here where
  acts m hm := h.acts m (List.mem_append_left mentions hm)
  accepted m hm := h.accepted m (List.mem_append_left mentions hm)
  once := (List.pairwise_append.mp h.once).1

/-- Options that suit each other are all done. -/
theorem Given.takeAll_eq_ofMentions {l : Level} {mentions : List Mention}
    (h : AreSuitable mentions) (hmatched : ∀ m ∈ mentions, IsMatched m) :
    Given.takeAll l {} mentions = .ok (ofMentions mentions) := by
  induction mentions using List.reverseRecOn with
  | nil => rfl
  | append_singleton mentions m ih =>
      have hhere := ih h.of_append fun m hm => hmatched m (List.mem_append_left _ hm)
      rw [Given.takeAll_append]
      refine ⟨_, hhere, ?_⟩
      rw [Given.takeAll_cons]
      exact ⟨_, Given.take_ofMentions h (hmatched m (by simp)), rfl⟩

/-- Words that spell options are read as these options, up to where the options end. -/
theorem readWords_mentions {l : Level} {words : List String} {mentions : List Mention}
    (h : Spells l words mentions) (hsuitable : AreSuitable mentions) (rest : List String) :
    ∃ p, readWords l (words ++ rest) {} = readWords l rest p ∧
      p.flush = .ok (.ofMentions mentions) ∧ p.awaits = false :=
  readWords_spelled h (Progress.amounts_mk {})
    (Given.takeAll_eq_ofMentions hsuitable h.isMatched) rest

/-! ### Command lines -/

/-- A command with options before and after it is read as such. -/
theorem places?_spelled {before after : List String} {mentions mentions' : List Mention}
    {name : String} {c : Command} (hbefore : Spells .program before mentions)
    (hsuitable : AreSuitable mentions) (hname : Command.ofName? name = some c)
    (hafter : Spells (.command c) after mentions') (hsuitable' : AreSuitable mentions') :
    places? (before ++ name :: after) = some ⟨c, .ofMentions mentions, .ofMentions mentions'⟩ := by
  obtain ⟨p, hp, hflush, hawaits⟩ := readWords_mentions hbefore hsuitable (name :: after)
  obtain ⟨p', hp', hflush', -⟩ := readWords_mentions hafter hsuitable' []
  have hcommand : readWords .program (name :: after) p = .ok (p, some (c, after)) := by
    rw [readWords.eq_def]
    simp [hawaits, hname]
  rw [List.append_nil, readWords] at hp'
  simp [places?, hp, hcommand, hp', hflush, hflush', Except.toOption]

end CommandLine

end BrokerMonitor
