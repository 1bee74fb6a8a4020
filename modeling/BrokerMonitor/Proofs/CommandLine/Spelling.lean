import BrokerMonitor.CommandLine.Parse
/-!
# How options are spelled

An option is spelled with its long name or, after one dash, with its letter. A value stands after an
equals sign, in the next word or, after a letter, right behind it. `Spells` relates words to the
options they mention, and does so without a state; reading such words does what the options say, one
after the other, whatever their spelling.
-/

namespace BrokerMonitor.CommandLine

/-- An option as it is mentioned, with its value if it has one. -/
abbrev Mention := Flag × Option String

/-- A word that can be the value of the option before it: it does not look like an option. -/
def IsValueWord (text : String) : Prop := ∀ c rest, text.toList ≠ '-' :: c :: rest

/-- Letters after one dash, the options they mention, and the option that takes its value from the
next word. -/
inductive SpellsLetters (l : Level) : List Char → List Mention → Option Flag → Prop
  | nil : SpellsLetters l [] [] none
  | switch {f : Flag} {c : Char} {letters : List Char} {mentions : List Mention}
      {last : Option Flag} (known : f ∈ l.flags) (letter : f.letter? = some c)
      (bare : f.takesValue = false) (later : SpellsLetters l letters mentions last) :
      SpellsLetters l (c :: letters) ((f, none) :: mentions) last
  | equals {f : Flag} {c : Char} (known : f ∈ l.flags) (letter : f.letter? = some c)
      (valued : f.takesValue = true) (text : String) :
      SpellsLetters l (c :: '=' :: text.toList) [(f, some text)] none
  | attached {f : Flag} {c : Char} (known : f ∈ l.flags) (letter : f.letter? = some c)
      (valued : f.takesValue = true) {text : String} (nonempty : text ≠ "")
      (plain : text.toList.head? ≠ some '=') :
      SpellsLetters l (c :: text.toList) [(f, some text)] none
  | next {f : Flag} {c : Char} (known : f ∈ l.flags) (letter : f.letter? = some c)
      (valued : f.takesValue = true) : SpellsLetters l [c] [] (some f)

/-- Words and the options they mention, in their order. -/
inductive Spells (l : Level) : List String → List Mention → Prop
  | nil : Spells l [] []
  | switch {f : Flag} {words : List String} {mentions : List Mention} (known : f ∈ l.flags)
      (bare : f.takesValue = false) (later : Spells l words mentions) :
      Spells l (("--" ++ f.longName) :: words) ((f, none) :: mentions)
  | equals {f : Flag} {words : List String} {mentions : List Mention} (known : f ∈ l.flags)
      (valued : f.takesValue = true) (text : String) (later : Spells l words mentions) :
      Spells l (("--" ++ f.longName ++ "=" ++ text) :: words) ((f, some text) :: mentions)
  | next {f : Flag} {words : List String} {mentions : List Mention} (known : f ∈ l.flags)
      (valued : f.takesValue = true) {text : String} (value : IsValueWord text)
      (later : Spells l words mentions) :
      Spells l (("--" ++ f.longName) :: text :: words) ((f, some text) :: mentions)
  | letters {c : Char} {letters : List Char} {here mentions : List Mention} {words : List String}
      (spelled : SpellsLetters l (c :: letters) here none) (later : Spells l words mentions) :
      Spells l (String.ofList ('-' :: c :: letters) :: words) (here ++ mentions)
  | lettersNext {c : Char} {letters : List Char} {here mentions : List Mention} {f : Flag}
      {words : List String} (spelled : SpellsLetters l (c :: letters) here (some f))
      {text : String} (value : IsValueWord text) (later : Spells l words mentions) :
      Spells l (String.ofList ('-' :: c :: letters) :: text :: words)
        (here ++ (f, some text) :: mentions)

/-! ### What is mentioned -/

/-- An option that is mentioned has a value if it takes one. -/
def IsMatched (m : Mention) : Prop := m.2.isSome = m.1.takesValue

theorem SpellsLetters.isMatched {l : Level} {letters : List Char} {mentions : List Mention}
    {last : Option Flag} (h : SpellsLetters l letters mentions last) :
    (∀ m ∈ mentions, IsMatched m) ∧ ∀ f ∈ last, f.takesValue = true := by
  induction h with
  | nil => simp
  | switch known letter bare later ih => exact ⟨List.forall_mem_cons.mpr ⟨bare.symm, ih.1⟩, ih.2⟩
  | equals known letter valued text => simp [IsMatched, valued]
  | attached known letter valued nonempty plain => simp [IsMatched, valued]
  | next known letter valued => simp [valued]

theorem Spells.isMatched {l : Level} {words : List String} {mentions : List Mention}
    (h : Spells l words mentions) : ∀ m ∈ mentions, IsMatched m := by
  induction h with
  | nil => simp
  | switch known bare later ih => simpa [IsMatched, bare] using ih
  | equals known valued text later ih => simpa [IsMatched, valued] using ih
  | next known valued value later ih => simpa [IsMatched, valued] using ih
  | letters spelled later ih =>
      intro m hm
      obtain hm | hm := List.mem_append.mp hm
      · exact spelled.isMatched.1 m hm
      · exact ih m hm
  | @lettersNext c letters here mentions f words spelled text value later ih =>
      intro m hm
      obtain hm | hm := List.mem_append.mp hm
      · exact spelled.isMatched.1 m hm
      · obtain rfl | hm := List.mem_cons.mp hm
        · exact (spelled.isMatched.2 f rfl).symm
        · exact ih m hm

/-! ### Reading -/

/-- Does what an option says. -/
def Given.take (l : Level) (g : Given) : Mention → Except Refusal Given
  | (f, some text) => g.put text f
  | (f, none) => g.raise l f

/-- Does what options say, one after the other. -/
def Given.takeAll (l : Level) (g : Given) (mentions : List Mention) : Except Refusal Given :=
  mentions.foldlM (Given.take l) g

theorem Given.takeAll_cons {l : Level} {g g' : Given} {m : Mention} {mentions : List Mention} :
    g.takeAll l (m :: mentions) = .ok g' ↔
      ∃ here, g.take l m = .ok here ∧ here.takeAll l mentions = .ok g' := by
  rw [takeAll, List.foldlM_cons]
  cases g.take l m <;> simp [takeAll, bind, Except.bind]

theorem Given.takeAll_append {l : Level} {g g' : Given} {here mentions : List Mention} :
    g.takeAll l (here ++ mentions) = .ok g' ↔
      ∃ middle, g.takeAll l here = .ok middle ∧ middle.takeAll l mentions = .ok g' := by
  rw [takeAll, List.foldlM_append, ← takeAll]
  cases g.takeAll l here <;> simp [takeAll, bind, Except.bind]

theorem Level.ofLongName?_longName {l : Level} {f : Flag} (h : f ∈ l.flags) :
    l.ofLongName? f.longName = some f := by
  rcases l with _ | c
  · cases f <;> first | rfl | exact absurd h (by decide)
  · cases c <;> cases f <;> first | rfl | exact absurd h (by decide)

theorem Level.ofLetter?_letter {l : Level} {f : Flag} (h : f ∈ l.flags) {c : Char}
    (hc : f.letter? = some c) : l.ofLetter? c = some f := by
  rcases l with _ | command
  · cases f <;> cases hc <;> rfl
  · cases command <;> cases f <;> cases hc <;> rfl

theorem Flag.equals_not_mem_longName (f : Flag) : ∀ c ∈ f.longName.toList, (c != '=') = true := by
  have hall : f.longName.toList.all (· != '=') = true := by cases f <;> rfl
  exact List.all_eq_true.mp hall

theorem Flag.longName_ne_nil (f : Flag) : f.longName.toList ≠ [] := by
  cases f <;> decide

theorem Flag.letter_ne_dash {f : Flag} {c : Char} (h : f.letter? = some c) : c ≠ '-' := by
  cases f <;> cases h <;> decide

/-- What starts with a dash is no command. -/
theorem Command.ofName?_dash (rest : List Char) :
    Command.ofName? (String.ofList ('-' :: rest)) = none := by
  have hname : ∀ c ∈ Command.all, ∀ text : String, text = c.name ∨ text = c.shortName →
      text.toList.head? ≠ some '-' := by
    rintro c - text (rfl | rfl) <;> cases c <;> decide
  rw [Command.ofName?, List.find?_eq_none]
  intro c hc hword
  simp only [Bool.or_eq_true, beq_iff_eq] at hword
  exact hname c hc _ (hword.imp Eq.symm Eq.symm) (by simp)

/-- What has been read amounts to `g`, and the next word is no value, or it is the one of `f`. -/
def Progress.Amounts (p : Progress) (g : Given) : Option Flag → Prop
  | none => p.flush = .ok g ∧ p.awaits = false
  | some f => p = ⟨g, some (f, none)⟩

theorem Progress.amounts_mk (g : Given) : Progress.Amounts ⟨g, none⟩ g none := ⟨rfl, rfl⟩

theorem Progress.letters_spelled {l : Level} {letters : List Char} {mentions : List Mention}
    {last : Option Flag} (h : SpellsLetters l letters mentions last) {p : Progress} {g g' : Given}
    (hp : p.Amounts g none) (htake : g.takeAll l mentions = .ok g') :
    ∃ q, p.letters l letters = .ok q ∧ q.Amounts g' last := by
  induction h generalizing p g with
  | nil =>
      cases htake
      exact ⟨p, rfl, hp⟩
  | @switch f c letters mentions last known letter bare later ih =>
      obtain ⟨here, hhere, htake⟩ := Given.takeAll_cons.mp htake
      obtain ⟨q, hq, hamounts⟩ := ih (Progress.amounts_mk here) htake
      refine ⟨q, ?_, hamounts⟩
      rw [Given.take] at hhere
      simp [Progress.letters, Level.ofLetter?_letter known letter, bare, Progress.raise, hp.1,
        hhere, bind, Except.bind, pure, Except.pure, hq]
  | @equals f c known letter valued text =>
      obtain ⟨here, hhere, htake⟩ := Given.takeAll_cons.mp htake
      cases htake
      rw [Given.take] at hhere
      refine ⟨⟨g', none⟩, ?_, Progress.amounts_mk g'⟩
      simp [Progress.letters, Level.ofLetter?_letter known letter, valued, Progress.put, hp.1,
        hhere, bind, Except.bind, pure, Except.pure]
  | @attached f c known letter valued text nonempty plain =>
      obtain ⟨here, hhere, htake⟩ := Given.takeAll_cons.mp htake
      cases htake
      rw [Given.take] at hhere
      refine ⟨⟨g', none⟩, ?_, Progress.amounts_mk g'⟩
      rw [Progress.letters]
      simp only [Level.ofLetter?_letter known letter, valued, if_true]
      split
      · next heq => exact absurd (String.toList_eq_nil_iff.mp heq) nonempty
      · next heq => simp [heq] at plain
      · simp [Progress.put, hp.1, hhere, bind, Except.bind, pure, Except.pure]
  | @next f c known letter valued =>
      cases htake
      refine ⟨⟨g', some (f, none)⟩, ?_, rfl⟩
      simp [Progress.letters, Level.ofLetter?_letter known letter, valued, Progress.await, hp.1,
        bind, Except.bind, pure, Except.pure]

theorem SpellsLetters.head_ne_dash {l : Level} {c : Char} {letters : List Char}
    {mentions : List Mention} {last : Option Flag}
    (h : SpellsLetters l (c :: letters) mentions last) : c ≠ '-' := by
  cases h with
  | switch known letter bare later => exact Flag.letter_ne_dash letter
  | equals known letter valued text => exact Flag.letter_ne_dash letter
  | attached known letter valued nonempty plain => exact Flag.letter_ne_dash letter
  | next known letter valued => exact Flag.letter_ne_dash letter

/-! ### Words -/

/-- A word that starts with a dash is neither a command nor a question for help. -/
theorem readWords_dash (l : Level) {word : String} {tail : List Char}
    (h : word.toList = '-' :: tail) (rest : List String) (p : Progress) :
    readWords l (word :: rest) p =
      match word.toList with
      | ['-', '-'] =>
        match rest with
        | [] => .ok (p, none)
        | word :: _ => .error (strayWord l true word)
      | '-' :: '-' :: name => (p.long l name).bind (readWords l rest)
      | '-' :: c :: letters => (p.letters l (c :: letters)).bind (readWords l rest)
      | _ =>
        if p.awaits then readWords l rest (p.supply word)
        else .error (strayWord l false word) := by
  have hcommand : Command.ofName? word = none := by
    rw [← String.ofList_toList (s := word), h]
    exact Command.ofName?_dash tail
  have hhelp : word ≠ "help" := by
    rintro rfl
    exact absurd h (by simp)
  rw [readWords.eq_def]
  simp only [hcommand, ite_self, hhelp, and_false, if_false]
  rfl

theorem readWords_letters (l : Level) {c : Char} (hc : c ≠ '-') (letters : List Char)
    (rest : List String) (p : Progress) :
    readWords l (String.ofList ('-' :: c :: letters) :: rest) p =
      (p.letters l (c :: letters)).bind (readWords l rest) := by
  rw [readWords_dash l (String.toList_ofList) rest p, String.toList_ofList]
  split
  · next heq => simp [hc] at heq
  · next heq => simp [hc] at heq
  · next heq =>
      cases heq
      rfl
  · next hother => exact absurd rfl (hother c letters)

theorem readWords_long (l : Level) {word : String} {name : List Char}
    (h : word.toList = '-' :: '-' :: name) (hname : name ≠ []) (rest : List String) (p : Progress) :
    readWords l (word :: rest) p = (p.long l name).bind (readWords l rest) := by
  obtain ⟨c, name, rfl⟩ := List.exists_cons_of_ne_nil hname
  rw [readWords_dash l h rest p, h]
  rfl

/-- The word after an option that waits for its value is the value. -/
theorem readWords_value (l : Level) {text : String} (h : IsValueWord text) (rest : List String)
    (g : Given) (f : Flag) :
    readWords l (text :: rest) ⟨g, some (f, none)⟩ =
      readWords l rest ⟨g, some (f, some text)⟩ := by
  rw [readWords.eq_def]
  simp only [Progress.awaits, Bool.not_true, Bool.false_eq_true, and_false, if_false, false_and,
    if_true]
  split
  · next heq => exact absurd heq (h _ _)
  · next heq => exact absurd heq (h _ _)
  · next heq => exact absurd heq (h _ _)
  · rfl

/-! ### Long names -/

theorem toList_longName (f : Flag) (text : List Char) :
    (f.longName.toList ++ text).takeWhile (· != '=') =
        f.longName.toList ++ text.takeWhile (· != '=') ∧
      (f.longName.toList ++ text).dropWhile (· != '=') = text.dropWhile (· != '=') :=
  ⟨List.takeWhile_append_of_pos f.equals_not_mem_longName,
    List.dropWhile_append_of_pos f.equals_not_mem_longName⟩

variable {l : Level} {f : Flag} {p : Progress} {g g' : Given}

theorem Progress.long_switch (known : f ∈ l.flags) (bare : f.takesValue = false)
    (hp : p.Amounts g none) (htake : g.take l (f, none) = .ok g') :
    p.long l f.longName.toList = .ok ⟨g', none⟩ := by
  obtain ⟨hname, hvalue⟩ := toList_longName f []
  rw [List.append_nil] at hname hvalue
  rw [Given.take] at htake
  simp [Progress.long, hname, hvalue, Level.ofLongName?_longName known, bare, Progress.raise, hp.1,
    htake, bind, Except.bind, pure, Except.pure]

theorem Progress.long_await (known : f ∈ l.flags) (valued : f.takesValue = true)
    (hp : p.Amounts g none) : p.long l f.longName.toList = .ok ⟨g, some (f, none)⟩ := by
  obtain ⟨hname, hvalue⟩ := toList_longName f []
  rw [List.append_nil] at hname hvalue
  simp [Progress.long, hname, hvalue, Level.ofLongName?_longName known, valued, Progress.await,
    hp.1, bind, Except.bind, pure, Except.pure]

theorem Progress.long_equals (known : f ∈ l.flags) (valued : f.takesValue = true) {text : String}
    (hp : p.Amounts g none) (htake : g.take l (f, some text) = .ok g') :
    p.long l (f.longName.toList ++ '=' :: text.toList) = .ok ⟨g', none⟩ := by
  obtain ⟨hname, hvalue⟩ := toList_longName f ('=' :: text.toList)
  rw [Given.take] at htake
  simp [Progress.long, hname, hvalue, Level.ofLongName?_longName known, valued, Progress.put, hp.1,
    htake, bind, Except.bind, pure, Except.pure]

/-! ### Spelled words -/

/-- Reading words that spell options does what the options say. -/
theorem readWords_spelled {words : List String} {mentions : List Mention}
    (h : Spells l words mentions) (hp : p.Amounts g none) (htake : g.takeAll l mentions = .ok g')
    (rest : List String) :
    ∃ q, readWords l (words ++ rest) p = readWords l rest q ∧ q.Amounts g' none := by
  induction h generalizing p g with
  | nil =>
      cases htake
      exact ⟨p, rfl, hp⟩
  | @switch f words mentions known bare later ih =>
      obtain ⟨here, hhere, htake⟩ := Given.takeAll_cons.mp htake
      obtain ⟨q, hq, hamounts⟩ := ih (Progress.amounts_mk here) htake
      refine ⟨q, ?_, hamounts⟩
      have hword : ("--" ++ f.longName).toList = '-' :: '-' :: f.longName.toList := by simp
      rw [List.cons_append, readWords_long l hword f.longName_ne_nil,
        Progress.long_switch known bare hp hhere]
      exact hq
  | @equals f words mentions known valued text later ih =>
      obtain ⟨here, hhere, htake⟩ := Given.takeAll_cons.mp htake
      obtain ⟨q, hq, hamounts⟩ := ih (Progress.amounts_mk here) htake
      refine ⟨q, ?_, hamounts⟩
      have hword : ("--" ++ f.longName ++ "=" ++ text).toList =
          '-' :: '-' :: (f.longName.toList ++ '=' :: text.toList) := by simp
      rw [List.cons_append, readWords_long l hword (by simp),
        Progress.long_equals known valued hp hhere]
      exact hq
  | @next f words mentions known valued text value later ih =>
      obtain ⟨here, hhere, htake⟩ := Given.takeAll_cons.mp htake
      obtain ⟨q, hq, hamounts⟩ :=
        ih (p := ⟨g, some (f, some text)⟩) (g := here) ⟨hhere, rfl⟩ htake
      refine ⟨q, ?_, hamounts⟩
      have hword : ("--" ++ f.longName).toList = '-' :: '-' :: f.longName.toList := by simp
      rw [List.cons_append, readWords_long l hword f.longName_ne_nil,
        Progress.long_await known valued hp]
      exact (readWords_value l value (words ++ rest) g f).trans hq
  | @letters c letters here mentions words spelled later ih =>
      obtain ⟨middle, hmiddle, htake⟩ := Given.takeAll_append.mp htake
      obtain ⟨p', hp', hletters⟩ := Progress.letters_spelled spelled hp hmiddle
      obtain ⟨q, hq, hamounts⟩ := ih hletters htake
      refine ⟨q, ?_, hamounts⟩
      rw [List.cons_append, readWords_letters l spelled.head_ne_dash, hp']
      exact hq
  | @lettersNext c letters here mentions f words spelled text value later ih =>
      obtain ⟨middle, hmiddle, htake⟩ := Given.takeAll_append.mp htake
      obtain ⟨p', hp', rfl⟩ := Progress.letters_spelled spelled hp hmiddle
      obtain ⟨after, hafter, htake⟩ := Given.takeAll_cons.mp htake
      obtain ⟨q, hq, hamounts⟩ :=
        ih (p := ⟨middle, some (f, some text)⟩) (g := after) ⟨hafter, rfl⟩ htake
      refine ⟨q, ?_, hamounts⟩
      rw [List.cons_append, readWords_letters l spelled.head_ne_dash, hp']
      exact (readWords_value l value (words ++ rest) middle f).trans hq

end BrokerMonitor.CommandLine
