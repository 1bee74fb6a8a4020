import Mathlib.Data.List.TakeWhile
import BrokerMonitor.Json.Records
import BrokerMonitor.Proofs.Json.Layout
/-!
# Reading laid out JSON

`Reads` says that a reader takes a value from the text of a JSON value and leaves what follows it
alone, whatever the layout is. There is a law for each kind of value: a text is read from its
escaped form, a number from its digits, a list item by item, and a structure field by field.
-/

namespace BrokerMonitor.Json

/-! ### Blanks -/

theorem skipBlanks_append {blanks : List Char} (h : ∀ c ∈ blanks, isBlank c = true)
    (text : List Char) : skipBlanks (blanks ++ text) = skipBlanks text :=
  List.dropWhile_append_of_pos h

theorem skipBlanks_cons {c : Char} (h : isBlank c = false) (text : List Char) :
    skipBlanks (c :: text) = c :: text :=
  List.dropWhile_cons_of_neg (by simp [h])

/-- A number that comes before does not go on here. -/
def Stops (rest : List Char) : Prop :=
  ∀ c ∈ rest.head?, isDigit c = false ∧ c ≠ '.' ∧ c ≠ 'e' ∧ c ≠ 'E'

theorem Stops.nil : Stops [] := by simp [Stops]

theorem Stops.cons {c : Char} (hc : isDigit c = false ∧ c ≠ '.' ∧ c ≠ 'e' ∧ c ≠ 'E')
    (rest : List Char) : Stops (c :: rest) := by
  simpa [Stops] using hc

/-- A number does not go on with blanks, and neither with punctuation after them. -/
theorem Stops.blanks {blanks : List Char} (h : ∀ c ∈ blanks, isBlank c = true) {c : Char}
    (hc : isDigit c = false ∧ c ≠ '.' ∧ c ≠ 'e' ∧ c ≠ 'E') (rest : List Char) :
    Stops (blanks ++ c :: rest) := by
  cases blanks with
  | nil => exact .cons hc rest
  | cons b blanks =>
      have hblank := h b List.mem_cons_self
      simp only [isBlank, Bool.or_eq_true, decide_eq_true_eq] at hblank
      rcases hblank with ((rfl | rfl) | rfl) | rfl <;> simp [Stops] <;> decide

/-- From the text of `j`, after any blanks, the reader takes `a`, and it leaves what follows the
text alone. -/
def Reads {α : Type} (reader : Reader α) (j : Json) (a : α) : Prop :=
  ∀ (l : Layout) (level : Nat) (blanks rest : List Char), l.IsBlank →
    (∀ c ∈ blanks, isBlank c = true) → Stops rest →
    reader (blanks ++ (j.layOut l level ++ rest)) = .ok (a, rest)

/-- Whatever is read is read as a whole. -/
theorem Reads.readAll {α : Type} {reader : Reader α} {j : Json} {a : α} (h : Reads reader j a)
    {l : Layout} (hl : l.IsBlank) : Json.readAll reader (String.ofList (j.layOut l 0)) = .ok a := by
  have hread := h l 0 [] [] hl (by simp) .nil
  rw [List.nil_append, List.append_nil] at hread
  simp only [Json.readAll, String.toList_ofList, hread]
  rfl

/-- What is read can be made into something else. -/
theorem Reads.map {α β : Type} {reader : Reader α} {j : Json} {a : α} (h : Reads reader j a)
    (f : α → β) : Reads (fun text => do
      let (a, rest) ← reader text
      return (f a, rest)) j (f a) := by
  intro l level blanks rest hl hblanks hrest
  simp only [h l level blanks rest hl hblanks hrest]
  rfl

/-! ### Texts -/

theorem hexValue?_hexDigit {n : Nat} (h : n < 16) : hexValue? (hexDigit n) = some n := by
  have hall : ∀ n < 16, hexValue? (hexDigit n) = some n := by decide
  exact hall n h

/-- The escape of a control character. -/
theorem readEscape_control {c : Char} (h : c.toNat < 0x20) (rest : List Char) :
    readEscape ('u' :: '0' :: '0' :: hexDigit (c.toNat / 16) :: hexDigit (c.toNat % 16) :: rest) =
      .ok (c, rest) := by
  have hhex : readHex ('0' :: '0' :: hexDigit (c.toNat / 16) :: hexDigit (c.toNat % 16) :: rest) =
      .ok (c.toNat, rest) := by
    have hlong : ¬ (String.ofList (('0' :: '0' :: hexDigit (c.toNat / 16) ::
        hexDigit (c.toNat % 16) :: rest).take 4)).utf8ByteSize < 4 := by
      have hfirst := (hexDigit (c.toNat / 16)).utf8Size_pos
      have hsecond := (hexDigit (c.toNat % 16)).utf8Size_pos
      have hzero : "0".utf8ByteSize = 1 := rfl
      simp [hzero]
      omega
    have hhigh := hexValue?_hexDigit (n := c.toNat / 16) (by omega)
    have hlow := hexValue?_hexDigit (n := c.toNat % 16) (by omega)
    have hzero : hexValue? '0' = some 0 := by decide
    have hvalue : ((0 * 16 + 0) * 16 + c.toNat / 16) * 16 + c.toNat % 16 = c.toNat := by omega
    rw [readHex, if_neg hlong]
    simp only [hzero, hhigh, hlow, hvalue]
  have hplain : isLowSurrogate c.toNat = false ∧ isHighSurrogate c.toNat = false := by
    simp only [isLowSurrogate, isHighSurrogate, Bool.and_eq_false_iff, decide_eq_false_iff_not]
    omega
  simp [readEscape, readCodePoint, hhex, hplain, bind, Except.bind]

/-- One character of a text, from its escaped form. -/
theorem readChars_escapeChar (turns : Nat) (c : Char) (rest : List Char) :
    readChars (turns + 1) (escapeChar c ++ rest) =
      (readChars turns rest).map fun (cs, rest) => (c :: cs, rest) := by
  have hlater : ∀ rest, ((readChars turns rest).bind fun p => .ok (c :: p.1, p.2)) =
      (readChars turns rest).map fun (cs, rest) => (c :: cs, rest) :=
    fun rest => by cases readChars turns rest <;> rfl
  have hescaped : ∀ text, readEscape (text ++ rest) = .ok (c, rest) →
      readChars (turns + 1) ('\\' :: text ++ rest) =
        (readChars turns rest).map fun (cs, rest) => (c :: cs, rest) := by
    intro text htext
    simp only [readChars, List.cons_append, htext, bind, Except.bind, pure, Except.pure]
    exact hlater rest
  unfold escapeChar
  split_ifs with hquote hfeed hreturn htab hback hform hcontrol
  · rcases hquote with rfl | rfl <;> exact hescaped [_] rfl
  · subst hfeed; exact hescaped ['n'] rfl
  · subst hreturn; exact hescaped ['r'] rfl
  · subst htab; exact hescaped ['t'] rfl
  · subst hback; exact hescaped ['b'] rfl
  · subst hform; exact hescaped ['f'] rfl
  · exact hescaped ['u', '0', '0', _, _] (readEscape_control hcontrol rest)
  · rw [not_or] at hquote
    simp only [List.singleton_append, readChars, if_neg hquote.1, if_neg hquote.2,
      if_neg hcontrol, bind, Except.bind, pure, Except.pure]
    exact hlater rest

theorem length_escapeChar_pos (c : Char) : 0 < (escapeChar c).length := by
  unfold escapeChar
  split_ifs <;> simp

/-- A text is read back from between its quotes. -/
theorem readChars_flatMap_escapeChar (cs : List Char) {turns : Nat} (h : cs.length < turns)
    (rest : List Char) :
    readChars turns (cs.flatMap escapeChar ++ '"' :: rest) = .ok (cs, rest) := by
  induction cs generalizing turns with
  | nil =>
      obtain ⟨turns, rfl⟩ := Nat.exists_eq_add_one_of_ne_zero (Nat.ne_zero_of_lt h)
      simp [readChars]
  | cons c cs ih =>
      obtain ⟨turns, rfl⟩ := Nat.exists_eq_add_one_of_ne_zero (Nat.ne_zero_of_lt h)
      rw [List.flatMap_cons, List.append_assoc, readChars_escapeChar,
        ih (by simpa using h)]
      rfl

theorem readTextBody_writeText (s : String) (rest : List Char) :
    readTextBody (s.toList.flatMap escapeChar ++ '"' :: rest) = .ok (s, rest) := by
  have hlong : s.toList.length < (s.toList.flatMap escapeChar ++ '"' :: rest).length := by
    have hle : s.toList.length ≤ (s.toList.flatMap escapeChar).length := by
      induction s.toList with
      | nil => simp
      | cons c cs ih =>
          have hpos := length_escapeChar_pos c
          simp only [List.flatMap_cons, List.length_append, List.length_cons]
          omega
    simp only [List.length_append, List.length_cons]
    omega
  rw [readTextBody, readChars_flatMap_escapeChar _ hlong]
  simp [bind, Except.bind, pure, Except.pure]

theorem Reads.text (expected : String) (s : String) : Reads (readText expected) (.string s) s := by
  intro l level blanks rest _ hblanks _
  rw [readText, skipBlanks_append hblanks]
  simp only [layOut, writeText, List.cons_append, List.append_assoc, List.nil_append]
  rw [skipBlanks_cons (by decide)]
  exact readTextBody_writeText s rest

/-! ### Truth values -/

theorem readWord_append (word rest : List Char) :
    readWord word (word ++ rest) = .ok ((), rest) := by
  induction word with
  | nil => rfl
  | cons c word ih => simpa [readWord] using ih

theorem Reads.bool (b : Bool) : Reads readBool (.bool b) b := by
  intro l level blanks rest _ hblanks _
  rw [readBool, skipBlanks_append hblanks]
  cases b with
  | false =>
      have hword : (Json.bool false).layOut l level = 'f' :: "alse".toList := rfl
      rw [hword, List.cons_append, skipBlanks_cons (by decide)]
      simp only [readWord_append]
      rfl
  | true =>
      have hword : (Json.bool true).layOut l level = 't' :: "rue".toList := rfl
      rw [hword, List.cons_append, skipBlanks_cons (by decide)]
      simp only [readWord_append]
      rfl

/-! ### Numbers -/

theorem isDigit_of_mem_writeNumber {n : Nat} {c : Char} (h : c ∈ writeNumber n) :
    isDigit c = true := by
  have hdigit := Nat.isDigit_of_mem_toDigits (by decide) (by decide) h
  simp only [Char.isDigit, Bool.and_eq_true, decide_eq_true_eq] at hdigit
  simpa [isDigit, Char.le_def] using hdigit

/-- A number that is not zero does not start with a zero. -/
theorem exists_writeNumber_eq_cons {n : Nat} (h : 0 < n) :
    ∃ c digits, writeNumber n = c :: digits ∧ c ≠ '0' := by
  induction n using Nat.strongRecOn with
  | ind n ih =>
      by_cases hsmall : n < 10
      · have hdigit : ∀ n < 10, 0 < n → n.digitChar ≠ '0' := by decide
        exact ⟨_, [], Nat.toDigits_of_lt_base hsmall, hdigit n hsmall h⟩
      · obtain ⟨c, digits, hdigits, hc⟩ := ih (n / 10) (by omega) (by omega)
        refine ⟨c, digits ++ [(n % 10).digitChar], ?_, hc⟩
        rw [writeNumber, Nat.toDigits_of_base_le (by decide) (by omega), ← writeNumber, hdigits,
          List.cons_append]

/-- As long as the number fits, every digit is taken into it. -/
theorem takeDigits_eq {digits : List Char} {n : Nat}
    (h : Nat.ofDigitChars 10 digits n < UInt64.size) :
    takeDigits n digits = (Nat.ofDigitChars 10 digits n, digits.length, 0) := by
  induction digits generalizing n with
  | nil => rfl
  | cons c digits ih =>
      have hnext : n * 10 + digitValue c = 10 * n + (c.toNat - '0'.toNat) := by
        rw [digitValue, Nat.mul_comm]
      rw [Nat.ofDigitChars_cons, ← hnext] at h ⊢
      -- What has been read so far is no more than the whole.
      have hfits : n * 10 + digitValue c < UInt64.size := by
        rw [Nat.ofDigitChars_eq_ofDigitChars_zero] at h
        have hpower : 0 < 10 ^ digits.length := Nat.pow_pos (by decide)
        have hle := Nat.le_mul_of_pos_left (n * 10 + digitValue c) hpower
        omega
      simp only [takeDigits, if_pos hfits, ih h, List.length_cons]

/-- A whole number ends where neither a point nor an exponent comes next. -/
theorem readMagnitude_of_stops {c : Char} {tail rest : List Char} {n taken : Nat}
    (hc : isDigit c = true)
    (hdigits : takeDigits 0 (if c = '0' then ['0'] else (c :: tail).takeWhile isDigit) =
      (n, taken, 0))
    (hafter : (if c = '0' then tail else (c :: tail).dropWhile isDigit) = rest)
    (hrest : Stops rest) : readMagnitude false (c :: tail) = .ok (.integer n, rest) := by
  simp only [readMagnitude, hc, if_true, hdigits, hafter]
  split
  · exact absurd rfl (hrest '.' rfl).2.1
  · exact absurd rfl (hrest 'e' rfl).2.2.1
  · exact absurd rfl (hrest 'E' rfl).2.2.2
  · next d _ _ _ _ =>
      have hd : isDigit d = false := (hrest d rfl).1
      simp [hd, wholeNumber]
  · rfl

/-- A number that fits in 64 bits is read back from its digits. -/
theorem readNumber_writeNumber {n : Nat} (h : n < UInt64.size) {rest : List Char}
    (hrest : Stops rest) : readNumber (writeNumber n ++ rest) = .ok (.integer n, rest) := by
  have hvalue : Nat.ofDigitChars 10 (writeNumber n) 0 = n := Nat.ofDigitChars_ten_toDigits
  have htaken : takeDigits 0 (writeNumber n) =
      (Nat.ofDigitChars 10 (writeNumber n) 0, (writeNumber n).length, 0) :=
    takeDigits_eq (by rwa [hvalue])
  rw [hvalue] at htaken
  rcases Nat.eq_zero_or_pos n with rfl | hpos
  · exact readMagnitude_of_stops (c := '0') (by decide) htaken (if_pos rfl) hrest
  · obtain ⟨c, digits, hdigits, hc⟩ := exists_writeNumber_eq_cons hpos
    have hdigit : isDigit c = true := isDigit_of_mem_writeNumber (by rw [hdigits]; simp)
    have hstop : (writeNumber n ++ rest).takeWhile isDigit = writeNumber n ∧
        (writeNumber n ++ rest).dropWhile isDigit = rest := by
      rw [List.takeWhile_append_of_pos fun _ => isDigit_of_mem_writeNumber,
        List.dropWhile_append_of_pos fun _ => isDigit_of_mem_writeNumber]
      cases rest with
      | nil => simp
      | cons d rest => simp [(hrest d rfl).1]
    rw [hdigits, List.cons_append] at hstop ⊢
    have hsign : c ≠ '-' := by
      rintro rfl
      cases hdigit
    rw [readNumber]
    · refine readMagnitude_of_stops hdigit ((congrArg (takeDigits 0) ?_).trans htaken) ?_ hrest
      · rw [if_neg hc, hstop.1, ← hdigits]
      · rw [if_neg hc, hstop.2]
    · rintro tail ⟨⟩
      exact hsign rfl

theorem isBlank_eq_false_of_isDigit {c : Char} (h : isDigit c = true) : isBlank c = false := by
  by_contra hblank
  simp only [isBlank, Bool.or_eq_true, decide_eq_true_eq, Bool.not_eq_false] at hblank
  rcases hblank with ((rfl | rfl) | rfl) | rfl <;> cases h

theorem exists_digit_of_writeNumber (n : Nat) :
    ∃ c digits, writeNumber n = c :: digits ∧ isDigit c = true := by
  obtain ⟨c, digits, hdigits⟩ : ∃ c digits, writeNumber n = c :: digits :=
    List.exists_cons_of_ne_nil Nat.toDigits_ne_nil
  exact ⟨c, digits, hdigits, isDigit_of_mem_writeNumber (by rw [hdigits]; simp)⟩

/-- A number is read where it is below the bound. -/
theorem Reads.nat {bound : Nat} (hbound : bound ≤ UInt64.size) (expected : String) {n : Nat}
    (h : n < bound) : Reads (readNat bound expected) (.number n) n := by
  intro l level blanks rest _ hblanks hrest
  have hread := readNumber_writeNumber (Nat.lt_of_lt_of_le h hbound) hrest
  obtain ⟨c, digits, hdigits, hdigit⟩ := exists_digit_of_writeNumber n
  rw [readNat, skipBlanks_append hblanks]
  simp only [layOut, hdigits, List.cons_append] at hread ⊢
  rw [skipBlanks_cons (isBlank_eq_false_of_isDigit hdigit)]
  simp [hdigit, hread, h, bind, Except.bind, pure, Except.pure]

/-! ### Lists -/

/-- A value starts with a character that is no blank and does not close an array. -/
theorem exists_layOut_eq_cons (l : Layout) (level : Nat) (j : Json) :
    ∃ c text, j.layOut l level = c :: text ∧ isBlank c = false ∧ c ≠ ']' := by
  cases j with
  | bool b => cases b <;> exact ⟨_, _, rfl, by decide, by decide⟩
  | number n =>
      obtain ⟨c, digits, hdigits, hdigit⟩ := exists_digit_of_writeNumber n
      refine ⟨c, digits, hdigits, isBlank_eq_false_of_isDigit hdigit, ?_⟩
      rintro rfl
      cases hdigit
  | string s => exact ⟨'"', _, rfl, by decide, by decide⟩
  | array items => exact ⟨'[', _, rfl, by decide, by decide⟩
  | object fields => exact ⟨'\x7b', _, rfl, by decide, by decide⟩

/-- A number before the end of an array, or before its next item, ends there. -/
theorem stops_layOutItems {l : Layout} (hl : l.IsBlank) (level : Nat) (items : List Json)
    (rest : List Char) : Stops (layOutItems l level false items ++ rest) := by
  cases items with
  | nil =>
      rw [layOutItems, if_neg (by decide), List.append_assoc]
      exact .blanks (hl.gap level) (by decide) rest
  | cons j items =>
      rw [layOutItems, if_neg (by decide)]
      simp only [List.append_assoc, List.singleton_append]
      exact .cons (by decide) _

/-- The closing bracket is left to be read. -/
theorem nextItem_layOutItems_nil {l : Layout} (hl : l.IsBlank) (level : Nat) (first : Bool)
    (rest : List Char) :
    nextItem first (layOutItems l level first [] ++ rest) = .ok (false, ']' :: rest) := by
  have hblanks : ∀ c ∈ (if first then [] else l.gap level), isBlank c = true := by
    intro c hc
    split at hc
    · cases hc
    · exact hl.gap level c hc
  rw [nextItem, layOutItems, List.append_assoc, skipBlanks_append hblanks, List.singleton_append,
    skipBlanks_cons (by decide)]
  rfl

/-- A comma stands before an item that is not the first. -/
theorem nextItem_layOutItems_cons {l : Layout} (hl : l.IsBlank) (level : Nat) (first : Bool)
    (j : Json) (items : List Json) (rest : List Char) :
    nextItem first (layOutItems l level first (j :: items) ++ rest) =
      .ok (true, j.layOut l (level + 1) ++ (layOutItems l level false items ++ rest)) := by
  obtain ⟨c, text, htext, hblank, hopen⟩ := exists_layOut_eq_cons l (level + 1) j
  have hitem : ∀ later, skipBlanks (l.gap (level + 1) ++ c :: later) = c :: later := fun later => by
    rw [skipBlanks_append (hl.gap (level + 1)), skipBlanks_cons hblank]
  cases first with
  | true => simp [nextItem, layOutItems, htext, hitem]
  | false =>
      have hcomma : isBlank ',' = false := by decide
      simp [nextItem, layOutItems, skipBlanks_cons hcomma, htext, hitem, hopen]

/-- Every item takes a character at least. -/
theorem length_lt_layOutItems (l : Layout) (level : Nat) (first : Bool) (items : List Json) :
    items.length < (layOutItems l level first items).length := by
  induction items generalizing first with
  | nil => simp [layOutItems]
  | cons j items ih =>
      obtain ⟨c, text, htext, -⟩ := exists_layOut_eq_cons l (level + 1) j
      have hlater := ih false
      simp only [layOutItems, htext, List.length_append, List.length_cons] at hlater ⊢
      omega

/-- Items are read up to the closing bracket. -/
theorem readItems_layOutItems {α : Type} {item : Reader α} {write : α → Json} {as : List α}
    (h : ∀ a ∈ as, Reads item (write a) a) {l : Layout} (hl : l.IsBlank) (level : Nat)
    (first : Bool) {turns : Nat} (hturns : as.length < turns) (rest : List Char) :
    readItems item turns first (layOutItems l level first (as.map write) ++ rest) =
      .ok (as, ']' :: rest) := by
  induction as generalizing turns first with
  | nil =>
      obtain ⟨turns, rfl⟩ := Nat.exists_eq_add_one_of_ne_zero (Nat.ne_zero_of_lt hturns)
      rw [readItems, List.map_nil, nextItem_layOutItems_nil hl]
      rfl
  | cons a as ih =>
      obtain ⟨turns, rfl⟩ := Nat.exists_eq_add_one_of_ne_zero (Nat.ne_zero_of_lt hturns)
      have hitem := h a List.mem_cons_self l (level + 1) [] _ hl (by simp)
        (stops_layOutItems hl level (as.map write) rest)
      have hlater := ih (fun b hb => h b (List.mem_cons_of_mem a hb)) false
        (by simpa using hturns)
      rw [List.nil_append] at hitem
      rw [readItems, List.map_cons, nextItem_layOutItems_cons hl]
      simp only [bind, Except.bind, hitem, hlater]
      rfl

theorem Reads.list {α : Type} {item : Reader α} {write : α → Json} {as : List α}
    (h : ∀ a ∈ as, Reads item (write a) a) : Reads (readList item) (.ofList write as) as := by
  intro l level blanks rest hl hblanks _
  have hlong : as.length < (layOutItems l level true (as.map write) ++ rest).length := by
    have hlt := length_lt_layOutItems l level true (as.map write)
    rw [List.length_map] at hlt
    rw [List.length_append]
    omega
  rw [readList, skipBlanks_append hblanks]
  simp only [ofList, layOut, List.cons_append]
  rw [skipBlanks_cons (by decide)]
  simp only [readItems_layOutItems h hl level true hlong rest, bind, Except.bind, endArray]
  rw [skipBlanks_cons (by decide)]
  rfl

/-- A list of texts. -/
theorem Reads.strings (expected : String) (items : List String) :
    Reads (readList (readText expected)) (.strings items) items :=
  .list fun s _ => .text expected s

/-! ### Structures -/

/-- A number before the end of an object, or before its next field, ends there. -/
theorem stops_layOutFields {l : Layout} (hl : l.IsBlank) (level : Nat)
    (fields : List (String × Json)) (rest : List Char) :
    Stops (layOutFields l level false fields ++ rest) := by
  rcases fields with _ | ⟨⟨key, j⟩, fields⟩
  · rw [layOutFields, if_neg (by decide), List.append_assoc]
    exact .blanks (hl.gap level) (by decide) rest
  · rw [layOutFields, if_neg (by decide)]
    simp only [List.append_assoc, List.singleton_append]
    exact .cons (by decide) _

/-- The closing brace is left to be read. -/
theorem nextKey_layOutFields_nil {l : Layout} (hl : l.IsBlank) (level : Nat) (first : Bool)
    (rest : List Char) :
    nextKey first (layOutFields l level first [] ++ rest) = .ok (false, '\x7d' :: rest) := by
  have hblanks : ∀ c ∈ (if first then [] else l.gap level), isBlank c = true := by
    intro c hc
    split at hc
    · cases hc
    · exact hl.gap level c hc
  rw [nextKey, layOutFields, List.append_assoc, skipBlanks_append hblanks, List.singleton_append,
    skipBlanks_cons (by decide)]
  rfl

/-- The text of a field after the quote that opens its key. -/
def fieldText (l : Layout) (level : Nat) (key : String) (j : Json) : List Char :=
  key.toList.flatMap escapeChar ++ '"' :: ':' :: (l.afterColon ++ j.layOut l (level + 1))

/-- A comma stands before a field that is not the first. -/
theorem nextKey_layOutFields_cons {l : Layout} (hl : l.IsBlank) (level : Nat) (first : Bool)
    (key : String) (j : Json) (fields : List (String × Json)) (rest : List Char) :
    nextKey first (layOutFields l level first ((key, j) :: fields) ++ rest) =
      .ok (true, fieldText l level key j ++ (layOutFields l level false fields ++ rest)) := by
  have hquote : isBlank '"' = false := by decide
  have hcomma : isBlank ',' = false := by decide
  cases first with
  | true =>
      simp [nextKey, layOutFields, fieldText, writeText, skipBlanks_append (hl.gap (level + 1)),
        skipBlanks_cons hquote]
  | false =>
      simp [nextKey, layOutFields, fieldText, writeText, skipBlanks_append (hl.gap (level + 1)),
        skipBlanks_cons hquote, skipBlanks_cons hcomma]

theorem length_lt_layOutFields (l : Layout) (level : Nat) (first : Bool)
    (fields : List (String × Json)) :
    fields.length < (layOutFields l level first fields).length := by
  induction fields generalizing first with
  | nil => simp [layOutFields]
  | cons f fields ih =>
      have hlater := ih false
      simp only [layOutFields, List.length_append, List.length_cons] at hlater ⊢
      omega

/-- The key of a field and the colon after it. -/
theorem readKey_fieldText (l : Layout) (level : Nat) (key : String) (j : Json)
    (rest : List Char) :
    readTextBody (fieldText l level key j ++ rest) =
      .ok (key, ':' :: (l.afterColon ++ (j.layOut l (level + 1) ++ rest))) ∧
    ∀ after, readColon (':' :: after) = .ok ((), after) := by
  refine ⟨?_, fun after => ?_⟩
  · simpa [fieldText] using readTextBody_writeText key
      (':' :: (l.afterColon ++ (j.layOut l (level + 1) ++ rest)))
  · rw [readColon, skipBlanks_cons (by decide)]
    rfl

/-- A field is read when its value is. -/
theorem FieldReader.reads_of {σ α : Type} {name : String} {place : σ → Option α} {put : α → σ → σ}
    {value : Reader α} {j : Json} {a : α} (h : Reads value j a) (parts : σ) :
    Reads ((FieldReader.of name place put value).read parts) j (put a parts) := by
  intro l level blanks rest hl hblanks hrest
  simp only [FieldReader.of, h l level blanks rest hl hblanks hrest, bind, Except.bind]
  rfl

namespace StructReader

variable {σ : Type} {s : StructReader σ}

/-- Fields, read one after the other, take what has been read from one state to another. Each is a
field of the structure that has not been read before. -/
inductive Fills (s : StructReader σ) : List (String × Json) → σ → σ → Prop
  | nil (parts : σ) : Fills s [] parts parts
  | cons {key : String} {j : Json} {fields : List (String × Json)} {a b c : σ}
      {field : FieldReader σ} (known : s.fields.find? (·.name == key) = some field)
      (new : field.isRead a = false) (value : Reads (field.read a) j b)
      (later : Fills s fields b c) :
      Fills s ((key, j) :: fields) a c

/-- Fields are read up to the closing brace. -/
theorem Fills.readByName {fields : List (String × Json)} {a b : σ} (h : s.Fills fields a b)
    {l : Layout} (hl : l.IsBlank) (level : Nat) (first : Bool) {turns : Nat}
    (hturns : fields.length < turns) (rest : List Char) :
    s.readByName turns first a (layOutFields l level first fields ++ rest) =
      .ok (b, '\x7d' :: rest) := by
  induction h generalizing turns first with
  | nil parts =>
      obtain ⟨turns, rfl⟩ := Nat.exists_eq_add_one_of_ne_zero (Nat.ne_zero_of_lt hturns)
      rw [StructReader.readByName, nextKey_layOutFields_nil hl]
      rfl
  | @cons key j fields a b c field known new value later ih =>
      obtain ⟨turns, rfl⟩ := Nat.exists_eq_add_one_of_ne_zero (Nat.ne_zero_of_lt hturns)
      obtain ⟨hkey, hcolon⟩ :=
        readKey_fieldText l level key j (layOutFields l level false fields ++ rest)
      have hvalue := value l (level + 1) l.afterColon _ hl hl.afterColon
        (stops_layOutFields hl level fields rest)
      have hlater := ih false (by simpa using hturns)
      rw [StructReader.readByName, nextKey_layOutFields_cons hl]
      simp only [bind, Except.bind, hkey, known, new, hcolon, hvalue, hlater,
        if_neg Bool.false_ne_true]

/-- A structure is read from its fields if none is missing. -/
theorem Fills.reads {fields : List (String × Json)} {none parts : σ}
    (h : s.Fills fields none parts) (hwhole : s.missing? parts = Option.none) :
    Reads (s.read none) (.object fields) parts := by
  intro l level blanks rest hl hblanks _
  have hlong : fields.length < (layOutFields l level true fields ++ rest).length := by
    have hlt := length_lt_layOutFields l level true fields
    rw [List.length_append]
    omega
  rw [StructReader.read, skipBlanks_append hblanks]
  simp only [layOut, List.cons_append]
  rw [skipBlanks_cons (by decide)]
  simp only [h.readByName hl level true hlong rest, bind, Except.bind, hwhole, endObject]
  rw [skipBlanks_cons (by decide)]
  rfl

end StructReader

end BrokerMonitor.Json
