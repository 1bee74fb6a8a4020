import BrokerMonitor.Proofs.Json.Reading
/-!
# Reading records and whole documents

A record is read back from its text, and so is a list of records. A document is a value of which
nothing is known beforehand but that it is one of those that are written: a truth value, a number
that fits in 64 bits, a text, an array or an object.
-/

namespace BrokerMonitor

/-! ### Records -/

section Records

open Json (Reads FieldReader)
open Json.StructReader (Fills)

theorem Channel.reads_json (c : Channel) : Reads readJson c.json c := by
  have hfills : Fills structReader [("topic", .string c.topic),
      ("publishers", .strings c.publishers), ("subscribers", .strings c.subscribers),
      ("message_count", .number c.messageCount.toNat)] {}
      ⟨some c.topic, some c.publishers, some c.subscribers, some c.messageCount.toNat⟩ := by
    refine .cons rfl rfl (FieldReader.reads_of (.text _ c.topic) _) ?_
    refine .cons rfl rfl (FieldReader.reads_of (.strings _ c.publishers) _) ?_
    refine .cons rfl rfl (FieldReader.reads_of (.strings _ c.subscribers) _) ?_
    refine .cons rfl rfl (FieldReader.reads_of (.nat (by decide) _ c.messageCount.toNat_lt) _) ?_
    exact .nil _
  have hread := (hfills.reads rfl).map Parts.channel
  simp only [Parts.channel, Option.getD_some, UInt32.ofNat_toNat] at hread
  exact hread

theorem Adapter.reads_json (a : Adapter) : Reads readJson a.json a := by
  have hfills : Fills structReader [("name", .string a.name), ("live", .bool a.live),
      ("description", .string a.description), ("stats", .strings a.stats)] {}
      ⟨some a.name, some a.live, some a.description, some a.stats⟩ := by
    refine .cons rfl rfl (FieldReader.reads_of (.text _ a.name) _) ?_
    refine .cons rfl rfl (FieldReader.reads_of (.bool a.live) _) ?_
    refine .cons rfl rfl (FieldReader.reads_of (.text _ a.description) _) ?_
    refine .cons rfl rfl (FieldReader.reads_of (.strings _ a.stats) _) ?_
    exact .nil _
  exact (hfills.reads rfl).map Parts.adapter

theorem Resource.reads_recordJson (r : Resource) (record : r.Record) :
    Reads r.readRecord (r.recordJson record) record := by
  cases r with
  | channels => exact Channel.reads_json record
  | adapters => exact Adapter.reads_json record

end Records

namespace Json

/-! ### Documents -/

/-- Reads the fields of an object up to its end. Each takes a character at least. -/
def readFields (value : Reader Json) :
    (turns : Nat) → (first : Bool) → Reader (List (String × Json))
  | 0, _, _ => .error .truncated
  | turns + 1, first, text => do
    match ← nextKey first text with
    | (false, rest) => return ([], rest)
    | (true, rest) =>
      let (key, rest) ← readTextBody rest
      let ((), rest) ← readColon rest
      let (j, rest) ← value rest
      let (more, rest) ← readFields value turns false rest
      return ((key, j) :: more, rest)

/-- Reads a truth value, a text or a number. -/
def readScalar : Reader Json := fun text =>
  match skipBlanks text with
  | '"' :: rest => do
    let (s, rest) ← readText "a value" ('"' :: rest)
    return (.string s, rest)
  | 't' :: rest => do
    let (b, rest) ← readBool ('t' :: rest)
    return (.bool b, rest)
  | 'f' :: rest => do
    let (b, rest) ← readBool ('f' :: rest)
    return (.bool b, rest)
  | text => do
    let (n, rest) ← readNat UInt64.size "a value" text
    return (.number n, rest)

/-- Reads a value in which at most so many brackets are open at once. -/
def readValue : (levels : Nat) → Reader Json
  | 0, text => readScalar text
  | levels + 1, text =>
    match skipBlanks text with
    | '[' :: rest => do
      let (items, rest) ← readList (readValue levels) ('[' :: rest)
      return (.array items, rest)
    | '\x7b' :: rest => do
      let (fields, rest) ← readFields (readValue levels) rest.length true rest
      let ((), rest) ← endObject rest
      return (.object fields, rest)
    | text => readScalar text

/-- How many brackets may be open at once in a document. -/
def maxDepth : Nat := 127

/-- Reads a document. -/
def readDocument (text : String) : Except Fault Json := readAll (readValue maxDepth) text

/-- A value that is read as itself. -/
def IsRead (levels : Nat) (j : Json) : Prop := Reads (readValue levels) j j

/-- A value that is no array and no object is read on every level. -/
theorem IsRead.of_scalar {j : Json} (h : Reads readScalar j j) {c : Char}
    (hhead : ∀ l level, ∃ text, j.layOut l level = c :: text) (hblank : isBlank c = false)
    (harray : c ≠ '[') (hobject : c ≠ '\x7b') (levels : Nat) : IsRead levels j := by
  cases levels with
  | zero => exact h
  | succ levels =>
      intro l level blanks rest hl hblanks hrest
      obtain ⟨text, htext⟩ := hhead l level
      have hread := h l level [] rest hl (by simp) hrest
      rw [readValue, skipBlanks_append hblanks]
      simp only [htext, List.nil_append, List.cons_append, skipBlanks_cons hblank] at hread ⊢
      split
      · next heq => exact absurd (List.cons.inj heq).1 harray
      · next heq => exact absurd (List.cons.inj heq).1 hobject
      · exact hread

theorem IsRead.string (levels : Nat) (s : String) : IsRead levels (.string s) := by
  refine .of_scalar ?_ (fun l level => ⟨_, rfl⟩) (by decide) (by decide) (by decide) levels
  intro l level blanks rest hl hblanks hrest
  have hread := Reads.text "a value" s l level [] rest hl (by simp) hrest
  rw [readScalar, skipBlanks_append hblanks]
  simp only [layOut, writeText, List.nil_append, List.cons_append] at hread ⊢
  rw [skipBlanks_cons (by decide)]
  simp only [hread]
  rfl

theorem reads_readScalar_bool (b : Bool) : Reads readScalar (.bool b) (.bool b) := by
  intro l level blanks rest hl hblanks hrest
  have hread := Reads.bool b l level [] rest hl (by simp) hrest
  rw [readScalar, skipBlanks_append hblanks]
  cases b with
  | false =>
      have hword : (Json.bool false).layOut l level ++ rest = 'f' :: ("alse".toList ++ rest) := rfl
      rw [List.nil_append, hword] at hread
      rw [hword, skipBlanks_cons (by decide)]
      simp only [hread]
      rfl
  | true =>
      have hword : (Json.bool true).layOut l level ++ rest = 't' :: ("rue".toList ++ rest) := rfl
      rw [List.nil_append, hword] at hread
      rw [hword, skipBlanks_cons (by decide)]
      simp only [hread]
      rfl

theorem IsRead.bool (levels : Nat) (b : Bool) : IsRead levels (.bool b) := by
  cases b with
  | false =>
      exact .of_scalar (reads_readScalar_bool false) (c := 'f') (fun _ _ => ⟨"alse".toList, rfl⟩)
        (by decide) (by decide) (by decide) levels
  | true =>
      exact .of_scalar (reads_readScalar_bool true) (c := 't') (fun _ _ => ⟨"rue".toList, rfl⟩)
        (by decide) (by decide) (by decide) levels

theorem IsRead.number (levels : Nat) {n : Nat} (h : n < UInt64.size) :
    IsRead levels (.number n) := by
  obtain ⟨c, digits, hdigits, hdigit⟩ := exists_digit_of_writeNumber n
  have hne : ∀ d, isDigit d = false → c ≠ d := by
    rintro d hd rfl
    rw [hd] at hdigit
    cases hdigit
  have hhead : ∀ l level, ∃ text, (Json.number n).layOut l level = c :: text :=
    fun l level => ⟨digits, hdigits⟩
  refine .of_scalar ?_ hhead (isBlank_eq_false_of_isDigit hdigit) (hne _ (by decide))
    (hne _ (by decide)) levels
  intro l level blanks rest hl hblanks hrest
  have hread := Reads.nat (Nat.le_refl _) "a value" h l level [] rest hl (by simp) hrest
  rw [readScalar, skipBlanks_append hblanks]
  simp only [layOut, hdigits, List.nil_append, List.cons_append] at hread ⊢
  rw [skipBlanks_cons (isBlank_eq_false_of_isDigit hdigit)]
  split
  · next heq => exact absurd (List.cons.inj heq).1 (hne _ (by decide))
  · next heq => exact absurd (List.cons.inj heq).1 (hne _ (by decide))
  · next heq => exact absurd (List.cons.inj heq).1 (hne _ (by decide))
  · simp only [hread]
    rfl

theorem IsRead.array {levels : Nat} {items : List Json} (h : ∀ j ∈ items, IsRead levels j) :
    IsRead (levels + 1) (.array items) := by
  intro l level blanks rest hl hblanks hrest
  have hread : Reads (readList (readValue levels)) (.ofList id items) items := .list h
  specialize hread l level [] rest hl (by simp) hrest
  rw [ofList, List.map_id] at hread
  rw [readValue, skipBlanks_append hblanks]
  simp only [layOut, List.nil_append, List.cons_append] at hread ⊢
  rw [skipBlanks_cons (by decide)]
  simp only [hread]
  rfl

theorem readFields_layOutFields {value : Reader Json} {fields : List (String × Json)}
    (h : ∀ f ∈ fields, Reads value f.2 f.2) {l : Layout} (hl : l.IsBlank) (level : Nat)
    (first : Bool) {turns : Nat} (hturns : fields.length < turns) (rest : List Char) :
    readFields value turns first (layOutFields l level first fields ++ rest) =
      .ok (fields, '\x7d' :: rest) := by
  induction fields generalizing turns first with
  | nil =>
      obtain ⟨turns, rfl⟩ := Nat.exists_eq_add_one_of_ne_zero (Nat.ne_zero_of_lt hturns)
      rw [readFields, nextKey_layOutFields_nil hl]
      rfl
  | cons f fields ih =>
      obtain ⟨turns, rfl⟩ := Nat.exists_eq_add_one_of_ne_zero (Nat.ne_zero_of_lt hturns)
      obtain ⟨key, j⟩ := f
      obtain ⟨hkey, hcolon⟩ :=
        readKey_fieldText l level key j (layOutFields l level false fields ++ rest)
      have hvalue := h (key, j) List.mem_cons_self l (level + 1) l.afterColon _ hl hl.afterColon
        (stops_layOutFields hl level fields rest)
      have hlater := ih (fun g hg => h g (List.mem_cons_of_mem _ hg)) false
        (by simpa using hturns)
      rw [readFields, nextKey_layOutFields_cons hl]
      simp only [bind, Except.bind, hkey, hcolon, hvalue, hlater]
      rfl

theorem IsRead.object {levels : Nat} {fields : List (String × Json)}
    (h : ∀ f ∈ fields, IsRead levels f.2) : IsRead (levels + 1) (.object fields) := by
  intro l level blanks rest hl hblanks _
  have hlong : fields.length < (layOutFields l level true fields ++ rest).length := by
    have hlt := length_lt_layOutFields l level true fields
    rw [List.length_append]
    omega
  rw [readValue, skipBlanks_append hblanks]
  simp only [layOut, List.cons_append]
  rw [skipBlanks_cons (by decide)]
  simp only [readFields_layOutFields h hl level true hlong rest, bind, Except.bind, endObject]
  rw [skipBlanks_cons (by decide)]
  rfl

/-- A document is read back in either form. -/
theorem IsRead.readDocument {j : Json} (h : IsRead maxDepth j) :
    Json.readDocument (String.ofList j.compact) = .ok j ∧
      Json.readDocument (String.ofList j.pretty) = .ok j := by
  rw [← layOut_oneLine 0, pretty, ← layOut_lines 0]
  exact ⟨h.readAll Layout.isBlank_oneLine, h.readAll Layout.isBlank_lines⟩

end Json

end BrokerMonitor
