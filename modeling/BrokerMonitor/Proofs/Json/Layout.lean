import Mathlib.Data.Nat.Digits.Defs
import BrokerMonitor.Json.Reader
import BrokerMonitor.Json.Value
/-!
# Layouts of JSON

The form in one line and the form over several lines differ in nothing but the blanks between the
parts of a text. Both are `layOut` with a layout that says where blanks stand, so that what holds
whatever the blanks are is proved once. Line feeds come from the layout alone: whatever a text
holds, escaping leaves none in it.
-/

namespace BrokerMonitor.Json

/-- The blanks between the parts of a text. -/
structure Layout where
  /-- What stands before an item, or before a closing bracket, of a level. -/
  gap : Nat → List Char
  /-- What stands between a colon and the value after it. -/
  afterColon : List Char

namespace Layout

/-- No blanks at all. -/
def oneLine : Layout := ⟨fun _ => [], []⟩

/-- Every item in a line of its own. -/
def lines : Layout := ⟨newLine, [' ']⟩

/-- A layout puts nothing but blanks between the parts. -/
structure IsBlank (l : Layout) : Prop where
  gap : ∀ level, ∀ c ∈ l.gap level, Json.isBlank c = true
  afterColon : ∀ c ∈ l.afterColon, Json.isBlank c = true

theorem isBlank_oneLine : oneLine.IsBlank where
  gap _ _ h := absurd h List.not_mem_nil
  afterColon _ h := absurd h List.not_mem_nil

theorem isBlank_lines : lines.IsBlank where
  gap level c h := by
    rcases List.mem_cons.mp h with rfl | h
    · rfl
    · rw [List.eq_of_mem_replicate h]
      rfl
  afterColon c h := by
    rw [List.mem_singleton.mp h]
    rfl

end Layout

mutual

/-- The text of a value in a layout, where `level` counts the brackets around it. -/
def layOut (l : Layout) (level : Nat) : Json → List Char
  | .bool b => writeBool b
  | .number n => writeNumber n
  | .string s => writeText s
  | .array items => '[' :: layOutItems l level true items
  | .object fields => '\x7b' :: layOutFields l level true fields

/-- The items of an array and its end. A comma stands before every item but the first. -/
def layOutItems (l : Layout) (level : Nat) (first : Bool) : List Json → List Char
  | [] => (if first then [] else l.gap level) ++ [']']
  | j :: rest =>
    (if first then [] else [',']) ++ l.gap (level + 1) ++ layOut l (level + 1) j ++
      layOutItems l level false rest

/-- The fields of an object and its end. A comma stands before every field but the first. -/
def layOutFields (l : Layout) (level : Nat) (first : Bool) : List (String × Json) → List Char
  | [] => (if first then [] else l.gap level) ++ ['\x7d']
  | (key, j) :: rest =>
    (if first then [] else [',']) ++ l.gap (level + 1) ++ writeText key ++ ':' :: l.afterColon ++
      layOut l (level + 1) j ++ layOutFields l level false rest

end

/-! ### The two forms -/

mutual

/-- The form in one line has no blanks. -/
theorem layOut_oneLine (level : Nat) : ∀ j : Json, j.layOut .oneLine level = j.compact
  | .bool _ => rfl
  | .number _ => rfl
  | .string _ => rfl
  | .array items => congrArg ('[' :: ·) (layOutItems_oneLine level items)
  | .object fields => congrArg ('\x7b' :: ·) (layOutFields_oneLine level fields)

theorem layOutItems_oneLine (level : Nat) :
    ∀ items, layOutItems .oneLine level true items = compactItems items
  | [] => rfl
  | [j] => by
    simp [layOutItems, compactItems, Layout.oneLine, ← layOut_oneLine (level + 1) j]
  | j :: k :: rest => by
    have hrest := layOutItems_oneLine level (k :: rest)
    rw [compactItems, ← hrest, ← layOut_oneLine (level + 1) j]
    · simp [layOutItems, Layout.oneLine]
    · simp

theorem layOutFields_oneLine (level : Nat) :
    ∀ fields, layOutFields .oneLine level true fields = compactFields fields
  | [] => rfl
  | [(key, j)] => by
    simp [layOutFields, compactFields, Layout.oneLine, ← layOut_oneLine (level + 1) j]
  | (key, j) :: f :: rest => by
    have hrest := layOutFields_oneLine level (f :: rest)
    rw [compactFields, ← hrest, ← layOut_oneLine (level + 1) j]
    · simp [layOutFields, Layout.oneLine]
    · simp

end

mutual

/-- The form over several lines has a line for every item. -/
theorem layOut_lines (level : Nat) : ∀ j : Json, j.layOut .lines level = j.prettyAt level
  | .bool _ => rfl
  | .number _ => rfl
  | .string _ => rfl
  | .array [] => rfl
  | .array (j :: rest) => congrArg ('[' :: ·) (layOutItems_lines level (j :: rest) nofun)
  | .object [] => rfl
  | .object (f :: rest) => congrArg ('\x7b' :: ·) (layOutFields_lines level (f :: rest) nofun)

theorem layOutItems_lines (level : Nat) :
    ∀ items, items ≠ [] → layOutItems .lines level true items = prettyItems level items
  | [], h => absurd rfl h
  | [j], _ => by
    simp [layOutItems, prettyItems, Layout.lines, ← layOut_lines (level + 1) j]
  | j :: k :: rest, _ => by
    have hrest := layOutItems_lines level (k :: rest) nofun
    rw [prettyItems, ← hrest, ← layOut_lines (level + 1) j]
    · simp [layOutItems, Layout.lines]
    · simp

theorem layOutFields_lines (level : Nat) :
    ∀ fields, fields ≠ [] → layOutFields .lines level true fields = prettyFields level fields
  | [], h => absurd rfl h
  | [(key, j)], _ => by
    simp [layOutFields, prettyFields, Layout.lines, ← layOut_lines (level + 1) j]
  | (key, j) :: f :: rest, _ => by
    have hrest := layOutFields_lines level (f :: rest) nofun
    rw [prettyFields, ← hrest, ← layOut_lines (level + 1) j]
    · simp [layOutFields, Layout.lines]
    · simp

end

/-! ### Line feeds -/

theorem newline_not_mem_escapeChar (c : Char) : '\n' ∉ escapeChar c := by
  unfold escapeChar
  split_ifs with hquote hfeed hreturn htab hback hform hcontrol
  · rcases hquote with rfl | rfl <;> decide
  · decide
  · decide
  · decide
  · decide
  · decide
  · have hdigit : ∀ n < 32, '\n' ≠ hexDigit n := by decide
    have hhigh := hdigit (c.toNat / 16) (by omega)
    have hlow := hdigit (c.toNat % 16) (by omega)
    simp [hhigh, hlow]
  · simpa using Ne.symm hfeed

/-- Whatever a text holds, escaping leaves no line feed in it. -/
theorem newline_not_mem_writeText (s : String) : '\n' ∉ writeText s := by
  simp [writeText, newline_not_mem_escapeChar]

theorem newline_not_mem_writeBool (b : Bool) : '\n' ∉ writeBool b := by cases b <;> decide

theorem newline_not_mem_writeNumber (n : Nat) : '\n' ∉ writeNumber n := by
  intro h
  exact absurd (Nat.isDigit_of_mem_toDigits (by decide) (by decide) h) (by decide)

mutual

/-- The form in one line is one line, whatever the texts in the value hold. -/
theorem newline_not_mem_compact : ∀ j : Json, '\n' ∉ j.compact
  | .bool b => newline_not_mem_writeBool b
  | .number n => newline_not_mem_writeNumber n
  | .string s => newline_not_mem_writeText s
  | .array items => by simp [compact, newline_not_mem_compactItems items]
  | .object fields => by simp [compact, newline_not_mem_compactFields fields]

theorem newline_not_mem_compactItems : ∀ items, '\n' ∉ compactItems items
  | [] => by simp [compactItems]
  | [j] => by simp [compactItems, newline_not_mem_compact j]
  | j :: k :: rest => by
    have hrest := newline_not_mem_compactItems (k :: rest)
    simp [compactItems, newline_not_mem_compact j, hrest]

theorem newline_not_mem_compactFields : ∀ fields, '\n' ∉ compactFields fields
  | [] => by simp [compactFields]
  | [(key, j)] => by
    simp [compactFields, newline_not_mem_writeText key, newline_not_mem_compact j]
  | (key, j) :: f :: rest => by
    have hrest := newline_not_mem_compactFields (f :: rest)
    simp [compactFields, newline_not_mem_writeText key, newline_not_mem_compact j, hrest]

end

end BrokerMonitor.Json
