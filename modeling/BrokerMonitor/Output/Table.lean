import BrokerMonitor.Text.Width
import BrokerMonitor.Unicode.Table
/-!
# Tables with rounded corners

A table has a header and rows. Every column is as wide as its widest line, with a blank on either
side, and every row as high as its highest cell. The header stands between two rules. The lower one
is the end of a table without rows, and a third one ends a table with rows.
-/

namespace BrokerMonitor.Output

open Unicode.Table (cut)

/-- A table of texts. A text may have more than one line. -/
structure Table where
  header : List String
  rows : List (List String)
deriving DecidableEq, Repr, Inhabited

namespace Table

/-- The lines of a cell; there is always one. -/
def cellLines (cell : String) : List (List Char) := cut '\n' cell.toList

/-- The width of a cell's widest line. -/
def cellWidth (cell : String) : Nat := ((cellLines cell).map Text.lineWidth).foldl max 0

/-- The widths of two lists of columns, each as wide as it has to be for both. -/
def mergeWidths : List Nat → List Nat → List Nat
  | [], widths => widths
  | widths, [] => widths
  | v :: vs, w :: ws => max v w :: mergeWidths vs ws

/-- The widths of the columns. -/
def widths (t : Table) : List Nat :=
  (t.header :: t.rows).foldl (fun ws row => mergeWidths ws (row.map cellWidth)) []

/-- Blanks as many as that. -/
def blanks (n : Nat) : List Char := List.replicate n ' '

/-- A line of a cell, filled up to the width of its column, with a blank on either side. -/
def pad (width : Nat) (line : List Char) : List Char :=
  ' ' :: line ++ blanks (width - Text.lineWidth line) ++ [' ']

/-- The signs of a rule: its left end, what stands between columns, and its right end. -/
structure Rule where
  left : Char
  middle : Char
  right : Char
deriving DecidableEq, Repr

def topRule : Rule := ⟨'╭', '┬', '╮'⟩

def headerRule : Rule := ⟨'├', '┼', '┤'⟩

def bottomRule : Rule := ⟨'╰', '┴', '╯'⟩

/-- Cells between bars, or stretches of a rule between its signs. -/
def between (r : Rule) (cells : List (List Char)) : List Char :=
  r.left :: (cells.intersperse [r.middle]).flatten ++ [r.right]

/-- A rule over columns. -/
def Rule.draw (r : Rule) (widths : List Nat) : List Char :=
  between r (widths.map fun w => List.replicate (w + 2) '─')

/-- The bars between cells. -/
def bars : Rule := ⟨'│', '│', '│'⟩

/-- The height of a row. -/
def height (row : List String) : Nat := (row.map fun cell => (cellLines cell).length).foldl max 1

/-- One line of a row. -/
def rowLine (widths : List Nat) (row : List String) (i : Nat) : List Char :=
  between bars ((widths.zip row).map fun (w, cell) => pad w ((cellLines cell)[i]?.getD []))

/-- The lines of a row. -/
def rowLines (widths : List Nat) (row : List String) : List (List Char) :=
  (List.range (height row)).map (rowLine widths row)

/-- The lines of a table. -/
def lines (t : Table) : List (List Char) :=
  let ws := t.widths
  topRule.draw ws :: rowLines ws t.header ++ headerRule.draw ws ::
    (t.rows.flatMap (rowLines ws) ++ if t.rows.isEmpty then [] else [bottomRule.draw ws])

/-- The text of a table, without a line end after it. -/
def text (t : Table) : String := String.ofList ((t.lines.intersperse ['\n']).flatten)

end Table

end BrokerMonitor.Output
