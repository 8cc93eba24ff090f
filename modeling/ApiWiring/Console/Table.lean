import ApiWiring.Console.Columns

/-!
# Tables

A table has a line above, a header, a rule, its rows and a line below. Each cell has a blank at
either side, and a blank stands between columns. A cell of several lines makes its row as high.
-/
namespace ApiWiring.Console

open Text

/-- Where the text of a cell stands. -/
inductive Alignment where
  | left | right
deriving DecidableEq, Repr, Inhabited

/-- A table. -/
structure Table where
  /-- The titles of the columns; they stand at the left. -/
  header : List String
  /-- Where the cells of the columns stand. -/
  alignments : List Alignment
  /-- The rows. -/
  rows : List (List String)
deriving Repr, Inhabited

namespace Table

/-- The lines of a cell as it is written in a table without end. -/
def cellLines (text : String) : List (List Char) := pieces '\n' text.toList

/-- The columns of a table, headers first. -/
def columns (table : Table) : List Column :=
  table.header.zipIdx.map fun (title, index) =>
    cellLines title :: table.rows.map fun row => cellLines ((row[index]?).getD "")

/-- The room for text in a line of a table: what borders and blanks leave. -/
def room (width count : Nat) : Nat := width - (count - 1) - 2 * count

/-- A line of a cell, filled up with blanks. -/
def pad (alignment : Alignment) (width : Nat) (text : List Char) : List Char :=
  let blanks := List.replicate (width - widthOf text) ' '
  match alignment with
  | .left => text ++ blanks
  | .right => blanks ++ text

/-- The lines of a row. -/
def rowLines (widths : List Nat) (alignments : List Alignment) (cells : List String) :
    List (List Char) :=
  let cells := (cells.zip widths).map fun (text, width) =>
    (cellLines text).flatMap (linesOf width)
  let height := (cells.map List.length).foldl max 0
  (List.range height).map fun line =>
    let padded := (cells.zip (widths.zip alignments)).map fun (lines, width, alignment) =>
      ' ' :: pad alignment width ((lines[line]?).getD []) ++ [' ']
    [' '].intercalate padded

/-- The horizontal stroke. -/
def stroke : Char := '─'

/-- A line of strokes with something between the columns. -/
def border (widths : List Nat) (between : Char) : List Char :=
  [between].intercalate (widths.map fun width => List.replicate (width + 2) stroke)

/-- The lines of a table that is to fit a width. -/
def lines (width : Nat) (table : Table) : List (List Char) :=
  let widths := columnWidths (room width table.header.length) table.columns
  border widths ' ' :: rowLines widths (table.header.map fun _ => .left) table.header ++
    border widths stroke :: table.rows.flatMap (rowLines widths table.alignments) ++
    [border widths ' ']

/-- The text of a table that is to fit a width. -/
def render (width : Nat) (table : Table) : String :=
  "\n".intercalate ((table.lines width).map String.ofList)

end Table

end ApiWiring.Console
