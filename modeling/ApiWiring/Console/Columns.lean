import ApiWiring.Console.Lines

/-!
# Columns of a table

How wide the columns of a table are, so that its lines fit a given width. A column is settled once
its width is known; those that are not share the room that is left. First the columns that need no
more than their share get what they need. Then those that, with their cells broken into lines, need
much less than their share get that. The others share what is left.
-/
namespace ApiWiring.Console

open Text

/-- The cells of a column, its header first, each a list of lines. -/
abbrev Column := List (List (List Char))

namespace Column

/-- The longest line of a column, one cell at least. -/
def natural (column : Column) : Nat := max 1 ((column.flatten.map widthOf).foldl max 0)

/-- The longest line of a column whose lines are broken at a width, in bytes: as many as the
cells it takes where it is ASCII, and more elsewhere. -/
def broken (width : Nat) (column : Column) : Nat :=
  ((column.flatten.flatMap (linesOf width)).map fun line =>
    (String.ofList line).utf8ByteSize).foldl max 0

end Column

/-- Columns that share a room, each with its width once it is settled. -/
structure Sharing where
  /-- The columns from the left. -/
  columns : List (Column × Option Nat)
  /-- The room left for the columns that are not settled. -/
  room : Nat
  /-- How many columns are not settled. -/
  unsettled : Nat
deriving Repr, Inhabited

namespace Sharing

/-- Columns none of which is settled. -/
def ofColumns (room : Nat) (columns : List Column) : Sharing :=
  ⟨columns.map (·, none), room, columns.length⟩

/-- The sharing with one more column on the left. -/
def cons (column : Column) (width : Option Nat) (sharing : Sharing) : Sharing :=
  { sharing with columns := (column, width) :: sharing.columns }

/-- Settles the columns that a rule gives a width for, from the left. The rule is told the share of
a column that is not settled: the room left, split evenly among those columns. -/
def settleFrom (rule : Nat → Column → Option Nat) (room unsettled : Nat) :
    List (Column × Option Nat) → Sharing
  | [] => ⟨[], room, unsettled⟩
  | (column, some width) :: rest => (settleFrom rule room unsettled rest).cons column (some width)
  | (column, none) :: rest =>
    match rule (room / unsettled) column with
    | some width => (settleFrom rule (room - width) (unsettled - 1) rest).cons column (some width)
    | none => (settleFrom rule room unsettled rest).cons column none

/-- One round of settling columns by a rule. -/
def settle (rule : Nat → Column → Option Nat) (sharing : Sharing) : Sharing :=
  settleFrom rule sharing.room sharing.unsettled sharing.columns

/-- Gives a column what it needs, where its share is enough. -/
def natural (share : Nat) (column : Column) : Option Nat :=
  if column.natural ≤ share then some column.natural else none

/-- The room that must be spared for a column to be settled with broken lines. -/
def worthwhile : Nat := 3

/-- Gives a column what its broken lines need, where that spares much of its share. -/
def broken (share : Nat) (column : Column) : Option Nat :=
  let longest := column.broken share
  if worthwhile ≤ share - longest then some longest else none

/-- Settles columns by a rule again and again. A round that settles none is the last that counts, so
a round for each column is enough. -/
def rounds (rule : Nat → Column → Option Nat) : Nat → Sharing → Sharing
  | 0, sharing => sharing
  | times + 1, sharing => rounds rule times (sharing.settle rule)

/-- Gives the columns not settled their share; the first ones get the cells left over. -/
def split (share extra : Nat) : List (Column × Option Nat) → List Nat
  | [] => []
  | (_, some width) :: rest => width :: split share extra rest
  | (_, none) :: rest =>
    if 0 < extra then (share + 1) :: split share (extra - 1) rest
    else share :: split share 0 rest

/-- The widths of the columns when those not settled split the room left. -/
def widths (sharing : Sharing) : List Nat :=
  split (sharing.room / sharing.unsettled) (sharing.room % sharing.unsettled) sharing.columns

end Sharing

/-- The widths of columns that share a room. -/
def columnWidths (room : Nat) (columns : List Column) : List Nat :=
  let times := columns.length
  let settled := (Sharing.ofColumns room columns).rounds Sharing.natural times
  (settled.rounds Sharing.broken times).widths

end ApiWiring.Console
