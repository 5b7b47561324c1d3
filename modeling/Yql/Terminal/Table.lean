import Yql.Text.Joined

/-!
# Tables

A table is a header and rows of cells, drawn with a frame. A column is as wide
as its widest line, with a blank on either side; a cell whose text has several
lines makes its row as high as that.

How many places a text takes, and what sets it off from others, is a matter of
the screen. Headers stand out, and so may the cells of a column.
-/

namespace Yql.Terminal

structure Style where
  bold : Bool := false
  cyan : Bool := false
  deriving DecidableEq

/-- What a table is shown on: how many places a text takes there, and how a text
is written that stands out. -/
structure Screen where
  width : String → Nat
  styled : Style → String → String

/-- A table. Columns without a style are those that do not stand out. -/
structure Table where
  header : List String
  rows : List (List String)
  styles : List Style := []

/-- A horizontal line of a frame: its ends, what it is drawn with, and what
stands where it meets the line between two columns. -/
structure Rule where
  left : String
  line : String
  crossing : String
  right : String

/-- What a table is drawn with. Between rows there may be no line. -/
structure Frame where
  header : Style
  top : Rule
  underHeader : Rule
  betweenRows : Option Rule
  bottom : Rule
  edge : String
  separator : String

/-- The frame drawn with box characters; rows follow without a line between
them. -/
def Frame.boxed : Frame where
  header := { bold := true, cyan := true }
  top := ⟨"┌", "─", "┬", "┐"⟩
  underHeader := ⟨"╞", "═", "╪", "╡"⟩
  betweenRows := none
  bottom := ⟨"└", "─", "┴", "┘"⟩
  edge := "│"
  separator := "┆"

/-- The frame drawn with plain characters, a line after every row. -/
def Frame.plain : Frame where
  header := { bold := true }
  top := ⟨"+", "-", "+", "+"⟩
  underHeader := ⟨"+", "=", "=", "+"⟩
  betweenRows := some ⟨"|", "-", "+", "|"⟩
  bottom := ⟨"+", "-", "+", "+"⟩
  edge := "|"
  separator := "|"

namespace Table

def cellLines (cell : String) : List String :=
  Text.split '\n' cell

/-- The text as it stands out; one without a style is left as it is. -/
def styledLine (screen : Screen) (style : Style) (line : String) : String :=
  if style = {} then line else screen.styled style line

def cellWidth (screen : Screen) (cell : String) : Nat :=
  ((cellLines cell).map screen.width).foldl max 0

/-- For each column the larger of two widths. -/
def widen : List Nat → List Nat → List Nat
  | a :: as, b :: bs => max a b :: widen as bs
  | [], bs => bs
  | as, [] => as

def widths (screen : Screen) (table : Table) : List Nat :=
  (table.header :: table.rows).foldl
    (fun widths row => widen widths (row.map (cellWidth screen))) []

def ruleLine (rule : Rule) (widths : List Nat) : String :=
  rule.left ++ Text.joined rule.crossing (widths.map fun w => Text.repeated rule.line (w + 2))
    ++ rule.right

/-- A text with blanks up to the width of its column and one on either
side. -/
def padded (screen : Screen) (width : Nat) (text : String) : String :=
  " " ++ text ++ Text.repeated " " (width - screen.width text) ++ " "

/-- A line of a cell. Below its own lines a cell is blank and does not stand
out. -/
def cellLine (screen : Screen) (width : Nat) (style : Style) (lines : List String)
    (i : Nat) : String :=
  match lines[i]? with
  | some line => styledLine screen style (padded screen width line)
  | none => Text.repeated " " (width + 2)

/-- The lines of a row, all of its cells equally high. Each column has a style
of its own. -/
def rowLines (screen : Screen) (frame : Frame) (widths : List Nat) (style : Nat → Style)
    (row : List String) : List String :=
  let cells := row.map cellLines
  let height := (cells.map List.length).foldl max 0
  (List.range height).map fun i =>
    frame.edge
      ++ Text.joined frame.separator
          ((widths.zip cells).zipIdx.map fun ((width, lines), column) =>
            cellLine screen width (style column) lines i)
      ++ frame.edge

def bodyLines (screen : Screen) (frame : Frame) (widths : List Nat) (style : Nat → Style) :
    List (List String) → List String
  | [] => []
  | [row] => rowLines screen frame widths style row
  | row :: next :: rest =>
      rowLines screen frame widths style row
        ++ (frame.betweenRows.map fun rule => ruleLine rule widths).toList
        ++ bodyLines screen frame widths style (next :: rest)

def lines (screen : Screen) (frame : Frame) (table : Table) : List String :=
  let widths := table.widths screen
  [ruleLine frame.top widths]
    ++ rowLines screen frame widths (fun _ => frame.header) table.header
    ++ [ruleLine frame.underHeader widths]
    ++ bodyLines screen frame widths (fun column => table.styles.getD column {}) table.rows
    ++ [ruleLine frame.bottom widths]

/-- The text of a table, without a line end after its last line. -/
def text (screen : Screen) (frame : Frame) (table : Table) : String :=
  Text.joined "\n" (table.lines screen frame)

end Table

end Yql.Terminal
