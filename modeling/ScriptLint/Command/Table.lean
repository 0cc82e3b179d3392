import ScriptLint.Text.Wrap

/-!
# Tables

A table with a title, a heavy frame around its header and a light one around its rows. Every column
is as wide as its widest cell, with a blank on each side, and cells stand at the left. The title is
wrapped to the width of the table and centred; an odd blank goes to its right. All widths are
columns of the screen.
-/

namespace ScriptLint

/-- A table with the lines of its title. -/
structure Table where
  title : List (List Char)
  header : List String
  rows : List (List String)
deriving Repr, DecidableEq

namespace Table

/-- The screen columns of a cell. -/
def cellColumns (s : String) : Nat := screenColumns s.toList

/-- The widths of the columns. -/
def widths (t : Table) : List Nat :=
  t.rows.foldl (fun ws row => ws.zipWith max (row.map cellColumns)) (t.header.map cellColumns)

/-- The width of the whole table. -/
def width (t : Table) : Nat := t.widths.foldl (fun n w => n + w + 3) 1

/-- The characters of a horizontal rule: its ends, its line and its crossings. -/
structure Rule where
  left : Char
  line : Char
  cross : Char
  right : Char
deriving Repr, DecidableEq

/-- The rule above the header. -/
def top : Rule := ⟨'┏', '━', '┳', '┓'⟩

/-- The rule between header and rows. -/
def middle : Rule := ⟨'┡', '━', '╇', '┩'⟩

/-- The rule below the rows. -/
def bottom : Rule := ⟨'└', '─', '┴', '┘'⟩

/-- A horizontal rule. -/
def ruleLine (widths : List Nat) (r : Rule) : List Char :=
  r.left ::
    ((widths.map fun w => List.replicate (w + 2) r.line).intersperse [r.cross]).flatten ++ [r.right]

/-- A cell, filled up to the width of its column. -/
def cell (width : Nat) (s : String) : List Char :=
  ' ' :: s.toList ++ List.replicate (width - cellColumns s + 1) ' '

/-- A line of cells. -/
def rowLine (widths : List Nat) (bar : Char) (cells : List String) : List Char :=
  bar :: ((widths.zipWith cell cells).intersperse [bar]).flatten ++ [bar]

/-- A line, without its trailing blanks, centred in `width` columns. -/
def centred (width : Nat) (line : List Char) : List Char :=
  let line := trimEnd line
  let free := width - screenColumns line
  List.replicate (free / 2) ' ' ++ line ++ List.replicate (free - free / 2) ' '

/-- The lines of a title over a table of the given width. -/
def titleLines (width : Nat) (title : List (List Char)) : List (List Char) :=
  (title.flatMap (wrapLine width)).map (centred width)

/-- The lines of a table. -/
def lines (t : Table) : List (List Char) :=
  let ws := t.widths
  titleLines t.width t.title ++
    [ruleLine ws top, rowLine ws '┃' t.header, ruleLine ws middle] ++
    t.rows.map (rowLine ws '│') ++ [ruleLine ws bottom]

/-- The text of a table. -/
def text (t : Table) : List Char := t.lines.flatMap (· ++ ['\n'])

end Table

end ScriptLint
