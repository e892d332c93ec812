import Colloquy.Text.Width

/-!
# Grids — tables drawn with characters

A grid has headings and rows, all of the same number of cells. Each column is as wide as its widest
cell, with a blank on both sides. A double rule follows the headings and a single rule keeps rows
apart.
-/

namespace Colloquy

/-- A table of texts. -/
structure Grid where
  headings : List String
  rows : List (List String)
  deriving DecidableEq, Repr

namespace Grid

/-- The greater of two widths, column by column. -/
def widen : List Nat → List Nat → List Nat
  | a :: as, b :: bs => max a b :: widen as bs
  | as, [] => as
  | [], bs => bs

/-- The widths of the columns. -/
def widths (g : Grid) : List Nat :=
  g.rows.foldl (fun ws row => widen ws (row.map Text.width)) (g.headings.map Text.width)

/-- A cell with the blanks around it. -/
def cell (width : Nat) (text : String) : String :=
  " " ++ text ++ Text.repeated (width - Text.width text) ' ' ++ " "

/-- A row between bars. -/
def drawRow (ws : List Nat) (row : List String) : String :=
  "|" ++ Text.join "|" (List.zipWith cell ws row) ++ "|\n"

/-- A rule of one character with others at the edges and between the columns. -/
def rule (ws : List Nat) (edge line inner : Char) : String :=
  let columns := ws.map fun w => Text.repeated (w + 2) line
  String.singleton edge ++ Text.join (String.singleton inner) columns ++
    String.singleton edge ++ "\n"

/-- The drawing of a grid. -/
def draw (g : Grid) : String :=
  let ws := g.widths
  rule ws '+' '-' '+' ++ drawRow ws g.headings ++ rule ws '+' '=' '=' ++
    Text.join (rule ws '|' '-' '+') (g.rows.map (drawRow ws)) ++ rule ws '+' '-' '+'

end Grid

end Colloquy
