import ContestExchange.Text.Basic

namespace ContestExchange

/-!
# The screen

A screen is a grid of cells, each with a character and a style.  A text is written as a whole or not
at all: it has to fit into its row from the place where it starts.  The same holds for the cursor,
which stays where it is rather than leave the grid.  Besides the grid a screen keeps the signals
that were given to the terminal, and how long the next key is waited for.
-/

/-- The style of a cell. -/
inductive Style where
  | plain
  | reverse
  | bold
deriving DecidableEq, Repr

/-- A place on the screen. -/
structure Cell where
  character : Char
  style : Style
deriving DecidableEq

/-- A cell with nothing in it. -/
def Cell.blank : Cell := ⟨' ', .plain⟩

/-- A signal to the terminal. -/
inductive Signal where
  | metaKeys
  | showCursor
  | keypad
  | beep
deriving DecidableEq, Repr

/-- A screen. -/
structure Screen where
  height : Nat
  width : Nat
  rows : List (List Cell)
  cursor : Option (Nat × Nat) := none
  signals : List Signal := []
  wait : Option Nat := none

namespace Screen

/-- The rows of an empty grid. -/
def emptyRows (height width : Nat) : List (List Cell) :=
  List.replicate height (List.replicate width .blank)

/-- A screen on which nothing has happened. -/
def ofSize (height width : Nat) : Screen :=
  { height := height, width := width, rows := emptyRows height width }

/-- Empties the grid. -/
def erase (screen : Screen) : Screen :=
  { screen with rows := emptyRows screen.height screen.width }

/-- A row with cells put over it. -/
def overlay (row : List Cell) (column : Nat) (cells : List Cell) : List Cell :=
  row.take column ++ cells ++ row.drop (column + cells.length)

/-- Writes a text, if it fits. -/
def write (screen : Screen) (row column : Nat) (text : Text) (style : Style) : Screen :=
  if row < screen.height ∧ column + text.length ≤ screen.width then
    let cells := text.map fun character => Cell.mk character style
    { screen with rows := screen.rows.modify row fun before => overlay before column cells }
  else screen

/-- Moves the cursor, if that stays on the grid. -/
def move (screen : Screen) (row : Nat) (column : Int) : Screen :=
  if row < screen.height ∧ 0 ≤ column ∧ column < screen.width then
    { screen with cursor := some (row, column.toNat) }
  else screen

/-- Gives a signal. -/
def signal (screen : Screen) (signal : Signal) : Screen :=
  { screen with signals := screen.signals ++ [signal] }

end Screen
end ContestExchange
