import WordMachine.Screen.Panel
import WordMachine.Text.Wrapped

/-!
Terminals. A program says what stands in the panels of two columns; how a text is taken apart, a
line is wrapped, a screen is divided and a panel is drawn is left to the terminal. Main statement:
the standard terminal draws every row of panels that are high enough for their borders.
-/

set_option autoImplicit false

namespace WordMachine.Screen

/-- Panels below one another, each with the number of rows that it takes. -/
abbrev Column := List (Nat × Panel)

def Column.height : Column → Nat
  | [] => 0
  | (rows, _) :: below => rows + Column.height below

structure Terminal where
  /-- The cells of a text in a style. -/
  cells : Style → Text → Row
  /-- A row of a list, with a text in a style. -/
  item : Style → (width : Nat) → Text → Row
  /-- The rows of a line that is wrapped. -/
  wrap : (width : Nat) → Text → List Row
  /-- The width of the left column of a screen. -/
  leftWidth : (width : Nat) → Nat
  /-- The rows that panels of fixed heights leave to the one above them. -/
  rest : (height : Nat) → (fixed : List Nat) → Nat
  draw : (width : Nat) → (left right : Column) → List Row

namespace Terminal.Standard

def item (style : Style) (width : Nat) (text : Text) : Row :=
  (Row.ofText style text).fit width style

def wrap (width : Nat) (line : Text) : List Row :=
  (line.wrapped width).map fun row => row.flatMap (Row.ofCluster .plain)

def leftWidth (width : Nat) : Nat := width * 45 / 100

def rest (height : Nat) (fixed : List Nat) : Nat := fixed.foldl (· - ·) height

def drawColumn (width : Nat) (column : Column) : List Row :=
  column.flatMap fun (height, panel) => panel.draw width height

def draw (width : Nat) (left right : Column) : List Row :=
  seenRows false (List.zipWith (· ++ ·) (drawColumn (leftWidth width) left)
    (drawColumn (width - leftWidth width) right))

theorem length_drawColumn (width : Nat) {column : Column}
    (high : ∀ entry ∈ column, 2 ≤ entry.1) : (drawColumn width column).length = column.height := by
  induction column with
  | nil => rfl
  | cons entry others inductionHypothesis =>
    have later := inductionHypothesis fun other member => high other (List.mem_cons_of_mem _ member)
    rw [drawColumn] at later
    rw [drawColumn, List.flatMap_cons, List.length_append, later,
      Panel.length_draw _ _ (high entry List.mem_cons_self)]
    rfl

end Terminal.Standard

def Terminal.standard : Terminal where
  cells := Row.ofText
  item := Standard.item
  wrap := Standard.wrap
  leftWidth := Standard.leftWidth
  rest := Standard.rest
  draw := Standard.draw

end WordMachine.Screen
