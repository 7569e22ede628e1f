import WordMachine.Text.Cluster
import WordMachine.Text.Column

/-!
Rows of cells on a screen. A cell shows one character with all that belongs to it in a style.
Rows can be laid over one another. Main statements: laying a row over another keeps the other's
width, and a fitted row has exactly the width that it was fitted to.
-/

set_option autoImplicit false

namespace WordMachine.Screen

inductive Color where
  | standard
  | red
  | green
  | yellow
  | blue
  | magenta
  | cyan
  | darkGray
  | white
deriving DecidableEq

structure Style where
  color : Color
  bold : Bool
deriving DecidableEq

def Style.plain : Style := ⟨.standard, false⟩

def Style.ofColor (color : Color) : Style := ⟨color, false⟩

/-- One place on the screen. A place without a symbol is clear: what it is laid over shows. -/
structure Cell where
  symbol : Text
  style : Style
deriving DecidableEq

namespace Cell

def blank (style : Style) : Cell := ⟨[' '], style⟩

/-- A place that shows what it is laid over. -/
def clear : Cell := ⟨[], .plain⟩

/-- A cell laid over another one. A symbol in which nothing stands out takes the other's style. -/
def onto (cell below : Cell) : Cell :=
  if cell.symbol.isEmpty then below
  else if cell.style = .plain then { below with symbol := cell.symbol }
  else cell

/-- Whether the symbol reaches into the next place. -/
def reachesOut (cell : Cell) : Bool := 2 ≤ cell.symbol.columns

end Cell

abbrev Row := List Cell

namespace Row

/-- The cells of a cluster: its symbol and clear places up to its width; none if it takes no
column. -/
def ofCluster (style : Style) (cluster : Text) : Row :=
  match cluster.columns with
  | 0 => []
  | width + 1 => ⟨cluster, style⟩ :: List.replicate width .clear

def ofText (style : Style) (text : Text) : Row := text.clusters.flatMap (ofCluster style)

/-- A row laid over another. What reaches past the other's end is lost. -/
def onto : Row → Row → Row
  | [], below => below
  | _ :: _, [] => []
  | cell :: row, place :: below => cell.onto place :: onto row below

def blank (width : Nat) (style : Style) : Row := List.replicate width (Cell.blank style)

def fit (width : Nat) (style : Style) (row : Row) : Row := row.onto (blank width style)

/-- The row as it is seen. The place after a symbol that reaches into it stays empty, whatever it
holds; `covered` tells this of the first place. -/
def seen (covered : Bool) : Row → Row
  | [] => []
  | cell :: row => (if covered then Cell.blank .plain else cell) :: seen cell.reachesOut row

/-- Whether the row's last symbol reaches past its end. -/
def reachesOut (row : Row) : Bool := (row.getLast?.map Cell.reachesOut).getD false

theorem length_onto (row below : Row) : (row.onto below).length = below.length := by
  induction below generalizing row with
  | nil => cases row <;> rfl
  | cons place others inductionHypothesis =>
    cases row with
    | nil => rfl
    | cons cell row => rw [onto, List.length_cons, inductionHypothesis, List.length_cons]

theorem length_blank (width : Nat) (style : Style) : (blank width style).length = width :=
  List.length_replicate

theorem length_fit (width : Nat) (style : Style) (row : Row) :
    (row.fit width style).length = width := by
  rw [fit, length_onto, length_blank]

theorem length_seen (covered : Bool) (row : Row) : (row.seen covered).length = row.length := by
  induction row generalizing covered with
  | nil => rfl
  | cons cell row inductionHypothesis =>
    rw [seen, List.length_cons, inductionHypothesis, List.length_cons]

end Row

/-- The rows as they are seen, from the top. A symbol that reaches past the end of a row covers the
first place of the next one; `covered` tells this of the first row. -/
def seenRows (covered : Bool) : List Row → List Row
  | [] => []
  | row :: rows => row.seen covered :: seenRows row.reachesOut rows

end WordMachine.Screen
