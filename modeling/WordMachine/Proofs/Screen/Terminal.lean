import WordMachine.Proofs.Screen
import WordMachine.Screen.Terminal

/-! What a terminal is documented to do with upright characters: each of them takes one place, and
every row of a panel stands inside the panel's border. The standard terminal keeps to this. -/

set_option autoImplicit false

namespace WordMachine.Screen

open Text (Upright Printed)

/-- The panel is seen on a screen at a place, with a width and a height. Its rows stand inside the
border, each at its index and cut to the columns there. Those that reach past the height are not
seen. -/
def Panel.SeenAt (panel : Panel) (screen : List Row) (top left width height : Nat) : Prop :=
  ∀ index < height - 2, (panel.row index).Upright →
    (panel.overruns = false ∨ (panel.row index).length ≤ width - 2) →
    cellsAt screen (top + index + 1) (left + 1) (width - 2) =
      (panel.row index).fit (width - 2) panel.inside

/-- The panels have room for their borders and take all rows of the height. -/
structure Column.Fills (column : Column) (height : Nat) : Prop where
  whole : column.height = height
  high : ∀ entry ∈ column, 2 ≤ entry.1

structure Terminal.Documented (terminal : Terminal) : Prop where
  cells : ∀ (style : Style) {text : Text}, (∀ char ∈ text, Upright char) →
    terminal.cells style text = text.map (Cell.of style)
  /-- The style of an item goes on to the end of its row. -/
  item : ∀ (style : Style) (width : Nat) {text : Text}, (∀ char ∈ text, Upright char) →
    terminal.item style width text = (Text.fitted width text).map (Cell.of style)
  /-- A line without blanks goes on in the next row wherever a row is full. -/
  wrap : ∀ {width : Nat} {line : Text}, 0 < width → (∀ char ∈ line, Printed char) →
    terminal.wrap width line = (Text.cut width line).map fun row => row.map Cell.ofChar
  /-- The left column takes forty-five percent. -/
  leftWidth : ∀ scale : Nat, terminal.leftWidth (20 * scale) = 9 * scale
  /-- The panel above those of fixed heights takes the rest, if it gets at least ten rows. -/
  rest : ∀ {height : Nat} {fixed : List Nat}, fixed.sum + 10 ≤ height →
    terminal.rest height fixed = height - fixed.sum
  left : ∀ {width height rows : Nat} {left right above below : Column} {panel : Panel},
    2 ≤ terminal.leftWidth width → left.Fills height → right.Fills height →
    left = above ++ (rows, panel) :: below →
    panel.SeenAt (terminal.draw width left right) above.height 0 (terminal.leftWidth width) rows
  right : ∀ {width height rows : Nat} {left right above below : Column} {panel : Panel},
    2 ≤ terminal.leftWidth width → left.Fills height → right.Fills height →
    right = above ++ (rows, panel) :: below →
    panel.SeenAt (terminal.draw width left right) above.height (terminal.leftWidth width)
      (width - terminal.leftWidth width) rows

namespace Terminal.Standard

private theorem item_of_upright (style : Style) (width : Nat) {text : Text}
    (upright : ∀ char ∈ text, Upright char) :
    item style width text = (Text.fitted width text).map (Cell.of style) := by
  rw [item, Row.ofText_of_upright style upright, Row.fit_map]

private theorem wrap_of_printed {width : Nat} {line : Text} (wide : 0 < width)
    (printed : ∀ char ∈ line, Printed char) :
    wrap width line = (Text.cut width line).map fun row => row.map Cell.ofChar := by
  rw [wrap, Text.wrapped_of_printed wide printed, List.map_map]
  apply List.map_congr_left
  intro row listed
  apply ofCluster_of_printed
  intro char within
  apply printed
  rw [← Text.flatten_cut wide line]
  exact List.mem_flatten_of_mem listed within

private theorem leftWidth_eq (scale : Nat) : leftWidth (20 * scale) = 9 * scale := by
  rw [leftWidth]
  omega

private theorem rest_eq (height : Nat) (fixed : List Nat) :
    rest height fixed = height - fixed.sum := by
  induction fixed generalizing height with
  | nil => rfl
  | cons rows others inductionHypothesis =>
    rw [List.sum_cons, ← Nat.sub_sub]
    exact inductionHypothesis _

private theorem height_append (above below : Column) :
    Column.height (above ++ below) = above.height + below.height := by
  induction above with
  | nil => exact (Nat.zero_add _).symm
  | cons entry others inductionHypothesis =>
    rw [List.cons_append, Column.height, Column.height, inductionHypothesis, Nat.add_assoc]

private theorem length_of_mem_drawColumn {width : Nat} {column : Column} {cells : Row}
    (wide : 2 ≤ width) (member : cells ∈ drawColumn width column) : cells.length = width := by
  obtain ⟨entry, -, drawn⟩ := List.mem_flatMap.mp member
  exact entry.2.length_of_mem_draw wide drawn

section

variable {width height rows index : Nat} {column above below : Column} {panel : Panel}
  (fills : column.Fills height) (split : column = above ++ (rows, panel) :: below)
  (inside : index < rows - 2)

include fills split inside

private theorem row_lt : above.height + index + 1 < height := by
  have whole := fills.whole
  rw [split, height_append, Column.height] at whole
  omega

/-- The rows of a panel come after those of the panels above it. -/
theorem getElem?_drawColumn (width : Nat) :
    (drawColumn width column)[above.height + index + 1]? =
      some (panel.inner width (panel.row index)) := by
  subst split
  have before := length_drawColumn width fun entry member =>
    fills.high entry (List.mem_append_left _ member)
  have drawn := panel.getElem?_draw width inside
  have long := (List.getElem?_eq_some_iff.mp drawn).1
  rw [drawColumn] at before
  rw [drawColumn, List.flatMap_append, List.flatMap_cons, Nat.add_assoc,
    List.getElem?_append_right (by rw [before]; exact Nat.le_add_right _ _), before,
    Nat.add_sub_cancel_left, List.getElem?_append_left long, drawn]

end

private theorem exists_getElem?_drawColumn (width : Nat) {height index : Nat} {column : Column}
    (fills : column.Fills height) (inside : index < height) :
    ∃ cells, (drawColumn width column)[index]? = some cells := by
  have long : index < (drawColumn width column).length := by
    rw [length_drawColumn width fills.high, fills.whole]
    exact inside
  exact ⟨_, List.getElem?_eq_getElem long⟩

section

variable {width height rows : Nat} {left right above below : Column} {panel : Panel}
  (wide : 2 ≤ leftWidth width) (onLeft : left.Fills height) (onRight : right.Fills height)

include wide onLeft onRight

private theorem seenAt_left (split : left = above ++ (rows, panel) :: below) :
    panel.SeenAt (draw width left right) above.height 0 (leftWidth width) rows := by
  intro index inside upright fits
  obtain ⟨cells, beside⟩ := exists_getElem?_drawColumn (width - leftWidth width) onRight
    (row_lt onLeft split inside)
  have drawn := getElem?_drawColumn onLeft split inside (leftWidth width)
  have length := panel.length_inner (panel.row index) wide
  rw [draw, cellsAt_left drawn beside (panel.reachesOut_inner fits upright)
    (by rw [length]; omega), panel.tail_inner fits]

private theorem seenAt_right (split : right = above ++ (rows, panel) :: below) :
    panel.SeenAt (draw width left right) above.height (leftWidth width)
      (width - leftWidth width) rows := by
  intro index inside upright fits
  obtain ⟨cells, beside⟩ := exists_getElem?_drawColumn (leftWidth width) onLeft
    (row_lt onRight split inside)
  have drawn := getElem?_drawColumn onRight split inside (width - leftWidth width)
  have length := length_of_mem_drawColumn wide (List.mem_of_getElem? beside)
  have seen := cellsAt_right beside drawn (panel.reachesOut_inner fits upright)
    (width - leftWidth width - 2)
  rw [length, panel.tail_inner fits] at seen
  rw [draw, seen]

end

end Terminal.Standard

theorem Terminal.documented_standard : Terminal.standard.Documented where
  cells := Row.ofText_of_upright
  item := Standard.item_of_upright
  wrap := Standard.wrap_of_printed
  leftWidth := Standard.leftWidth_eq
  rest _ := Standard.rest_eq _ _
  left := Standard.seenAt_left
  right := Standard.seenAt_right

end WordMachine.Screen
