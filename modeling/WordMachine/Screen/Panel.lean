import WordMachine.Screen.Cell

/-!
Panels: boxes with a title in the top border. Main statement: a panel that is at least two columns
wide and two rows high has exactly the size that it is drawn in.
-/

set_option autoImplicit false

namespace WordMachine.Screen

structure Panel where
  title : Text
  border : Style
  inside : Style
  rows : List Row
  /-- Whether rows that are too long are drawn over the right border; otherwise they are cut. -/
  overruns : Bool

namespace Panel

/-- The top or bottom border: a corner, what stands in the border, filled up with lines, and a
corner. -/
def edge (panel : Panel) (width : Nat) (left right : Char) (text : Text) : Row :=
  let shown := (Row.ofText panel.border text).take (width - 2)
  let line := List.replicate (width - 2 - shown.length) (⟨['─'], panel.border⟩ : Cell)
  ⟨[left], panel.border⟩ :: shown ++ line ++ [⟨[right], panel.border⟩]

/-- A row between the vertical borders. -/
def inner (panel : Panel) (width : Nat) (row : Row) : Row :=
  let side : Cell := ⟨['│'], panel.border⟩
  side :: Row.onto (if panel.overruns then row else row.take (width - 2))
    (Row.blank (width - 2) panel.inside ++ [side])

/-- The rows inside the border, filled up with empty ones to the height. -/
def body (panel : Panel) (height : Nat) : List Row :=
  panel.rows.take (height - 2) ++ List.replicate (height - 2 - panel.rows.length) []

def draw (panel : Panel) (width height : Nat) : List Row :=
  panel.edge width '┌' '┐' panel.title :: (panel.body height).map (panel.inner width)
    ++ [panel.edge width '└' '┘' []]

private theorem length_edge (panel : Panel) {width : Nat} (left right : Char) (text : Text)
    (wide : 2 ≤ width) : (panel.edge width left right text).length = width := by
  simp only [edge, List.length_append, List.length_cons, List.length_take, List.length_replicate,
    List.length_nil]
  omega

theorem length_inner (panel : Panel) {width : Nat} (row : Row) (wide : 2 ≤ width) :
    (panel.inner width row).length = width := by
  simp only [inner, List.length_cons, Row.length_onto, List.length_append, Row.length_blank,
    List.length_nil]
  omega

theorem length_draw (panel : Panel) (width : Nat) {height : Nat} (high : 2 ≤ height) :
    (panel.draw width height).length = height := by
  simp only [draw, body, List.length_append, List.length_cons, List.length_map, List.length_take,
    List.length_replicate, List.length_nil]
  omega

theorem length_of_mem_draw (panel : Panel) {width height : Nat} {row : Row} (wide : 2 ≤ width)
    (drawn : row ∈ panel.draw width height) : row.length = width := by
  simp only [draw, List.mem_append, List.mem_cons, List.mem_map, List.mem_nil_iff, or_false]
    at drawn
  rcases drawn with (top | ⟨inside, _, rfl⟩) | bottom
  · exact top ▸ panel.length_edge _ _ _ wide
  · exact panel.length_inner inside wide
  · exact bottom ▸ panel.length_edge _ _ _ wide

end Panel

end WordMachine.Screen
