import WordMachine.Proofs.Wrapping
import WordMachine.Screen.Panel

/-! What is seen of cells. A row of upright characters is seen as it is, and in a panel it stands
between the borders, cut or filled up to the columns there. -/

set_option autoImplicit false

namespace WordMachine.Screen

/-! ## Rows -/

private theorem getElem?_seenRows (covered : Bool) (rows : List Row) (index : Nat) :
    ∃ others, (seenRows covered rows)[index]? = rows[index]?.map (Row.seen others) := by
  induction rows generalizing covered index with
  | nil => exact ⟨covered, rfl⟩
  | cons first rows ih =>
    cases index with
    | zero => exact ⟨covered, rfl⟩
    | succ index => exact ih first.reachesOut index

/-! ## Panels -/

/-- The row at an index of the panel, empty after the last one. -/
def Panel.row (panel : Panel) (index : Nat) : Row := (panel.rows[index]?).getD []

theorem Panel.getElem?_draw (panel : Panel) (width : Nat) {height index : Nat}
    (inside : index < height - 2) :
    (panel.draw width height)[index + 1]? = some (panel.inner width (panel.row index)) := by
  have body : (panel.body height)[index]? = some (panel.row index) := by
    rw [Panel.body, Panel.row]
    by_cases given : index < panel.rows.length
    · rw [List.getElem?_append_left (by rw [List.length_take]; omega),
        List.getElem?_take_of_lt inside, List.getElem?_eq_getElem given, Option.getD_some]
    · have none := List.getElem?_eq_none (Nat.not_lt.mp given)
      rw [List.getElem?_append_right (by rw [List.length_take]; omega), none, Option.getD_none,
        List.getElem?_replicate, if_pos]
      rw [List.length_take]
      omega
  have long : index < (panel.body height).length := (List.getElem?_eq_some_iff.mp body).1
  rw [Panel.draw, List.cons_append, List.getElem?_cons_succ,
    List.getElem?_append_left (by rwa [List.length_map]), List.getElem?_map, body]
  rfl

/-- The cell of a character that takes one place. -/
def Cell.ofChar (char : Char) : Cell := ⟨[char], .plain⟩

theorem Cell.ofChar_injective : Function.Injective Cell.ofChar :=
  fun _ _ same => List.singleton_inj.mp (congrArg Cell.symbol same)

theorem ofCluster_of_printed {text : Text} (printed : ∀ char ∈ text, Text.Printed char) :
    text.singles.flatMap (Row.ofCluster .plain) = text.map Cell.ofChar := by
  induction text with
  | nil => rfl
  | cons char rest ih =>
    have others := fun other member => printed other (List.mem_cons_of_mem char member)
    have single : Row.ofCluster .plain [char] = [Cell.ofChar char] := by
      rw [Row.ofCluster, (printed char List.mem_cons_self).columns_eq]
      rfl
    show Row.ofCluster .plain [char] ++ (Text.singles rest).flatMap (Row.ofCluster .plain) = _
    rw [ih others, single]
    rfl

/-! ## Rows of upright characters -/

/-- The cell of a character in a style. -/
def Cell.of (style : Style) (char : Char) : Cell := ⟨[char], style⟩

namespace Row

/-- Every cell holds one upright character. -/
def Upright (row : Row) : Prop := ∀ cell ∈ row, ∃ char, Text.Upright char ∧ cell.symbol = [char]

/-- What the cells hold, one after another. -/
def text (row : Row) : Text := row.flatMap Cell.symbol

theorem ofText_of_upright (style : Style) {text : Text}
    (upright : ∀ char ∈ text, Text.Upright char) :
    ofText style text = text.map (Cell.of style) := by
  rw [ofText, Text.clusters_of_upright upright]
  induction text with
  | nil => rfl
  | cons char rest ih =>
    have others := fun other member => upright other (List.mem_cons_of_mem char member)
    have single : ofCluster style [char] = [Cell.of style char] := by
      rw [ofCluster, (upright char List.mem_cons_self).column]
      rfl
    simp only [Text.singles, List.map_cons, List.flatMap_cons, single] at ih ⊢
    rw [ih others]
    rfl

theorem upright_map (style : Style) {text : Text} (upright : ∀ char ∈ text, Text.Upright char) :
    Upright (text.map (Cell.of style)) := by
  intro cell member
  obtain ⟨char, inside, rfl⟩ := List.mem_map.mp member
  exact ⟨char, upright char inside, rfl⟩

private theorem upright_blank (width : Nat) (style : Style) : Upright (blank width style) := by
  intro cell member
  rw [List.eq_of_mem_replicate member]
  exact ⟨' ', Text.upright_of_ascii (by decide) (by decide), rfl⟩

theorem text_map (style : Style) (text : Text) : Row.text (text.map (Cell.of style)) = text := by
  induction text with
  | nil => rfl
  | cons char rest ih => exact congrArg (char :: ·) ih

theorem text_blank (width : Nat) (style : Style) :
    (blank width style).text = List.replicate width ' ' := by
  have cells : blank width style = (List.replicate width ' ').map (Cell.of style) := by
    rw [List.map_replicate]
    rfl
  rw [cells, text_map]

theorem text_append (row others : Row) : Row.text (row ++ others) = row.text ++ others.text :=
  List.flatMap_append

namespace Upright

variable {row : Row} (upright : row.Upright)

include upright

private theorem take (count : Nat) : Row.Upright (row.take count) :=
  fun cell member => upright cell (List.mem_of_mem_take member)

private theorem reachesOut_eq : ∀ cell ∈ row, cell.reachesOut = false := by
  intro cell member
  obtain ⟨char, single, symbol⟩ := upright cell member
  rw [Cell.reachesOut, symbol, single.column]
  rfl

private theorem text_take (count : Nat) : Row.text (row.take count) = row.text.take count := by
  induction row generalizing count with
  | nil => simp [Row.text]
  | cons cell rest ih =>
    obtain ⟨char, -, symbol⟩ := upright cell List.mem_cons_self
    have others := ih fun other member => upright other (List.mem_cons_of_mem cell member)
    cases count with
    | zero => rfl
    | succ count =>
      simp only [Row.text, List.take_succ_cons, List.flatMap_cons, symbol] at others ⊢
      simpa using others count

private theorem length_text : row.text.length = row.length := by
  induction row with
  | nil => rfl
  | cons cell rest ih =>
    obtain ⟨char, -, symbol⟩ := upright cell List.mem_cons_self
    have others := ih fun other member => upright other (List.mem_cons_of_mem cell member)
    simp only [Row.text, List.flatMap_cons, symbol] at others ⊢
    simpa using others

end Upright

/-- Only as many cells count as the other row has. -/
theorem onto_take (row below : Row) : onto (row.take below.length) below = row.onto below := by
  induction row generalizing below with
  | nil => simp
  | cons cell rest ih =>
    cases below with
    | nil => rfl
    | cons place below => rw [List.length_cons, List.take_succ_cons, onto, onto, ih]

private theorem fit_eq_of_length_le {row : Row} {width : Nat} (short : row.length ≤ width)
    (style : Style) :
    row.fit width style = row.map (fun cell => cell.onto (Cell.blank style)) ++
      blank (width - row.length) style := by
  rw [fit]
  induction row generalizing width with
  | nil => rfl
  | cons cell rest ih =>
    cases width with
    | zero => cases short
    | succ width =>
      have others := ih (Nat.le_of_succ_le_succ short)
      rw [blank, List.replicate_succ, onto, ← blank, others, List.length_cons,
        Nat.add_sub_add_right]
      rfl

/-- A row that is fitted to a width keeps its cells over the blanks, which show after its end. -/
theorem fit_eq (row : Row) (width : Nat) (style : Style) :
    row.fit width style = (row.take width).map (fun cell => cell.onto (Cell.blank style)) ++
      blank (width - row.length) style := by
  have rest : width - (row.take width).length = width - row.length := by
    rw [List.length_take]
    omega
  have fitted := fit_eq_of_length_le (List.length_take_le width row) style
  have cut := onto_take row (blank width style)
  rw [length_blank] at cut
  rw [fit, cut, rest] at fitted
  exact fitted

/-- A text that is fitted in its own style fills the width in this style. -/
theorem fit_map (style : Style) (width : Nat) (text : Text) :
    Row.fit width style (text.map (Cell.of style)) =
      (Text.fitted width text).map (Cell.of style) := by
  have same (char : Char) : (Cell.of style char).onto (Cell.blank style) = Cell.of style char := by
    by_cases plain : style = .plain <;> simp [Cell.onto, Cell.of, Cell.blank, plain]
  have rest : width - (text.take width).length = width - text.length := by
    rw [List.length_take]
    omega
  rw [fit_eq, ← List.map_take, List.map_map, List.length_map, Text.fitted, Text.padRight,
    List.rightpad, rest, List.map_append, List.map_replicate]
  exact congrArg (· ++ _) (List.map_congr_left fun char _ => same char)

namespace Upright

variable {row : Row} (upright : row.Upright)

include upright

private theorem map_onto (style : Style) :
    Row.Upright (row.map fun cell => cell.onto (Cell.blank style)) ∧
      Row.text (row.map fun cell => cell.onto (Cell.blank style)) = row.text := by
  have symbol_onto : ∀ cell ∈ row, (cell.onto (Cell.blank style)).symbol = cell.symbol := by
    intro cell member
    obtain ⟨char, -, symbol⟩ := upright cell member
    rw [Cell.onto, symbol]
    by_cases plain : cell.style = .plain <;> simp [plain, symbol]
  constructor
  · intro cell member
    obtain ⟨before, inside, rfl⟩ := List.mem_map.mp member
    rw [symbol_onto before inside]
    exact upright before inside
  · rw [Row.text, List.flatMap_map]
    exact List.flatMap_congr symbol_onto

private theorem fit (width : Nat) (style : Style) : Row.Upright (row.fit width style) := by
  rw [fit_eq]
  intro cell member
  rcases List.mem_append.mp member with before | after
  · exact ((upright.take width).map_onto style).1 cell before
  · exact upright_blank _ style cell after

theorem text_fit (width : Nat) (style : Style) :
    Row.text (row.fit width style) = Text.fitted width row.text := by
  have rest : width - min width row.length = width - row.length := by omega
  rw [fit_eq, text_append, ((upright.take width).map_onto style).2, text_blank,
    upright.text_take, Text.fitted, Text.padRight, List.rightpad, List.length_take,
    upright.length_text, rest]

/-- A row of full width is not changed by what it is laid over, if that does not stand out. -/
theorem fit_of_full : row.fit row.length .plain = row := by
  have same : ∀ cell ∈ row, cell.onto (Cell.blank .plain) = id cell := by
    intro cell member
    obtain ⟨char, -, symbol⟩ := upright cell member
    obtain ⟨symbol, style⟩ := cell
    subst symbol
    by_cases plain : style = .plain <;> simp [Cell.onto, Cell.blank, plain]
  rw [fit_eq, Nat.sub_self, blank, List.replicate_zero, List.append_nil, List.take_length,
    List.map_congr_left same, List.map_id]

end Upright

end Row

/-! ## Places on a screen -/

/-- The cells of a row of the screen, from a column on. -/
def cellsAt (screen : List Row) (row column count : Nat) : Row :=
  (((screen[row]?).getD []).drop column).take count

theorem getElem?_cellsAt (screen : List Row) (row first : Nat) {count column : Nat}
    (within : column < count) : (cellsAt screen row first count)[column]? =
      screen[row]?.bind fun cells => cells[first + column]? := by
  rw [cellsAt, List.getElem?_take_of_lt within, List.getElem?_drop]
  cases screen[row]? <;> rfl

private theorem Row.seen_append (covered : Bool) (left right : Row) :
    ∃ others, (left ++ right).seen covered = left.seen covered ++ right.seen others := by
  induction left generalizing covered with
  | nil => exact ⟨covered, rfl⟩
  | cons cell rest ih =>
    obtain ⟨others, same⟩ := ih cell.reachesOut
    exact ⟨others, congrArg (_ :: ·) same⟩

/-- After its first place a row in which nothing reaches out is seen as it is. -/
theorem Row.tail_seen {row : Row} (flat : ∀ cell ∈ row, cell.reachesOut = false) (covered : Bool) :
    (row.seen covered).tail = row.tail := by
  induction row generalizing covered with
  | nil => rfl
  | cons cell rest ih =>
    have alone := flat cell List.mem_cons_self
    have others := ih fun other member => flat other (List.mem_cons_of_mem cell member)
    rw [seen, List.tail_cons, List.tail_cons, alone]
    cases rest with
    | nil => rfl
    | cons second rest =>
      have tails := others false
      rw [seen, List.tail_cons, List.tail_cons] at tails
      rw [seen, tails]
      rfl

private theorem Row.onto_append {row below : Row} (short : row.length ≤ below.length) (rest : Row) :
    row.onto (below ++ rest) = row.onto below ++ rest := by
  induction row generalizing below with
  | nil => cases below <;> cases rest <;> rfl
  | cons cell row ih =>
    cases below with
    | nil => cases short
    | cons place below =>
      rw [List.cons_append, onto, onto, ih (Nat.le_of_succ_le_succ short), List.cons_append]

/-- A row that is cut or short enough stands between two vertical borders. -/
theorem Panel.inner_eq (panel : Panel) {width : Nat} {row : Row}
    (fits : panel.overruns = false ∨ row.length ≤ width - 2) :
    panel.inner width row =
      ⟨['│'], panel.border⟩ :: row.fit (width - 2) panel.inside ++ [⟨['│'], panel.border⟩] := by
  have whole : (if panel.overruns then row else row.take (width - 2)) = row.take (width - 2) := by
    rcases fits with cuts | short
    · rw [cuts, if_neg Bool.false_ne_true]
    · rw [List.take_of_length_le short, ite_self]
  have short : (row.take (width - 2)).length ≤ (Row.blank (width - 2) panel.inside).length := by
    rw [Row.length_blank]
    exact List.length_take_le _ _
  have cut := Row.onto_take row (Row.blank (width - 2) panel.inside)
  rw [Row.length_blank] at cut
  rw [inner, whole, Row.onto_append short, cut, List.cons_append, Row.fit]

theorem Panel.reachesOut_inner (panel : Panel) {width : Nat} {row : Row}
    (fits : panel.overruns = false ∨ row.length ≤ width - 2) (upright : row.Upright) :
    ∀ cell ∈ panel.inner width row, cell.reachesOut = false := by
  have one : Text.columns ['│'] = 1 := by decide +kernel
  have side : Cell.reachesOut ⟨['│'], panel.border⟩ = false := by
    rw [Cell.reachesOut, one]
    rfl
  have inside := upright.fit (width - 2) panel.inside
  rw [panel.inner_eq fits]
  intro cell member
  rcases List.mem_append.mp member with front | last
  · rcases List.mem_cons.mp front with rfl | between
    · exact side
    · exact inside.reachesOut_eq cell between
  · rw [List.mem_singleton.mp last]
    exact side

/-- What stands between the borders. -/
theorem Panel.tail_inner (panel : Panel) {width : Nat} {row : Row}
    (fits : panel.overruns = false ∨ row.length ≤ width - 2) :
    (panel.inner width row).tail.take (width - 2) = row.fit (width - 2) panel.inside := by
  rw [panel.inner_eq fits, List.cons_append, List.tail_cons]
  exact List.take_left' (Row.length_fit _ _ _)

section

variable {left right : List Row} {index : Nat} {cells others : Row}
  (onLeft : left[index]? = some cells) (onRight : right[index]? = some others)

include onLeft onRight

private theorem exists_seen_beside : ∃ covered later,
    (seenRows false (List.zipWith (· ++ ·) left right))[index]? =
      some (cells.seen covered ++ others.seen later) := by
  obtain ⟨covered, seen⟩ := getElem?_seenRows false (List.zipWith (· ++ ·) left right) index
  obtain ⟨later, split⟩ := Row.seen_append covered cells others
  refine ⟨covered, later, ?_⟩
  rw [seen, List.getElem?_zipWith, onLeft, onRight, ← split]
  rfl

/-- Of two columns of rows side by side each is seen as it is after its first place. -/
theorem cellsAt_left (flat : ∀ cell ∈ cells, cell.reachesOut = false) {count : Nat}
    (within : count < cells.length) :
    cellsAt (seenRows false (List.zipWith (· ++ ·) left right)) index 1 count =
      cells.tail.take count := by
  obtain ⟨covered, later, row⟩ := exists_seen_beside onLeft onRight
  have long : 1 ≤ (cells.seen covered).length := by
    rw [Row.length_seen]
    omega
  have fits : count ≤ cells.tail.length := by
    rw [List.length_tail]
    omega
  rw [cellsAt, row, Option.getD_some, List.drop_append_of_le_length long, List.drop_one,
    Row.tail_seen flat, List.take_append_of_le_length fits]

theorem cellsAt_right (flat : ∀ cell ∈ others, cell.reachesOut = false) (count : Nat) :
    cellsAt (seenRows false (List.zipWith (· ++ ·) left right)) index (cells.length + 1) count =
      others.tail.take count := by
  obtain ⟨covered, later, row⟩ := exists_seen_beside onLeft onRight
  have front : (cells.seen covered).length = cells.length := Row.length_seen covered cells
  rw [cellsAt, row, Option.getD_some, ← front, ← List.drop_drop, List.drop_left, List.drop_one,
    Row.tail_seen flat]

end

end WordMachine.Screen
