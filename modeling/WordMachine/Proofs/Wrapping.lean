import WordMachine.Proofs.Text
import WordMachine.Text.Wrapped

/-! Lines of printed characters. Each of the characters is a cluster of one column and none of them
ends a word, so such a line is cut into rows of exactly the width. -/

set_option autoImplicit false

namespace WordMachine.Text

/-! ## Upright characters -/

/-- A character of one column that is joined with no other such character. -/
structure Upright (char : Char) : Prop where
  apart : ClusterClass.ofChar char = .other ∨ ClusterClass.ofChar char = .pictograph
  column : columns [char] = 1

theorem upright_of_ascii {char : Char} (least : 0x20 ≤ char.toNat) (most : char.toNat < 0x7F) :
    Upright char := by
  have ascii : ∀ other ∈ [char], other.toNat < 0x80 := by
    intro other member
    rw [List.mem_singleton.mp member]
    exact Nat.lt_trans most (by decide)
  have plain : ClusterClass.ofChar char = .other := by
    rw [ClusterClass.ofChar, if_neg (Nat.not_lt.mpr least), if_pos most]
  exact ⟨.inl plain, columns_eq_length ascii⟩

/-! ## Printed characters -/

/-- An ASCII character that is neither a control nor the space. -/
def Printed (char : Char) : Prop := 0x20 < char.toNat ∧ char.toNat < 0x7F

instance (char : Char) : Decidable (Printed char) := inferInstanceAs (Decidable (_ ∧ _))

namespace Printed

variable {char : Char} (printed : Printed char)

include printed

theorem upright : Upright char := upright_of_ascii (Nat.le_of_lt printed.1) printed.2

theorem columns_eq : columns [char] = 1 := printed.upright.column

private theorem isBlank_eq : isBlank char = false := by
  obtain ⟨above, below⟩ := printed
  simp only [isBlank, inRanges, blankRanges, List.any_cons, List.any_nil, Bool.or_false,
    Bool.or_eq_false_iff, Bool.and_eq_false_iff, decide_eq_false_iff_not]
  omega

private theorem allowsBreak_eq : allowsBreak [char] = false := by
  have different : ([char] == ['\u200B']) = false := by
    rw [beq_eq_false_iff_ne]
    intro same
    cases same
    exact absurd printed.2 (by decide)
  rw [allowsBreak, different, List.all_cons, printed.isBlank_eq]
  rfl

end Printed

/-- A character on its own for each one of the text. -/
def singles (text : Text) : List Text := text.map fun char => [char]

/-- Nothing before the place draws an upright character to it. -/
structure Place.Open (place : Place) : Prop where
  last : place.last = .control ∨ place.last = .other ∨ place.last = .pictograph
  offer : place.offer = .nothing ∨ place.offer = .pictograph

private theorem Place.Open.joins_eq {place : Place} {char : Char} (isOpen : place.Open)
    (upright : Upright char) : place.joins char = false := by
  obtain ⟨last, offer⟩ := place
  obtain ⟨rfl | rfl | rfl, rfl | rfl⟩ := isOpen <;>
    rcases upright.apart with cls | cls <;> rw [Place.joins, cls] <;> rfl

private theorem Place.open_next {place : Place} {char : Char} (upright : Upright char) :
    (place.next char).Open := by
  rcases upright.apart with cls | cls
  · rw [Place.next, cls]
    exact ⟨.inr (.inl rfl), .inl rfl⟩
  · rw [Place.next, cls]
    exact ⟨.inr (.inr rfl), .inr rfl⟩

private theorem clustersFrom_of_upright {text : Text} (upright : ∀ char ∈ text, Upright char)
    {place : Place} (isOpen : place.Open) : clustersFrom place text = ([], text.singles) := by
  induction text generalizing place with
  | nil => rfl
  | cons char rest ih =>
    have first := upright char List.mem_cons_self
    have others := fun other member => upright other (List.mem_cons_of_mem char member)
    simp only [clustersFrom, ih others (Place.open_next first), isOpen.joins_eq first]
    rfl

theorem clusters_of_upright {line : Text} (upright : ∀ char ∈ line, Upright char) :
    line.clusters = line.singles := by
  have start : Place.start.Open := ⟨.inl rfl, .inl rfl⟩
  rw [clusters, clustersFrom_of_upright upright start]

private theorem clusters_of_printed {line : Text} (printed : ∀ char ∈ line, Printed char) :
    line.clusters = line.singles :=
  clusters_of_upright fun char member => (printed char member).upright

/-! ## Cutting -/

/-- The number of rows of a width that a line takes; an empty line takes one. -/
def rowsFor (width : Nat) (line : Text) : Nat := max 1 ((line.length + width - 1) / width)

/-- The line in rows of a width, each but the last one full. -/
def cut (width : Nat) (line : Text) : List Text :=
  (List.range (rowsFor width line)).map fun row => (line.drop (row * width)).take width

/-- The text cut to a width, or filled up to it with blanks. -/
def fitted (width : Nat) (text : Text) : Text := Text.padRight width (text.take width)

/-- The character at a place in rows of text. -/
def charAt? (rows : List Text) (row column : Nat) : Option Char :=
  rows[row]?.bind fun text => text[column]?

variable {width : Nat}

theorem length_cut (width : Nat) (line : Text) : (cut width line).length = rowsFor width line := by
  rw [cut, List.length_map, List.length_range]

theorem length_le_of_mem_cut {line row : Text} (member : row ∈ cut width line) :
    row.length ≤ width := by
  obtain ⟨index, -, rfl⟩ := List.mem_map.mp member
  exact List.length_take_le _ _

theorem getElem?_fitted (text : Text) {column : Nat} (within : column < width) :
    (fitted width text)[column]? = some (text[column]?.getD ' ') := by
  rw [fitted, padRight, List.rightpad]
  by_cases given : column < text.length
  · have inside : column < (text.take width).length := by
      rw [List.length_take]
      omega
    rw [List.getElem?_append_left inside, List.getElem?_take_of_lt within,
      List.getElem?_eq_getElem given, Option.getD_some]
  · have after : (text.take width).length ≤ column := by
      rw [List.length_take]
      omega
    rw [List.getElem?_append_right after, List.getElem?_eq_none (Nat.not_lt.mp given),
      List.getElem?_replicate, if_pos (by omega), Option.getD_none]

theorem fitted_append (width : Nat) (front rest : Text) :
    fitted width (front ++ rest) = front.take width ++ fitted (width - front.length) rest := by
  have blanks : width - (min width front.length + min (width - front.length) rest.length) =
      width - front.length - min (width - front.length) rest.length := by omega
  simp only [fitted, padRight, List.rightpad, List.take_append, List.length_append,
    List.length_take, List.append_assoc, blanks]

theorem fitted_append_left_iff {width : Nat} (front first second : Text) :
    fitted width (front ++ first) = fitted width (front ++ second) ↔
      fitted (width - front.length) first = fitted (width - front.length) second := by
  rw [fitted_append, fitted_append, List.append_right_inj]

theorem fitted_nil (width : Nat) : fitted width [] = List.replicate width ' ' := by
  simp [fitted, padRight, List.rightpad]

theorem length_fitted (width : Nat) (text : Text) : (fitted width text).length = width := by
  rw [fitted, padRight, List.rightpad, List.length_append, List.length_replicate, List.length_take]
  omega

theorem upright_fitted (width : Nat) {text : Text} (upright : ∀ char ∈ text, Upright char) :
    ∀ char ∈ fitted width text, Upright char := by
  intro char member
  rw [fitted, padRight, List.rightpad] at member
  rcases List.mem_append.mp member with before | after
  · exact upright char (List.mem_of_mem_take before)
  · rw [List.eq_of_mem_replicate after]
    exact upright_of_ascii (by decide) (by decide)

/-- A blank at the end makes no difference. -/
theorem fitted_concat_blank (width : Nat) (text : Text) :
    fitted width (text ++ [' ']) = fitted width text := by
  have blank (count : Nat) : fitted count [' '] = fitted count [] := by
    cases count <;> simp [fitted, padRight, List.rightpad, List.replicate_succ]
  rw [fitted_append, blank, ← fitted_append, List.append_nil]

theorem cut_of_length_le (wide : 0 < width) {line : Text} (short : line.length ≤ width) :
    cut width line = [line] := by
  have one : rowsFor width line = 1 := by
    have few : (line.length + width - 1) / width < 2 := Nat.div_lt_of_lt_mul (by omega)
    rw [rowsFor]
    omega
  rw [cut, one]
  show [(line.drop (0 * width)).take width] = [line]
  rw [Nat.zero_mul, List.drop_zero, List.take_of_length_le short]

theorem cut_append {front rest : Text} (full : front.length = width) (wide : 0 < width)
    (some : rest ≠ []) : cut width (front ++ rest) = front :: cut width rest := by
  have more : 0 < rest.length := List.length_pos_iff.mpr some
  have rows : rowsFor width (front ++ rest) = rowsFor width rest + 1 := by
    have shift : width + rest.length + width - 1 = rest.length + width - 1 + width := by omega
    have least : 1 ≤ (rest.length + width - 1) / width :=
      (Nat.le_div_iff_mul_le wide).mpr (by omega)
    rw [rowsFor, rowsFor, List.length_append, full, shift, Nat.add_div_right _ wide]
    omega
  rw [cut, cut, rows, List.range_succ_eq_map, List.map_cons, List.map_map]
  congr 1
  · rw [Nat.zero_mul, List.drop_zero, ← full, List.take_left]
  · apply List.map_congr_left
    intro row _
    show ((front ++ rest).drop ((row + 1) * width)).take width = _
    rw [Nat.add_one_mul, Nat.add_comm, ← full, ← List.drop_drop, List.drop_left]

theorem flatten_cut (wide : 0 < width) (line : Text) : (cut width line).flatten = line := by
  induction size : line.length using Nat.strong_induction_on generalizing line with
  | _ size ih =>
    subst size
    by_cases short : line.length ≤ width
    · rw [cut_of_length_le wide short, List.flatten_singleton]
    · have full : (line.take width).length = width := by
        rw [List.length_take]
        omega
      have some : line.drop width ≠ [] := by
        rw [Ne, List.drop_eq_nil_iff]
        exact short
      have less : (line.drop width).length < line.length := by
        rw [List.length_drop]
        omega
      rw [← List.take_append_drop width line, cut_append full wide some, List.flatten_cons,
        ih _ less _ rfl]

private theorem charAt?_cut {text : Text} {row column : Nat} (inside : row < rowsFor width text)
    (within : column < width) :
    charAt? (cut width text) row column = text[row * width + column]? := by
  rw [charAt?, cut, List.getElem?_map, List.getElem?_range inside]
  show ((text.drop (row * width)).take width)[column]? = _
  rw [List.getElem?_take_of_lt within, List.getElem?_drop]

/-- The last character of a line stands in its last row. -/
theorem charAt?_cut_last (wide : 0 < width) {line : Text} {last : Char}
    (ends : line.getLast? = some last) :
    charAt? (cut width line) (rowsFor width line - 1) ((line.length - 1) % width) = some last := by
  have more : 0 < line.length := List.length_pos_of_mem (List.mem_of_getLast? ends)
  have rows : rowsFor width line = (line.length - 1) / width + 1 := by
    have shift : line.length + width - 1 = line.length - 1 + width := by omega
    rw [rowsFor, shift, Nat.add_div_right _ wide]
    exact Nat.max_eq_right (Nat.succ_le_succ (Nat.zero_le _))
  have inside : rowsFor width line - 1 < rowsFor width line := by
    rw [rows]
    exact Nat.lt_succ_self _
  rw [charAt?_cut inside (Nat.mod_lt _ wide), rows, Nat.add_sub_cancel,
    Nat.mul_comm, Nat.div_add_mod, ← List.getLast?_eq_getElem?, ends]

/-! ## Wrapping -/

namespace Wrapping

/-- What has been read of a line without blanks: rows, and a word that is not ended. -/
def within (rows : Array (List Text)) (word : Text) : Wrapping :=
  ⟨rows, .empty, .empty, ⟨word.singles.reverse, word.length⟩, !word.isEmpty⟩

variable {rows : Array (List Text)} {word : Text} {char : Char} (printed : Printed char)

include printed in
private theorem feed_of_room (room : word.length < width) :
    (within rows word).feed width [char] = within rows (word ++ [char]) := by
  have wide : ¬width < 1 := by omega
  have unsettled : (within rows word).isSettled width false 1 = false := by
    simp [isSettled, within, Strip.empty]
    omega
  have unfilled : (within rows word).isFull width 1 = false := by
    simp [isFull, within, Strip.empty]
    omega
  rw [feed, printed.columns_eq, printed.allowsBreak_eq]
  simp only [if_neg wide, unsettled, unfilled, Bool.false_eq_true, if_false]
  simp [append, within, Strip.push, singles]

include printed in
private theorem feed_of_full (wide : 0 < width) (full : word.length = width) :
    (within rows word).feed width [char] = within (rows.push word.singles) [char] := by
  have fits : ¬width < 1 := by omega
  have settled : (within rows word).isSettled width false 1 = true := by
    simp [isSettled, within, Strip.empty, Strip.isEmpty]
    omega
  have filled : (within rows word).settle.isFull width 1 = true := by
    simp [isFull, settle, within, Strip.empty, Strip.append]
    omega
  rw [feed, printed.columns_eq, printed.allowsBreak_eq]
  simp only [if_neg fits, settled, filled, if_true]
  simp [append, breakRow, settle, within, Strip.push, Strip.append, Strip.empty, Strip.ofList,
    Strip.toList, Strip.dropFitting, singles]

private theorem finish_within (started : word ≠ [] ∨ rows = #[]) :
    (within rows word).finish = rows.toList ++ [word.singles] := by
  have last : (within rows word).settle.row.toList = word.singles := by
    simp [settle, within, Strip.append, Strip.empty, Strip.toList]
  have blanks : (!(within rows word).gap.isEmpty) = false := rfl
  rw [finish]
  simp only [last, blanks, Bool.and_false]
  rcases started with some | none
  · have filled : word.singles.isEmpty = false := by
      cases word with
      | nil => exact absurd rfl some
      | cons => rfl
    rw [filled]
    simp [within]
  · subst none
    cases word <;> rfl

private theorem finish_foldl (wide : 0 < width) {line : Text}
    (printed : ∀ char ∈ line, Printed char) (rows : Array (List Text)) {word : Text}
    (fits : word.length ≤ width) (started : word ≠ [] ∨ rows = #[]) :
    (line.singles.foldl (feed width) (within rows word)).finish =
      rows.toList ++ (cut width (word ++ line)).map singles := by
  induction line generalizing rows word with
  | nil =>
    rw [List.append_nil, cut_of_length_le wide fits]
    exact finish_within started
  | cons char rest ih =>
    have first := printed char List.mem_cons_self
    have others := fun other member => printed other (List.mem_cons_of_mem char member)
    show ((singles rest).foldl (feed width) (feed width (within rows word) [char])).finish = _
    rcases Nat.lt_or_eq_of_le fits with room | full
    · rw [feed_of_room first room, ih others rows (by simpa using room) (.inl (by simp)),
        List.append_assoc]
      rfl
    · have one : [char].length ≤ width := wide
      rw [feed_of_full first wide full, ih others _ one (.inl (List.cons_ne_nil _ _)),
        cut_append full wide (List.cons_ne_nil _ _)]
      simp

end Wrapping

theorem wrapped_of_printed (wide : 0 < width) {line : Text}
    (printed : ∀ char ∈ line, Printed char) :
    line.wrapped width = (cut width line).map singles := by
  have start : Wrapping.start = Wrapping.within #[] [] := rfl
  have unread : ([] : Text).length ≤ width := Nat.zero_le width
  rw [wrapped, clusters_of_printed printed, start,
    Wrapping.finish_foldl wide printed #[] unread (.inr rfl), Array.toList_empty, List.nil_append,
    List.nil_append]

end WordMachine.Text
