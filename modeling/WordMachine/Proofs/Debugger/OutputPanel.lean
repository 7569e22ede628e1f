import WordMachine.Proofs.Debugger.Operations
import WordMachine.Proofs.Debugger.Panels

/-! The panel of the output. It takes as many of the last lines as it has rows, wraps them and shows
the rows from the first one on. So the end of the output is in view as long as no line is wrapped,
and rows at the end are lost where the lines take more rows than there are. -/

set_option autoImplicit false

namespace WordMachine.Debugger

open Screen
open Text (Printed cut rowsFor charAt?)

/-! ## The end of the output -/

/-- The output has only printed characters and line feeds, and its last line ends with a
character. -/
structure Prints (output line : Text) (last : Char) : Prop where
  plain : ∀ char ∈ output, Printed char ∨ char = '\n'
  ends : output.lines.getLast? = some line
  last : line.getLast? = some last

/-- As many of the last lines as the panel has rows. -/
def outputTail (output : Text) : List Text := output.lines.drop (output.lines.length - 6)

/-- The rows of the last lines, wrapped to a width. -/
def tailRows (width : Nat) (output : Text) : List Text := (outputTail output).flatMap (cut width)

/-- The number of rows that the last lines take at a width. -/
def tailHeight (width : Nat) (output : Text) : Nat :=
  ((outputTail output).map (rowsFor width)).sum

private theorem length_tailRows (width : Nat) (output : Text) :
    (tailRows width output).length = tailHeight width output := by
  rw [tailRows, List.length_flatMap, tailHeight]
  congr 1
  exact List.map_congr_left fun line _ => Text.length_cut width line

/-- The row at an index, empty after the last one. -/
def tailRow (width : Nat) (output : Text) (index : Nat) : Text :=
  (tailRows width output)[index]?.getD []

private theorem charAt?_tailRows (width : Nat) (output : Text) (row column : Nat) :
    charAt? (tailRows width output) row column = (tailRow width output row)[column]? := by
  rw [charAt?, tailRow]
  cases (tailRows width output)[row]? <;> rfl

private theorem length_tailRow_le (width : Nat) (output : Text) (index : Nat) :
    (tailRow width output index).length ≤ width := by
  rw [tailRow]
  cases found : (tailRows width output)[index]? with
  | none => exact Nat.zero_le width
  | some row =>
    obtain ⟨text, -, listed⟩ := List.mem_flatMap.mp (List.mem_of_getElem? found)
    exact Text.length_le_of_mem_cut listed

private theorem tail_sublist (output : Text) : List.Sublist (outputTail output).flatten output :=
  (List.drop_sublist _ _).flatten.trans (Text.flatten_lines_sublist output)

namespace Prints

variable {output line : Text} {last : Char} (prints : Prints output line last)

include prints

private theorem printed {text : Text} (member : text ∈ outputTail output) :
    ∀ char ∈ text, Printed char := by
  intro char inside
  have listed : text ∈ output.lines := List.mem_of_mem_drop member
  have known : char ∈ output :=
    (tail_sublist output).subset (List.mem_flatten_of_mem member inside)
  rcases prints.plain char known with printed | feed
  · exact printed
  · subst feed
    exact absurd inside (Text.not_mem_of_mem_lines listed)

private theorem printed_tailRow {width : Nat} (wide : 0 < width) (index : Nat) :
    ∀ char ∈ tailRow width output index, Printed char := by
  intro char member
  rw [tailRow] at member
  cases found : (tailRows width output)[index]? with
  | none =>
    rw [found] at member
    cases member
  | some row =>
    rw [found] at member
    obtain ⟨text, listed, cutting⟩ := List.mem_flatMap.mp (List.mem_of_getElem? found)
    apply prints.printed listed
    rw [← Text.flatten_cut wide text]
    exact List.mem_flatten_of_mem cutting member

private theorem tail_ends : (outputTail output).getLast? = some line := by
  have ends := prints.ends
  have more : 0 < output.lines.length :=
    List.length_pos_of_mem (List.mem_of_getLast? ends)
  rw [outputTail, List.getLast?_drop, if_neg (by omega), ends]

private theorem lastLines_eq : lastLines 6 output = outputTail output := by
  have whole : lastLines 6 output = (Text.joinWith ['\n'] (outputTail output)).lines := rfl
  rw [whole]
  apply Text.lines_joinWith _ prints.tail_ends
  · intro nothing
    have ends := prints.last
    rw [nothing] at ends
    cases ends
  · intro text member
    refine ⟨Text.not_mem_of_mem_lines (List.mem_of_mem_drop member), ?_⟩
    intro ends
    have printed := prints.printed member '\r' (List.mem_of_getLast? ends)
    exact absurd printed.1 (by decide)

end Prints

/-! ## The panel on the screen -/

/-- The columns inside the panel's border, on a screen of twenty times as many columns as the
scale. -/
def outputColumns (scale : Nat) : Nat := 11 * scale - 2

/-- The cell at a place inside the panel's border. -/
def outputCell? (debugger : Debugger) (terminal : Terminal) (scale height row column : Nat) :
    Option Cell :=
  (debugger.drawOn terminal (20 * scale) height)[height - 11 + row]?.bind fun cells =>
    cells[9 * scale + 1 + column]?

section

variable {terminal : Terminal} (documented : terminal.Documented) {debugger : Debugger}
  {line : Text} {last : Char} (prints : Prints debugger.output line last) {scale : Nat}
  (wide : 0 < scale)

include documented prints wide

private theorem rows_outputPanel : (debugger.outputPanel terminal (11 * scale) 8).rows =
    (tailRows (outputColumns scale) debugger.output).map fun row => row.map Cell.ofChar := by
  have columns : 0 < outputColumns scale := by
    rw [outputColumns]
    omega
  have six : withinBorder 8 = 6 := rfl
  have rows : (debugger.outputPanel terminal (11 * scale) 8).rows =
      (lastLines (withinBorder 8) debugger.output).flatMap
        (terminal.wrap (outputColumns scale)) := rfl
  rw [rows, six, prints.lastLines_eq, tailRows, List.map_flatMap]
  apply List.flatMap_congr
  intro text member
  exact documented.wrap columns (prints.printed member)

private theorem row_outputPanel (index : Nat) :
    (debugger.outputPanel terminal (11 * scale) 8).row index =
    (tailRow (outputColumns scale) debugger.output index).map Cell.ofChar := by
  rw [Panel.row, rows_outputPanel documented prints wide, List.getElem?_map, tailRow]
  cases (tailRows (outputColumns scale) debugger.output)[index]? <;> rfl

/-- Inside the border stand the wrapped rows of the last lines, from the first row on. -/
theorem outputCell?_eq {height row column : Nat} (high : 24 ≤ height) (inside : row < 6)
    (within : column < outputColumns scale) :
    debugger.outputCell? terminal scale height row column =
      some (Cell.ofChar ((charAt? (tailRows (outputColumns scale) debugger.output) row
        column).getD ' ')) := by
  have shown := row_outputPanel documented prints wide row
  have printed := prints.printed_tailRow (Nat.zero_lt_of_lt within) row
  have upright :
      Row.Upright ((tailRow (outputColumns scale) debugger.output row).map Cell.ofChar) :=
    Row.upright_map .plain fun char member => (printed char member).upright
  have short : ((tailRow (outputColumns scale) debugger.output row).map Cell.ofChar).length ≤
      outputColumns scale := by
    rw [List.length_map]
    exact length_tailRow_le _ _ row
  have seen := seenAt_outputPanel documented debugger high wide row inside (shown ▸ upright)
    (.inr (shown ▸ short))
  have fitted : Row.fit (outputColumns scale) .plain
      ((tailRow (outputColumns scale) debugger.output row).map Cell.ofChar) =
        (Text.fitted (outputColumns scale)
          (tailRow (outputColumns scale) debugger.output row)).map Cell.ofChar :=
    Row.fit_map .plain _ _
  have index : height - 12 + row + 1 = height - 11 + row := by omega
  have place : (cellsAt (debugger.drawOn terminal (20 * scale) height) (height - 11 + row)
      (9 * scale + 1) (outputColumns scale))[column]? =
        debugger.outputCell? terminal scale height row column :=
    getElem?_cellsAt _ _ _ within
  rw [shown, index] at seen
  rw [← place, outputColumns, seen]
  show (Row.fit (outputColumns scale) .plain _)[column]? = _
  rw [fitted, List.getElem?_map, Text.getElem?_fitted _ within, charAt?_tailRows]
  rfl

end

/-! ## The last character -/

private theorem mem_flatten_of_charAt? {rows : List Text} {row column : Nat} {char : Char}
    (found : charAt? rows row column = some char) : char ∈ rows.flatten := by
  obtain ⟨text, listed, here⟩ := Option.bind_eq_some_iff.mp found
  exact List.mem_flatten_of_mem (List.mem_of_getElem? listed) (List.mem_of_getElem? here)

private theorem mem_take_of_charAt? {rows : List Text} {row column count : Nat} {char : Char}
    (found : charAt? rows row column = some char) (inside : row < count) :
    char ∈ (rows.take count).flatten := by
  have kept : charAt? (rows.take count) row column = some char := by
    rw [charAt?, List.getElem?_take_of_lt inside]
    exact found
  exact mem_flatten_of_charAt? kept

private theorem mem_drop_of_charAt? {rows : List Text} {row column count : Nat} {char : Char}
    (found : charAt? rows row column = some char) (outside : count ≤ row) :
    char ∈ (rows.drop count).flatten := by
  have kept : charAt? (rows.drop count) (row - count) column = some char := by
    rw [charAt?, List.getElem?_drop, Nat.add_sub_cancel' outside]
    exact found
  exact mem_flatten_of_charAt? kept

private theorem flatten_tailRows {width : Nat} (wide : 0 < width) (output : Text) :
    (tailRows width output).flatten = (outputTail output).flatten := by
  rw [tailRows]
  induction outputTail output with
  | nil => rfl
  | cons text rest ih =>
    rw [List.flatMap_cons, List.flatten_append, Text.flatten_cut wide, ih, List.flatten_cons]

/-- The last character stands in the last row of the wrapped lines. -/
theorem Prints.charAt?_last {output line : Text} {last : Char} (prints : Prints output line last)
    {width : Nat} (wide : 0 < width) :
    charAt? (tailRows width output) (tailHeight width output - 1) ((line.length - 1) % width) =
      some last := by
  obtain ⟨others, ends⟩ := List.getLast?_eq_some_iff.mp prints.tail_ends
  have rows : tailRows width output = others.flatMap (cut width) ++ cut width line := by
    rw [tailRows, ends, List.flatMap_append, List.flatMap_singleton]
  have more : 1 ≤ rowsFor width line := Nat.le_max_left _ _
  have height : tailHeight width output - 1 =
      (others.flatMap (cut width)).length + (rowsFor width line - 1) := by
    rw [← length_tailRows, rows, List.length_append, Text.length_cut]
    omega
  rw [charAt?, rows, height, List.getElem?_append_right (Nat.le_add_right _ _),
    Nat.add_sub_cancel_left]
  exact Text.charAt?_cut_last wide prints.last

/-- A character that is only at the end stands in no row before the last one. -/
theorem Prints.charAt?_ne_last {output line : Text} {last : Char} (prints : Prints output line last)
    {width row : Nat} (wide : 0 < width) (many : 6 < tailHeight width output)
    (once : output.count last = 1) (inside : row < 6) (column : Nat) :
    (charAt? (tailRows width output) row column).getD ' ' ≠ last := by
  have later := mem_drop_of_charAt? (prints.charAt?_last wide) (Nat.le_sub_one_of_lt many)
  have listed : line ∈ outputTail output := List.mem_of_getLast? prints.tail_ends
  have printed := prints.printed listed last (List.mem_of_getLast? prints.last)
  intro same
  cases found : charAt? (tailRows width output) row column with
  | none =>
    rw [found] at same
    subst same
    exact absurd printed.1 (by decide)
  | some char =>
    have same : char = last := by rwa [found] at same
    subst same
    have earlier := mem_take_of_charAt? found inside
    have whole : ((tailRows width output).take 6).flatten.count char +
        ((tailRows width output).drop 6).flatten.count char ≤ output.count char := by
      rw [← List.count_append, ← List.flatten_append, List.take_append_drop, flatten_tailRows wide]
      exact (tail_sublist output).count_le char
    have first := List.count_pos_iff.mpr earlier
    have second := List.count_pos_iff.mpr later
    omega

/-- On a documented terminal the panel shows the rows of the last six lines from the first row on.
If these lines take no more than six rows, the last character of the output is in its place. If they
take more, it is not in view, unless it stands in the output for another time. -/
theorem tail_is_shown_or_lost {terminal : Terminal} (documented : terminal.Documented)
    {debugger : Debugger} {scale height : Nat} {line : Text} {last : Char} (wide : 0 < scale)
    (high : 24 ≤ height) (prints : Prints debugger.output line last) :
    (∀ row < 6, ∀ column < outputColumns scale,
      debugger.outputCell? terminal scale height row column =
        some (Cell.ofChar ((charAt? (tailRows (outputColumns scale) debugger.output) row
          column).getD ' '))) ∧
    (tailHeight (outputColumns scale) debugger.output ≤ 6 →
      debugger.outputCell? terminal scale height
          (tailHeight (outputColumns scale) debugger.output - 1)
          ((line.length - 1) % outputColumns scale) = some (Cell.ofChar last)) ∧
    (6 < tailHeight (outputColumns scale) debugger.output → debugger.output.count last = 1 →
      ∀ row < 6, ∀ column < outputColumns scale,
        debugger.outputCell? terminal scale height row column ≠ some (Cell.ofChar last)) := by
  have columns : 0 < outputColumns scale := by
    rw [outputColumns]
    omega
  have ends := prints.charAt?_last columns
  refine ⟨fun row inside column within =>
    outputCell?_eq documented prints wide high inside within, ?_, ?_⟩
  · intro few
    have some : 0 < tailHeight (outputColumns scale) debugger.output := by
      rw [← length_tailRows]
      obtain ⟨text, listed, -⟩ := Option.bind_eq_some_iff.mp ends
      exact List.length_pos_of_mem (List.mem_of_getElem? listed)
    rw [outputCell?_eq documented prints wide high (by omega) (Nat.mod_lt _ columns), ends]
    rfl
  · intro many once row inside column within same
    rw [outputCell?_eq documented prints wide high inside within] at same
    exact prints.charAt?_ne_last columns many once inside column
      (Cell.ofChar_injective (Option.some.inj same))

/-- A program that writes five lines of numbers and a letter, and ten letters before all of them. -/
def letters : List UInt8 :=
  [0x61, 0x1A] ++ (List.replicate 10 [0x01, 0x1E]).flatten ++
    (List.replicate 5 [0x00, 0x1E]).flatten ++ [0x7A, 0x1A, 0x01, 0x1E]

def ticking : List Operation := .run :: List.replicate 20 .tick

def lettersOutput : Text := "aaaaaaaaaa97\n97\n97\n97\n97\nz".toList

private theorem exists_written_letters : ∃ new, ofProgram ⟨64, none, .decimal⟩ letters = .ok new ∧
    (new.performAll ticking).output = lettersOutput := ⟨_, rfl, by decide +kernel⟩

private theorem prints_letters : Prints lettersOutput "z".toList 'z' := by
  have plain : (lettersOutput.all fun char => decide (Printed char ∨ char = '\n')) = true := by
    decide +kernel
  have ends : lettersOutput.lines.getLast? = some "z".toList := by decide +kernel
  exact ⟨fun char member => of_decide_eq_true (List.all_eq_true.mp plain char member), ends, rfl⟩

/-- With twenty columns inside the border the last letter is in view, with nine it is not. -/
theorem letters_are_shown_or_lost : ∃ new, ofProgram ⟨64, none, .decimal⟩ letters = .ok new ∧
    (new.performAll ticking).outputCell? .standard 2 24 5 0 = some (Cell.ofChar 'z') ∧
    ∀ row < 6, ∀ column < 9,
      (new.performAll ticking).outputCell? .standard 1 24 row column ≠ some (Cell.ofChar 'z') := by
  obtain ⟨new, made, written⟩ := exists_written_letters
  have prints : Prints (new.performAll ticking).output "z".toList 'z' := written ▸ prints_letters
  obtain ⟨-, shown, -⟩ := tail_is_shown_or_lost Terminal.documented_standard
    (show 0 < 2 by decide) (Nat.le_refl 24) prints
  obtain ⟨-, -, lost⟩ := tail_is_shown_or_lost Terminal.documented_standard Nat.one_pos
    (Nat.le_refl 24) prints
  rw [written] at shown lost
  exact ⟨new, made, shown (by decide), lost (by decide) (by decide)⟩

/-- The last letter is not in the panel of a screen of twenty columns. -/
theorem last_letter_is_lost : ∃ new, ofProgram ⟨64, none, .decimal⟩ letters = .ok new ∧
    (new.performAll ticking).output.lines.getLast? = some "z".toList ∧
    ∀ height, 24 ≤ height → ∀ row < 6, ∀ column < 9,
      (new.performAll ticking).outputCell? .standard 1 height row column ≠
        some (Cell.ofChar 'z') := by
  obtain ⟨new, made, written⟩ := exists_written_letters
  have prints : Prints (new.performAll ticking).output "z".toList 'z' := written ▸ prints_letters
  refine ⟨new, made, prints.ends, ?_⟩
  intro height high row inside column within
  rw [outputCell?_eq Terminal.documented_standard prints Nat.one_pos high inside within, written]
  have known : ∀ row : Fin 6, ∀ column : Fin 9,
      (charAt? (tailRows 9 lettersOutput) row column).getD ' ' ≠ 'z' := by decide +kernel
  intro same
  exact known ⟨row, inside⟩ ⟨column, within⟩ (Cell.ofChar_injective (Option.some.inj same))

end WordMachine.Debugger
