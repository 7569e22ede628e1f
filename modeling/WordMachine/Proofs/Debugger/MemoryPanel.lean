import WordMachine.Proofs.Debugger.Operations
import WordMachine.Proofs.Debugger.Panels
import WordMachine.Proofs.Upright

/-! The panel of the memory beside the report of the memory. The panel does not pad its words, so a
line of it agrees with the line of the report exactly if all words in view are as wide as a field.
In bases that show the bit pattern all words are; in decimal only those of five digits and a sign
are. -/

set_option autoImplicit false

namespace WordMachine

open Screen
open Text (Upright upright_of_ascii)

/-! ## Words without padding -/

private theorem Word.field_of_full {word : Word} {radix : Radix}
    (full : (word.format radix).length = radix.width) : word.field radix = word.format radix := by
  rw [field, Text.padLeft, List.leftpad, full, Nat.sub_self]
  rfl

private theorem Word.format_ne_nil (word : Word) (radix : Radix) : word.format radix ≠ [] := by
  by_cases raw : radix = .decimal
  · subst raw
    simp only [format, decimal, Numeral.decimal, Numeral.digits]
    split
    next => exact List.cons_ne_nil _ _
    next => exact Nat.toDigits_ne_nil
  · apply List.ne_nil_of_length_pos
    rw [word.length_format_of_ne_decimal raw]
    cases radix <;> decide

/-- In decimal a sign and five digits fill a field. -/
theorem Word.length_format_decimal_iff (word : Word) :
    (word.format .decimal).length = Radix.width .decimal ↔ word.toInt ≤ -10000 := by
  have least := word.le_toInt
  have most := word.toInt_lt
  have small : (Nat.toDigits 10 word.toInt.natAbs).length ≤ 5 := by
    rw [Nat.length_toDigits_le_iff (by decide) (by decide)]
    omega
  have short : (Nat.toDigits 10 word.toInt.natAbs).length ≤ 4 ↔ word.toInt.natAbs < 10 ^ 4 :=
    Nat.length_toDigits_le_iff (by decide) (by decide)
  simp only [format, decimal, Numeral.decimal, Numeral.digits, Radix.width]
  split
  next =>
    rw [List.length_cons]
    omega
  next => omega

namespace Memory

/-- The words of a row as they are, each with a blank before it. -/
def unpadded (radix : Radix) (words : List Word) : Text :=
  words.flatMap fun word => ' ' :: word.format radix

private theorem unpadded_concat_blank (radix : Radix) (words : List Word) :
    unpadded radix words ++ [' '] =
      ' ' :: words.flatMap fun word => word.format radix ++ [' '] := by
  induction words with
  | nil => rfl
  | cons word rest ih =>
    simp only [unpadded, List.flatMap_cons, List.append_assoc] at ih ⊢
    rw [ih]
    simp

/-- Cut to some columns, the words agree with their fields exactly if every word that begins before
the last column fills its field. The first one that does not has its first digit where the field
has a blank. -/
theorem fitted_unpadded_eq_iff (radix : Radix) (words : List Word) (columns : Nat) :
    Text.fitted columns (unpadded radix words) = Text.fitted columns (fields radix words) ↔
      ∀ position word, words[position]? = some word →
        position * (radix.width + 1) + 1 < columns →
        (word.format radix).length = radix.width := by
  induction words generalizing columns with
  | nil => exact iff_of_true rfl nofun
  | cons word rest ih =>
    have unpadded_cons : unpadded radix (word :: rest) =
      (' ' :: word.format radix) ++ unpadded radix rest := rfl
    have fields_cons : fields radix (word :: rest) =
      (' ' :: word.field radix) ++ fields radix rest := rfl
    by_cases room : 1 < columns
    · by_cases full : (word.format radix).length = radix.width
      · rw [unpadded_cons, fields_cons, Word.field_of_full full, Text.fitted_append_left_iff,
          List.length_cons, full, ih]
        constructor
        · intro others position other found inside
          cases position with
          | zero =>
            cases found
            exact full
          | succ position =>
            refine others position other found ?_
            rw [Nat.succ_mul] at inside
            omega
        · intro each position other found inside
          refine each (position + 1) other found ?_
          rw [Nat.succ_mul]
          omega
      · refine iff_of_false ?_ fun each => full (each 0 word rfl (by omega))
        intro same
        -- The field begins with a blank at this place, and the word alone does not.
        have second := congrArg (fun text : Text => text[1]?) same
        have short : (word.format radix).length < radix.width :=
          Nat.lt_of_le_of_ne (word.length_format_le radix) full
        obtain ⟨blanks, pad⟩ : ∃ blanks, radix.width - (word.format radix).length = blanks + 1 :=
          ⟨_, (Nat.succ_pred_eq_of_pos (Nat.sub_pos_of_lt short)).symm⟩
        have field : word.field radix =
            ' ' :: (List.replicate blanks ' ' ++ word.format radix) := by
          rw [Word.field, Text.padLeft, List.leftpad, pad, List.replicate_succ, List.cons_append]
        obtain ⟨first, digits, format⟩ := List.exists_cons_of_ne_nil (word.format_ne_nil radix)
        have solid := word.solid_format radix first (format ▸ List.mem_cons_self)
        simp only [Text.getElem?_fitted _ room, unpadded_cons, fields_cons, field, format] at second
        cases Option.some.inj second
        cases solid
    · have narrow : columns - 1 = 0 := by omega
      refine iff_of_true ?_ fun position other found inside => by omega
      have cut (text : Text) : Text.fitted columns (' ' :: text) = [' '].take columns := by
        have blank := Text.fitted_append columns [' '] text
        rw [List.length_singleton, narrow] at blank
        exact blank.trans (List.append_nil _)
      exact (cut _).trans (cut _).symm

end Memory

namespace Debugger

section

variable (debugger : Debugger)

/-! ## Rows -/

private theorem upright_wordText (word : Word) : ∀ char ∈ word.format debugger.radix ++ [' '],
    Upright char := by
  intro char member
  rcases List.mem_append.mp member with digit | blank
  · exact word.upright_format debugger.radix char digit
  · rw [List.mem_singleton.mp blank]
    exact upright_of_ascii (by decide) (by decide)

private theorem upright_placeText (row : Nat) :
    ∀ char ∈ Numeral.hex4 (Memory.rowAddress row) ++ [':', ' '], Upright char := by
  intro char member
  rcases List.mem_append.mp member with digit | between
  · exact Numeral.upright_hex4 _ char digit
  · simp only [List.mem_cons, List.not_mem_nil, or_false] at between
    rcases between with rfl | rfl <;> exact upright_of_ascii (by decide) (by decide)

variable {terminal : Terminal} (documented : terminal.Documented)

include documented

private theorem memoryCells_eq (address : Nat) (word : Word) :
    debugger.memoryCells terminal address word =
      (word.format debugger.radix ++ [' ']).map (Cell.of (debugger.cellStyle address word)) :=
  documented.cells _ (debugger.upright_wordText word)

private theorem upright_memoryRow (row : Nat) : (debugger.memoryRow terminal row).Upright := by
  intro cell member
  rw [memoryRow, documented.cells _ (upright_placeText row)] at member
  rcases List.mem_append.mp member with place | words
  · exact Row.upright_map _ (upright_placeText row) cell place
  · obtain ⟨⟨word, address⟩, -, inside⟩ := List.mem_flatMap.mp words
    have cells : Row.Upright (debugger.memoryCells terminal address word) := by
      rw [debugger.memoryCells_eq documented]
      exact Row.upright_map _ (debugger.upright_wordText word)
    exact cells cell inside

/-- A row has its address and then its words, each with a blank after it. -/
theorem text_memoryRow (row : Nat) : (debugger.memoryRow terminal row).text =
    Numeral.hex4 (row * 8) ++ [':', ' '] ++
      (debugger.machine.memory.rowWords row).flatMap fun word =>
        word.format debugger.radix ++ [' '] := by
  have words (address : Nat) (words : List Word) :
      Row.text ((words.zipIdx address).flatMap fun item =>
        debugger.memoryCells terminal item.2 item.1) =
      words.flatMap fun word => word.format debugger.radix ++ [' '] := by
    have each (item : Word × Nat) :
        (debugger.memoryCells terminal item.2 item.1).flatMap Cell.symbol =
          item.1.format debugger.radix ++ [' '] := by
      rw [debugger.memoryCells_eq documented]
      exact Row.text_map _ _
    calc Row.text ((words.zipIdx address).flatMap fun item =>
          debugger.memoryCells terminal item.2 item.1)
      _ = (words.zipIdx address).flatMap fun item =>
            (debugger.memoryCells terminal item.2 item.1).flatMap Cell.symbol := List.flatMap_assoc
      _ = (words.zipIdx address).flatMap fun item => item.1.format debugger.radix ++ [' '] :=
        List.flatMap_congr fun item _ => each item
      _ = ((words.zipIdx address).map Prod.fst).flatMap fun word =>
            word.format debugger.radix ++ [' '] := by
        rw [List.flatMap_map]
      _ = words.flatMap fun word => word.format debugger.radix ++ [' '] := by
        rw [List.zipIdx_map_fst]
  have cells : debugger.memoryRow terminal row =
      terminal.cells .plain (Numeral.hex4 (Memory.rowAddress row) ++ [':', ' ']) ++
        ((debugger.machine.memory.rowWords row).zipIdx (Memory.rowAddress row)).flatMap fun item =>
          debugger.memoryCells terminal item.2 item.1 := rfl
  rw [cells, Row.text_append, words, documented.cells _ (upright_placeText row), Row.text_map]
  rfl

omit documented in
private theorem row_memoryPanel (terminal : Terminal) {height row : Nat}
    (inside : row < height - 14) :
    (debugger.memoryPanel terminal (height - 12)).row row =
      if debugger.scroll + row < debugger.machine.memory.rowCount then
        debugger.memoryRow terminal (debugger.scroll + row)
      else [] := by
  have lines : withinBorder (height - 12) = height - 14 := by rw [withinBorder, Nat.sub_sub]
  have rows : (debugger.memoryPanel terminal (height - 12)).rows =
      (List.range' debugger.scroll (min (withinBorder (height - 12))
        (debugger.machine.memory.rowCount - debugger.scroll))).map
          (debugger.memoryRow terminal) := rfl
  rw [Panel.row, rows, lines, List.getElem?_map]
  split
  next listed =>
    rw [List.getElem?_range' (by omega), Nat.one_mul]
    rfl
  next past =>
    rw [List.getElem?_eq_none (by rw [List.length_range']; omega)]
    rfl

/-! ## Lines -/

/-- What stands in a line inside the border of the memory, on a screen of twenty times as many
columns as the scale. -/
def memoryLine (terminal : Terminal) (scale height row : Nat) : Text :=
  (cellsAt (debugger.drawOn terminal (20 * scale) height) (row + 1) (9 * scale + 1)
    (11 * scale - 2)).text

/-- The line of the report of the memory, without text after the last one. -/
def reportLine (index : Nat) : Text :=
  ((debugger.machine.memory.render debugger.radix).lines[index]?).getD []

omit documented in
private theorem reportLine_eq (index : Nat) : debugger.reportLine index =
    if index < debugger.machine.memory.rowCount then
      Numeral.hex4 (index * 8) ++ [':'] ++
        Memory.fields debugger.radix (debugger.machine.memory.rowWords index)
    else [] := by
  rw [reportLine, Memory.lines_render, List.getElem?_map]
  split
  next listed =>
    rw [List.getElem?_range listed, Option.map_some, Option.getD_some,
      Memory.rowText_eq _ listed, List.append_assoc]
    rfl
  next past =>
    rw [List.getElem?_eq_none (by rw [List.length_range]; omega)]
    rfl

variable {scale height row : Nat} (wide : 0 < scale) (high : 24 ≤ height)
  (inside : row < height - 14)

include wide high inside

/-- A line has what the row of the panel has, cut or filled up to the columns. -/
theorem memoryLine_eq (upright : ((debugger.memoryPanel terminal (height - 12)).row row).Upright) :
    debugger.memoryLine terminal scale height row = Text.fitted (11 * scale - 2)
      ((debugger.memoryPanel terminal (height - 12)).row row).text := by
  have seen := seenAt_memoryPanel documented debugger high wide row
    (by rw [Nat.sub_sub]; exact inside) upright (.inl rfl)
  rw [Nat.zero_add] at seen
  rw [memoryLine, seen, upright.text_fit]

private theorem memoryLine_of_listed
    (listed : debugger.scroll + row < debugger.machine.memory.rowCount) :
    debugger.memoryLine terminal scale height row = Text.fitted (11 * scale - 2)
      (Numeral.hex4 ((debugger.scroll + row) * 8) ++ [':', ' '] ++
        (debugger.machine.memory.rowWords (debugger.scroll + row)).flatMap fun word =>
          word.format debugger.radix ++ [' ']) := by
  have shown := debugger.row_memoryPanel terminal inside
  rw [if_pos listed] at shown
  have upright := debugger.upright_memoryRow documented (debugger.scroll + row)
  rw [debugger.memoryLine_eq documented wide high inside (shown ▸ upright), shown,
    debugger.text_memoryRow documented]

private theorem memoryLine_of_past
    (past : debugger.machine.memory.rowCount ≤ debugger.scroll + row) :
    debugger.memoryLine terminal scale height row = List.replicate (11 * scale - 2) ' ' := by
  have shown := debugger.row_memoryPanel terminal inside
  rw [if_neg (Nat.not_lt.mpr past)] at shown
  have upright : Row.Upright [] := nofun
  rw [debugger.memoryLine_eq documented wide high inside (shown ▸ upright), shown]
  exact Text.fitted_nil _

/-- A line agrees with the report exactly if every word that begins in view fills its field. -/
theorem memoryLine_eq_iff (listed : debugger.scroll + row < debugger.machine.memory.rowCount) :
    debugger.memoryLine terminal scale height row =
        Text.fitted (11 * scale - 2) (debugger.reportLine (debugger.scroll + row)) ↔
      ∀ position < 8, ∀ word,
        debugger.machine.memory.cells[(debugger.scroll + row) * 8 + position]? = some word →
        (Numeral.hex4 ((debugger.scroll + row) * 8)).length + 2 +
          position * (debugger.radix.width + 1) < 11 * scale - 2 →
        (word.format debugger.radix).length = debugger.radix.width := by
  have unpadded : Numeral.hex4 ((debugger.scroll + row) * 8) ++ [':', ' '] ++
      ((debugger.machine.memory.rowWords (debugger.scroll + row)).flatMap fun word =>
        word.format debugger.radix ++ [' ']) =
      (Numeral.hex4 ((debugger.scroll + row) * 8) ++ [':']) ++ Memory.unpadded debugger.radix
        (debugger.machine.memory.rowWords (debugger.scroll + row)) ++ [' '] := by
    rw [List.append_assoc (Numeral.hex4 _ ++ [':']), Memory.unpadded_concat_blank]
    simp
  have within := debugger.machine.memory.length_rowWords (debugger.scroll + row)
  rw [debugger.memoryLine_of_listed documented wide high inside listed, unpadded,
    Text.fitted_concat_blank, debugger.reportLine_eq, if_pos listed, Text.fitted_append_left_iff,
    Memory.fitted_unpadded_eq_iff, List.length_append, List.length_singleton]
  constructor
  · intro each position below word found room
    rw [← Memory.getElem?_rowWords _ _ below] at found
    exact each position word found (by omega)
  · intro each position word found room
    have below : position < 8 := by
      have given := (List.getElem?_eq_some_iff.mp found).1
      omega
    rw [Memory.getElem?_rowWords _ _ below] at found
    exact each position below word found (by omega)

/-- Where all words fill their fields, as in every base but decimal, the line is that of the
report. -/
theorem memoryLine_of_ne_decimal (raw : debugger.radix ≠ .decimal) :
    debugger.memoryLine terminal scale height row =
      Text.fitted (11 * scale - 2) (debugger.reportLine (debugger.scroll + row)) := by
  by_cases listed : debugger.scroll + row < debugger.machine.memory.rowCount
  · rw [debugger.memoryLine_eq_iff documented wide high inside listed]
    exact fun _ _ word _ _ => word.length_format_of_ne_decimal raw
  · rw [debugger.memoryLine_of_past documented wide high inside (Nat.not_lt.mp listed),
      debugger.reportLine_eq, if_neg listed, Text.fitted_nil]

end

/-! ## What the panel shows -/

/-- On a documented terminal a line has the address and the words of its row, each as it is printed
without padding, and is blank after the last row. In every base but decimal it is the line of the
report, cut to the panel; in decimal it is only where every word that begins in view has a sign and
five digits. -/
theorem memory_is_shown_without_padding {terminal : Terminal} (documented : terminal.Documented)
    (debugger : Debugger) {scale height row : Nat} (wide : 0 < scale) (high : 24 ≤ height)
    (inside : row < height - 14) :
    (debugger.machine.memory.rowCount ≤ debugger.scroll + row →
      debugger.memoryLine terminal scale height row = List.replicate (11 * scale - 2) ' ') ∧
    (debugger.scroll + row < debugger.machine.memory.rowCount →
      debugger.memoryLine terminal scale height row = Text.fitted (11 * scale - 2)
        (Numeral.hex4 ((debugger.scroll + row) * 8) ++ [':', ' '] ++
          (debugger.machine.memory.rowWords (debugger.scroll + row)).flatMap fun word =>
            word.format debugger.radix ++ [' '])) ∧
    (debugger.radix ≠ .decimal →
      debugger.memoryLine terminal scale height row =
        Text.fitted (11 * scale - 2) (debugger.reportLine (debugger.scroll + row))) ∧
    (debugger.radix = .decimal →
      debugger.scroll + row < debugger.machine.memory.rowCount →
      (debugger.memoryLine terminal scale height row =
          Text.fitted (11 * scale - 2) (debugger.reportLine (debugger.scroll + row)) ↔
        ∀ position < 8, ∀ word,
          debugger.machine.memory.cells[(debugger.scroll + row) * 8 + position]? = some word →
          (Numeral.hex4 ((debugger.scroll + row) * 8)).length + 2 + position * 7 < 11 * scale - 2 →
          word.toInt ≤ -10000)) := by
  refine ⟨debugger.memoryLine_of_past documented wide high inside,
    debugger.memoryLine_of_listed documented wide high inside,
    debugger.memoryLine_of_ne_decimal documented wide high inside, ?_⟩
  intro decimal listed
  rw [debugger.memoryLine_eq_iff documented wide high inside listed, decimal]
  simp only [Word.length_format_decimal_iff]
  rfl

/-- The image of two numbers, of which only the first fills a field. -/
def numbers : List UInt8 := [0x80, 0x00, 0x00, 0x07]

/-- On a screen of twenty columns only the first number begins in view, on one of forty the second
does too. -/
theorem numbers_are_shown : ∃ new, ofProgram ⟨4, none, .decimal⟩ numbers = .ok new ∧
    new.memoryLine .standard 1 24 0 = Text.fitted 9 (new.reportLine 0) ∧
    new.memoryLine .standard 2 24 0 ≠ Text.fitted 20 (new.reportLine 0) ∧
    new.memoryLine .standard 2 24 1 = List.replicate 20 ' ' := by
  obtain ⟨new, made⟩ : ∃ new, ofProgram ⟨4, none, .decimal⟩ numbers = .ok new := ⟨_, rfl⟩
  obtain ⟨-, -, -, narrow⟩ := memory_is_shown_without_padding Terminal.documented_standard new
    (show 0 < 1 by decide) (Nat.le_refl 24) (show 0 < 24 - 14 by decide)
  obtain ⟨-, -, -, wide⟩ := memory_is_shown_without_padding Terminal.documented_standard new
    (show 0 < 2 by decide) (Nat.le_refl 24) (show 0 < 24 - 14 by decide)
  obtain ⟨past, -⟩ := memory_is_shown_without_padding Terminal.documented_standard new
    (show 0 < 2 by decide) (Nat.le_refl 24) (show 1 < 24 - 14 by decide)
  cases made
  refine ⟨_, rfl, (narrow rfl (by decide)).mpr ?_, fun same => ?_, past (by decide)⟩
  · intro position below word found room
    have first : position = 0 := by
      have short : 4 ≤ (Numeral.hex4 0).length := by decide
      omega
    subst first
    cases found
    decide
  · have second := (wide rfl (by decide)).mp same 1 (by decide) _ rfl (by decide)
    exact absurd second (by decide)

/-- In decimal the words after the first one do not stand below the columns of the report. -/
theorem numbers_are_not_aligned : ∃ new, ofProgram ⟨64, none, .decimal⟩ numbers = .ok new ∧
    new.memoryLine .standard 4 24 0 ≠ Text.fitted 42 (new.reportLine (new.scroll + 0)) := by
  refine ⟨_, rfl, fun same => ?_⟩
  have each := (memoryLine_eq_iff _ Terminal.documented_standard (by decide) (by decide)
    (by decide) (by decide)).mp same
  have second := each 1 (by decide) _ rfl (by decide)
  exact absurd second (by decide)

end Debugger

end WordMachine
