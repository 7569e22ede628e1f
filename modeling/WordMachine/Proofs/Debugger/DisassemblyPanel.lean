import WordMachine.Proofs.Debugger.Panels
import WordMachine.Proofs.Debugger.Scrolling
import WordMachine.Proofs.Upright

/-! The panel of the disassembly. Its rows stand for addresses in a row around the program counter,
and its marks tell the program counter and the breakpoints from all other addresses in view. -/

set_option autoImplicit false

namespace WordMachine.Debugger

open Numeral (WritesHex writesHex_padded)
open Screen
open Text (Upright upright_of_ascii)

/-! ## The disassembly -/

section

variable (debugger : Debugger) (count : Nat)

/-- Each line stands for the address that is as far from the first one as the line is. -/
theorem getElem?_disassembly (index : Nat) :
    (debugger.disassembly count)[index]? =
      if index < count then
        (debugger.machine.memory.cells[debugger.programCounter - count / 2 + index]?).map
          fun word => ⟨debugger.programCounter - count / 2 + index, Listing.line word,
            debugger.programCounter - count / 2 + index = debugger.programCounter⟩
      else none := by
  simp only [disassembly, List.getElem?_map, List.getElem?_zipIdx, Array.toList_extract,
    List.extract_eq_take_drop, Nat.add_sub_cancel_left, List.getElem?_take, List.getElem?_drop]
  split
  next =>
    rw [Option.map_map, Array.getElem?_toList]
    rfl
  next => rfl

private theorem length_disassembly :
    (debugger.disassembly count).length =
      min count (debugger.machine.memory.capacity - (debugger.programCounter - count / 2)) := by
  simp [disassembly, Memory.capacity]

end

/-- A line has the address and the text of a word, and tells whether the word is the next
instruction. -/
theorem line_of_getElem?_disassembly {debugger : Debugger} {count index : Nat}
    {line : DisassembledLine} (found : (debugger.disassembly count)[index]? = some line) :
    line.address = debugger.programCounter - count / 2 + index ∧
      (∃ word, debugger.machine.memory.cells[line.address]? = some word ∧
        line.text = Listing.line word) ∧
      (line.current = true ↔ line.address = debugger.programCounter) := by
  rw [getElem?_disassembly] at found
  split at found
  next =>
    obtain ⟨word, listed, rfl⟩ := Option.map_eq_some_iff.mp found
    exact ⟨rfl, ⟨word, listed, rfl⟩, decide_eq_true_iff⟩
  next => cases found

/-- The program counter is in the memory and the lines reach it. -/
theorem programCounter_in_view {debugger : Debugger}
    (wellFormed : debugger.machine.memory.WellFormed) {count : Nat} (positive : 1 ≤ count) :
    debugger.programCounter < debugger.machine.memory.capacity ∧
      debugger.programCounter - (debugger.programCounter - count / 2) < count := by
  have below := debugger.machine.memory.programCounter.value_lt
  rw [wellFormed.program_capacity] at below
  refine ⟨below, ?_⟩
  omega

/-- One of the lines is that of the program counter. -/
theorem exists_current_disassembly {debugger : Debugger}
    (wellFormed : debugger.machine.memory.WellFormed) {count : Nat} (positive : 1 ≤ count) :
    ∃! index : Nat, ∃ line, (debugger.disassembly count)[index]? = some line ∧
      line.address = debugger.programCounter := by
  obtain ⟨below, reached⟩ := programCounter_in_view wellFormed positive
  have lines := debugger.length_disassembly count
  have inside : debugger.programCounter - (debugger.programCounter - count / 2) <
      (debugger.disassembly count).length := by omega
  refine ⟨_, ⟨_, List.getElem?_eq_getElem inside, ?_⟩, ?_⟩
  · obtain ⟨address, -⟩ := line_of_getElem?_disassembly (List.getElem?_eq_getElem inside)
    omega
  · rintro index ⟨line, found, here⟩
    obtain ⟨address, -⟩ := line_of_getElem?_disassembly found
    omega

/-! ## Rows -/

/-- The address that a row stands for. Half of the rows, rounded down, come before the program
counter, or fewer if there are fewer addresses. -/
def addressAt (debugger : Debugger) (height row : Nat) : Nat :=
  debugger.programCounter - (height - 14) / 2 + row

/-- The program counter is in view, in one row. -/
theorem exists_current_row {debugger : Debugger} (wellFormed : debugger.machine.memory.WellFormed)
    {height : Nat} (high : 24 ≤ height) :
    ∃ current < height - 14, ∀ row,
      debugger.addressAt height row = debugger.programCounter ↔ row = current := by
  obtain ⟨-, reached⟩ := programCounter_in_view wellFormed (show 1 ≤ height - 14 by omega)
  refine ⟨_, reached, fun row => ?_⟩
  rw [addressAt]
  omega

/-- What is seen inside the border of the disassembly, on a screen of twenty times as many columns
as the scale. -/
def disassemblyRow (debugger : Debugger) (terminal : Terminal) (scale height row : Nat) : Row :=
  cellsAt (debugger.drawOn terminal (20 * scale) height) (row + 1) 1 (9 * scale - 2)

/-- The row has the line of an address, with two marks before it and cut to the columns. -/
def ShowsLine (columns address : Nat) (word : Word) (row : Row) : Prop :=
  ∃ bullet ∈ ['●', ' '], ∃ arrow ∈ ['▶', ' '], ∃ place, WritesHex 4 address place ∧
    row.text = Text.fitted columns
      ([bullet, ' ', arrow, ' '] ++ place ++ [':', ' '] ++ Listing.line word)

/-- A bullet stands in the first column. -/
def HasBullet (row : Row) : Prop := row.text[0]? = some '●'

/-- An arrow stands in the third column. -/
def HasArrow (row : Row) : Prop := row.text[2]? = some '▶'

/-- The row is in one style. -/
def InStyle (style : Style) (row : Row) : Prop := row ≠ [] ∧ ∀ cell ∈ row, cell.style = style

private theorem inStyle_iff {style other : Style} {row : Row} (inStyle : InStyle style row) :
    InStyle other row ↔ style = other := by
  constructor
  · intro inOther
    obtain ⟨cell, member⟩ := List.exists_mem_of_ne_nil row inStyle.1
    exact (inStyle.2 cell member).symm.trans (inOther.2 cell member)
  · intro same
    exact same ▸ inStyle

section

variable (debugger : Debugger)

/-- Being the next instruction outranks being a breakpoint. -/
theorem lineStyle_eq_current_iff (line : DisassembledLine) :
    debugger.lineStyle line = ⟨.yellow, true⟩ ↔ line.current = true := by
  rw [lineStyle]
  split
  next current => exact iff_of_true rfl current
  next other => split <;> simp [other, Style.ofColor, Style.plain]

private theorem lineStyle_eq_breakpoint_iff (line : DisassembledLine) :
    debugger.lineStyle line = .ofColor .red ↔
      debugger.isBreakpoint line.address = true ∧ ¬line.current = true := by
  rw [lineStyle]
  split
  next current => simp [current, Style.ofColor]
  next other =>
    split
    next breakpoint => exact iff_of_true rfl ⟨breakpoint, other⟩
    next unmarked => simp [unmarked, Style.ofColor, Style.plain]

/-- The line for the word at an address. -/
def lineOf (address : Nat) (word : Word) : DisassembledLine :=
  ⟨address, Listing.line word, address = debugger.programCounter⟩

private theorem upright_lineText (address : Nat) (word : Word) :
    ∀ char ∈ debugger.lineText (debugger.lineOf address word), Upright char := by
  have bullet : Upright '●' := ⟨.inl (by decide +kernel), by decide +kernel⟩
  have arrow : Upright '▶' := ⟨.inr (by decide +kernel), by decide +kernel⟩
  have space : Upright ' ' := upright_of_ascii (by decide) (by decide)
  have colon : Upright ':' := upright_of_ascii (by decide) (by decide)
  have marks (first second : Bool) : ∀ char ∈ [if first then '●' else ' ', ' ',
      if second then '▶' else ' ', ' '], Upright char := by
    cases first <;> cases second <;> simp [bullet, arrow, space]
  intro char member
  simp only [lineText, lineOf, List.mem_append] at member
  rcases member with ((mark | digit) | between) | text
  · exact marks _ _ char mark
  · exact Numeral.upright_hex4 address char digit
  · simp only [List.mem_cons, List.not_mem_nil, or_false] at between
    rcases between with rfl | rfl
    · exact colon
    · exact space
  · exact Listing.upright_line word char text

variable {terminal : Terminal} (documented : terminal.Documented)

include documented

private theorem lineRow_eq (width address : Nat) (word : Word) :
    debugger.lineRow terminal width (debugger.lineOf address word) =
      (Text.fitted width (debugger.lineText (debugger.lineOf address word))).map
        (Cell.of (debugger.lineStyle (debugger.lineOf address word))) :=
  documented.item _ width (debugger.upright_lineText address word)

private theorem upright_lineRow (width address : Nat) (word : Word) :
    (debugger.lineRow terminal width (debugger.lineOf address word)).Upright := by
  rw [debugger.lineRow_eq documented]
  exact Row.upright_map _ (Text.upright_fitted width (debugger.upright_lineText address word))

/-- A line has the width of the panel already, so the panel changes nothing in it. -/
theorem fit_lineRow (width address : Nat) (word : Word) :
    (debugger.lineRow terminal width (debugger.lineOf address word)).fit width .plain =
      debugger.lineRow terminal width (debugger.lineOf address word) := by
  have full : (debugger.lineRow terminal width (debugger.lineOf address word)).length = width := by
    rw [debugger.lineRow_eq documented, List.length_map, Text.length_fitted]
  have whole := (debugger.upright_lineRow documented width address word).fit_of_full
  rwa [full] at whole

private theorem inStyle_lineRow {width : Nat} (wide : 0 < width) (address : Nat) (word : Word) :
    InStyle (debugger.lineStyle (debugger.lineOf address word))
      (debugger.lineRow terminal width (debugger.lineOf address word)) := by
  rw [debugger.lineRow_eq documented]
  constructor
  · apply List.ne_nil_of_length_pos
    rw [List.length_map, Text.length_fitted]
    exact wide
  · intro cell member
    obtain ⟨char, -, rfl⟩ := List.mem_map.mp member
    rfl

omit documented in
private theorem rows_disassemblyPanel (width height : Nat) :
    (debugger.disassemblyPanel terminal width (height - 12)).rows =
      (debugger.disassembly (height - 14)).map (debugger.lineRow terminal (width - 2)) := by
  have lines : withinBorder (height - 12) = height - 14 := by rw [withinBorder, Nat.sub_sub]
  have rows : (debugger.disassemblyPanel terminal width (height - 12)).rows =
      (debugger.disassembly (withinBorder (height - 12))).map
        (debugger.lineRow terminal (withinBorder width)) := rfl
  rw [rows, lines, withinBorder]

variable {scale height row : Nat} (wide : 0 < scale) (high : 24 ≤ height)
  (inside : row < height - 14)

include wide high inside

/-- A row shows the word at its address; after the last word it is blank. -/
theorem disassemblyRow_eq :
    debugger.disassemblyRow terminal scale height row =
      (debugger.machine.memory.cells[debugger.addressAt height row]?).elim
        (Row.blank (9 * scale - 2) .plain)
        fun word => debugger.lineRow terminal (9 * scale - 2)
          (debugger.lineOf (debugger.addressAt height row) word) := by
  have rows : (debugger.disassemblyPanel terminal (9 * scale) (height - 12)).row row =
      ((debugger.machine.memory.cells[debugger.addressAt height row]?).map
        fun word => debugger.lineRow terminal (9 * scale - 2)
          (debugger.lineOf (debugger.addressAt height row) word)).getD [] := by
    have lines := debugger.getElem?_disassembly (height - 14) row
    rw [if_pos inside] at lines
    rw [Panel.row, rows_disassemblyPanel, List.getElem?_map, lines, Option.map_map]
    rfl
  have seen := seenAt_disassemblyPanel documented debugger high wide row
    (by rw [Nat.sub_sub]; exact inside)
  rw [Nat.zero_add, Nat.zero_add] at seen
  cases found : debugger.machine.memory.cells[debugger.addressAt height row]? with
  | none =>
    rw [found, Option.map_none, Option.getD_none] at rows
    rw [rows] at seen
    exact seen (List.forall_mem_nil _) (.inl rfl)
  | some word =>
    rw [found, Option.map_some, Option.getD_some] at rows
    rw [rows] at seen
    rw [disassemblyRow, seen (debugger.upright_lineRow documented _ _ word) (.inl rfl)]
    exact debugger.fit_lineRow documented _ _ word

/-- A row with a word has the line's text. -/
theorem text_disassemblyRow_of_some {word : Word}
    (found : debugger.machine.memory.cells[debugger.addressAt height row]? = some word) :
    (debugger.disassemblyRow terminal scale height row).text = Text.fitted (9 * scale - 2)
      (debugger.lineText (debugger.lineOf (debugger.addressAt height row) word)) := by
  rw [debugger.disassemblyRow_eq documented wide high inside, found]
  rw [Option.elim_some, debugger.lineRow_eq documented, Row.text_map]

private theorem text_disassemblyRow_of_none
    (ended : debugger.machine.memory.cells[debugger.addressAt height row]? = none) :
    (debugger.disassemblyRow terminal scale height row).text =
      List.replicate (9 * scale - 2) ' ' := by
  rw [debugger.disassemblyRow_eq documented wide high inside, ended]
  exact Row.text_blank _ _

private theorem hasBullet_iff : HasBullet (debugger.disassemblyRow terminal scale height row) ↔
    debugger.addressAt height row < debugger.machine.memory.capacity ∧
      debugger.addressAt height row ∈ debugger.breakpoints := by
  cases found : debugger.machine.memory.cells[debugger.addressAt height row]? with
  | none =>
    have ended := Array.getElem?_eq_none_iff.mp found
    rw [HasBullet, debugger.text_disassemblyRow_of_none documented wide high inside found,
      List.getElem?_replicate, if_pos (by omega), Memory.capacity]
    constructor
    · intro same
      cases same
    · intro listed
      omega
  | some word =>
    have given := (Array.getElem?_eq_some_iff.mp found).1
    rw [HasBullet, debugger.text_disassemblyRow_of_some documented wide high inside found,
      Text.getElem?_fitted _ (by omega)]
    have bullet : (debugger.lineText (debugger.lineOf (debugger.addressAt height row) word))[0]? =
      some (if debugger.isBreakpoint (debugger.addressAt height row) then '●' else ' ') := rfl
    rw [bullet, isBreakpoint]
    by_cases listed : debugger.addressAt height row ∈ debugger.breakpoints
    · simp [listed, Memory.capacity, given]
    · simp [listed]

/-- A row with a word shows the line of its address. -/
theorem showsLine_disassemblyRow {word : Word}
    (found : debugger.machine.memory.cells[debugger.addressAt height row]? = some word) :
    ShowsLine (9 * scale - 2) (debugger.addressAt height row) word
      (debugger.disassemblyRow terminal scale height row) :=
  ⟨_, by split <;> simp, _, by split <;> simp, _, writesHex_padded 4 _,
    debugger.text_disassemblyRow_of_some documented wide high inside found⟩

/-- Every row is in the style of its address. -/
theorem inStyle_disassemblyRow :
    InStyle ((debugger.machine.memory.cells[debugger.addressAt height row]?).elim .plain
        fun word => debugger.lineStyle (debugger.lineOf (debugger.addressAt height row) word))
      (debugger.disassemblyRow terminal scale height row) := by
  rw [debugger.disassemblyRow_eq documented wide high inside]
  cases debugger.machine.memory.cells[debugger.addressAt height row]? with
  | none =>
    refine ⟨List.ne_nil_of_length_pos ?_, fun cell member => ?_⟩
    · rw [Option.elim_none, Row.length_blank]
      omega
    · rw [List.eq_of_mem_replicate member]
      rfl
  | some word => exact debugger.inStyle_lineRow documented (by omega) _ word

private theorem inStyle_breakpoint_iff :
    InStyle (.ofColor .red) (debugger.disassemblyRow terminal scale height row) ↔
      debugger.addressAt height row < debugger.machine.memory.capacity ∧
        debugger.addressAt height row ∈ debugger.breakpoints ∧
        debugger.addressAt height row ≠ debugger.programCounter := by
  rw [inStyle_iff (debugger.inStyle_disassemblyRow documented wide high inside)]
  cases found : debugger.machine.memory.cells[debugger.addressAt height row]? with
  | none =>
    have ended := Array.getElem?_eq_none_iff.mp found
    refine iff_of_false (show Style.plain ≠ .ofColor .red by decide) fun listed => ?_
    rw [Memory.capacity] at listed
    omega
  | some word =>
    have given : debugger.addressAt height row < debugger.machine.memory.capacity :=
      (Array.getElem?_eq_some_iff.mp found).1
    simp [lineStyle_eq_breakpoint_iff, lineOf, isBreakpoint, given]

variable (below : debugger.programCounter < debugger.machine.memory.capacity)

include below

/-- The program counter is in the memory, so that no row after the last word has an arrow. -/
theorem hasArrow_iff : HasArrow (debugger.disassemblyRow terminal scale height row) ↔
    debugger.addressAt height row = debugger.programCounter := by
  cases found : debugger.machine.memory.cells[debugger.addressAt height row]? with
  | none =>
    have ended := Array.getElem?_eq_none_iff.mp found
    rw [Memory.capacity] at below
    rw [HasArrow, debugger.text_disassemblyRow_of_none documented wide high inside found,
      List.getElem?_replicate, if_pos (by omega)]
    constructor
    · intro same
      cases same
    · intro here
      omega
  | some word =>
    rw [HasArrow, debugger.text_disassemblyRow_of_some documented wide high inside found,
      Text.getElem?_fitted _ (by omega)]
    have arrow : (debugger.lineText (debugger.lineOf (debugger.addressAt height row) word))[2]? =
      some (if decide (debugger.addressAt height row = debugger.programCounter) then '▶'
        else ' ') := rfl
    rw [arrow]
    by_cases here : debugger.addressAt height row = debugger.programCounter
    · simp [here]
    · simp [here]

private theorem inStyle_current_iff :
    InStyle ⟨.yellow, true⟩ (debugger.disassemblyRow terminal scale height row) ↔
      debugger.addressAt height row = debugger.programCounter := by
  rw [inStyle_iff (debugger.inStyle_disassemblyRow documented wide high inside)]
  cases found : debugger.machine.memory.cells[debugger.addressAt height row]? with
  | none =>
    have ended := Array.getElem?_eq_none_iff.mp found
    rw [Memory.capacity] at below
    exact iff_of_false (show Style.plain ≠ ⟨.yellow, true⟩ by decide) (by omega)
  | some word => simp [lineStyle_eq_current_iff, lineOf]

end

/-! ## What the panel shows -/

/-- On a documented terminal the rows stand for addresses in a row, up to the last word. One of them
has the marks of the program counter and no other has; the bullets are at the breakpoints in view,
and those that are not at the program counter are red. The lines hold the program counter for any
number of them. -/
theorem disassembly_shows_the_machine {terminal : Terminal} (documented : terminal.Documented)
    {debugger : Debugger} {scale height : Nat}
    (wide : 0 < scale) (high : 24 ≤ height)
    (wellFormed : debugger.machine.memory.WellFormed) :
    (∀ row < height - 14,
      match debugger.machine.memory.cells[debugger.addressAt height row]? with
      | some word =>
        ShowsLine (9 * scale - 2) (debugger.addressAt height row) word
          (debugger.disassemblyRow terminal scale height row)
      | none =>
        (debugger.disassemblyRow terminal scale height row).text =
          List.replicate (9 * scale - 2) ' ') ∧
    (∃ current < height - 14,
      debugger.addressAt height current = debugger.programCounter ∧
      ∀ row < height - 14,
        (HasArrow (debugger.disassemblyRow terminal scale height row) ↔ row = current) ∧
        (InStyle ⟨.yellow, true⟩ (debugger.disassemblyRow terminal scale height row) ↔
          row = current)) ∧
    (∀ row < height - 14,
      (HasBullet (debugger.disassemblyRow terminal scale height row) ↔
        debugger.addressAt height row < debugger.machine.memory.capacity ∧
          debugger.addressAt height row ∈ debugger.breakpoints) ∧
      (InStyle (.ofColor .red) (debugger.disassemblyRow terminal scale height row) ↔
        debugger.addressAt height row < debugger.machine.memory.capacity ∧
          debugger.addressAt height row ∈ debugger.breakpoints ∧
          debugger.addressAt height row ≠ debugger.programCounter) ∧
      ∃ style, InStyle style (debugger.disassemblyRow terminal scale height row)) ∧
    ∀ count, 1 ≤ count →
      (debugger.disassembly count).length =
        min count (debugger.machine.memory.capacity - (debugger.programCounter - count / 2)) ∧
      (∀ index line, (debugger.disassembly count)[index]? = some line →
        line.address = debugger.programCounter - count / 2 + index ∧
        (∃ word, debugger.machine.memory.cells[line.address]? = some word ∧
          line.text = Listing.line word) ∧
        (line.current = true ↔ line.address = debugger.programCounter)) ∧
      ∃! index : Nat, ∃ line, (debugger.disassembly count)[index]? = some line ∧
        line.address = debugger.programCounter := by
  refine ⟨?_, ?_, ?_, ?_⟩
  · intro row inside
    cases found : debugger.machine.memory.cells[debugger.addressAt height row]? with
    | none => exact debugger.text_disassemblyRow_of_none documented wide high inside found
    | some word => exact debugger.showsLine_disassemblyRow documented wide high inside found
  · obtain ⟨below, -⟩ := programCounter_in_view wellFormed (Nat.le_refl 1)
    obtain ⟨current, reached, unique⟩ := exists_current_row wellFormed high
    refine ⟨current, reached, (unique current).mpr rfl, fun row inside => ?_⟩
    rw [debugger.hasArrow_iff documented wide high inside below,
      debugger.inStyle_current_iff documented wide high inside below]
    exact ⟨unique row, unique row⟩
  · intro row inside
    exact ⟨debugger.hasBullet_iff documented wide high inside,
      debugger.inStyle_breakpoint_iff documented wide high inside, _,
      debugger.inStyle_disassemblyRow documented wide high inside⟩
  · intro count positive
    exact ⟨debugger.length_disassembly count, fun _ _ => line_of_getElem?_disassembly,
      exists_current_disassembly wellFormed positive⟩

/-- The image of a program that loads two numbers. -/
def loading : List UInt8 := [0x05, 0x1A, 0x07, 0x2A]

/-- After a step away from a breakpoint the next row is the current one. -/
theorem loading_is_disassembled : ∃ new, ofProgram ⟨64, none, .decimal⟩ loading = .ok new ∧
    ∀ row < 10,
      let shown := (new.performAll [.toggleBreakpoint, .step]).disassemblyRow .standard 2 24 row
      (HasArrow shown ↔ row = 1) ∧ (HasBullet shown ↔ row = 0) ∧
        (InStyle (.ofColor .red) shown ↔ row = 0) := by
  obtain ⟨new, made⟩ : ∃ new, ofProgram ⟨64, none, .decimal⟩ loading = .ok new := ⟨_, rfl⟩
  obtain ⟨size, sized⟩ := exists_sized_performAll made [.toggleBreakpoint, .step]
  obtain ⟨-, ⟨current, -, here, arrows⟩, marks, -⟩ :=
    disassembly_shows_the_machine Terminal.documented_standard (show 0 < 2 by decide)
      (Nat.le_refl 24) sized.toWellFormed
  have counter : (new.performAll [.toggleBreakpoint, .step]).programCounter = 1 := by
    cases made
    decide
  have breakpoints : (new.performAll [.toggleBreakpoint, .step]).breakpoints = [0] := by
    cases made
    decide
  have capacity : (new.performAll [.toggleBreakpoint, .step]).machine.memory.capacity = 32 := by
    cases made
    decide
  have address (row : Nat) :
      (new.performAll [.toggleBreakpoint, .step]).addressAt 24 row = row := by
    rw [addressAt, counter]
    omega
  rw [address, counter] at here
  subst here
  refine ⟨new, made, fun row inside => ?_⟩
  obtain ⟨bullet, red, -⟩ := marks row inside
  rw [address, breakpoints, capacity, List.mem_singleton] at bullet red
  refine ⟨(arrows row inside).1, bullet.trans ?_, red.trans ?_⟩ <;> omega

end WordMachine.Debugger
