import WordMachine.Assembly
import WordMachine.Proofs.Assembly.Encoding

/-! What a line of a source can do: to the layout in the first pass, and to the words in the second
one. -/

set_option autoImplicit false

namespace WordMachine.Assembly

/-! ## Lines in the first pass -/

def labelOf (line : Text) : Option Text := (splitLabel (stripComment line)).1

def statementText (line : Text) : Text := (splitLabel (stripComment line)).2

def Carries (line : Text) (statement : Statement Text) : Prop :=
  Statement.parse (statementText line) = .ok statement

theorem Carries.ne_nil {line : Text} {statement : Statement Text}
    (carries : Carries line statement) : statementText line ≠ [] := by
  intro empty
  rw [Carries, empty] at carries
  cases carries

theorem Symbols.address?_define_cases {symbols extended : Symbols} {label other : Text}
    {address found : Nat} (defined : symbols.define? label address = some extended)
    (known : extended.address? other = some found) :
    label.upper = other.upper ∨ symbols.address? other = some found := by
  by_cases same : label.upper = other.upper
  · exact .inl same
  · refine .inr ?_
    unfold define? at defined
    split at defined
    · cases defined
    · cases defined
      have different : (other.upper == label.upper) = false := by simpa using Ne.symm same
      simpa [address?, List.lookup_cons, different] using known

private theorem originTarget_ge {symbols : Symbols} {address target : Nat} {operand : Text}
    (found : originTarget symbols address operand = .ok target) : address ≤ target := by
  obtain ⟨number?, -, found⟩ := ok_of_bind found
  split at found
  · cases found
  · obtain ⟨value, -, checked⟩ := ok_of_bind found
    split at checked
    · cases checked
    · split at checked
      · cases checked
      · cases checked
        omega

namespace Layout

inductive AddsLabel (layout : Layout) (line : Text) : Layout → Prop where
  | nothing : labelOf line = none → AddsLabel layout line layout
  | label {name : Text} {symbols : Symbols} :
      labelOf line = some name → layout.symbols.define? name layout.address = some symbols →
      AddsLabel layout line { layout with symbols }

inductive AddsStatement (layout : Layout) (line : Text) (number : Nat) : Layout → Prop where
  | nothing : statementText line = [] → AddsStatement layout line number layout
  | statement {statement : Statement Text} {placed : Statement Nat} {address : Nat} :
      Carries line statement → layout.locate statement = .ok (placed, address) →
      AddsStatement layout line number
        { layout with address, placed := layout.placed.push ⟨number, placed⟩ }

private theorem addsLabel_addLabel {layout labelled : Layout} {line name : Text}
    (marked : labelOf line = some name) (added : layout.addLabel name = .ok labelled) :
    layout.AddsLabel line labelled := by
  unfold addLabel at added
  split at added
  · split at added
    next defined =>
      cases added
      exact .label marked defined
    next => cases added
  · cases added

private theorem addsStatement_addStatement {layout later : Layout} {line : Text} {number : Nat}
    (added : layout.addStatement number (statementText line) = .ok later) :
    layout.AddsStatement line number later := by
  unfold addStatement at added
  split at added
  next empty =>
    cases added
    exact .nothing (List.isEmpty_iff.mp empty)
  next =>
    obtain ⟨statement, parsed, added⟩ := ok_of_bind added
    obtain ⟨⟨placed, address⟩, located, added⟩ := ok_of_bind added
    cases added
    exact .statement parsed located

theorem addLine_cases {layout later : Layout} {line : Text × Nat}
    (added : layout.addLine line = .ok later) :
    ∃ labelled, layout.AddsLabel line.1 labelled ∧ labelled.AddsStatement line.1 line.2 later := by
  have parts : splitLabel (stripComment line.1) = (labelOf line.1, statementText line.1) := rfl
  have added : layout.addText line.2 line.1 = .ok later := ok_of_mapError added
  rw [addText, parts] at added
  cases marked : labelOf line.1 with
  | none =>
    rw [marked] at added
    exact ⟨layout, .nothing marked, addsStatement_addStatement added⟩
  | some name =>
    rw [marked] at added
    obtain ⟨labelled, named, added⟩ := ok_of_bind added
    exact ⟨labelled, addsLabel_addLabel marked named, addsStatement_addStatement added⟩

end Layout

/-! ## Statements in the second pass -/

/-- What a statement adds to words of a size: an origin zeros, every other statement one word. The
word of a label is its address, and the word of a branch to a label has the distance from itself. -/
def Emits (symbols : Symbols) (size : Nat) : Statement Text → List Word → Prop
  | .origin _, added => ∃ skipped, added = List.replicate skipped Word.zero
  | .halt, added => added = [Word.zero]
  | .exit operand, added => ∃ value word, operandValue symbols operand = .ok value ∧
      exitWord value = .ok word ∧ added = [word]
  | .data operand, added => ∃ value word, operandValue symbols operand = .ok value ∧
      dataWord value = .ok word ∧ added = [word] ∧ (isName operand = true →
        ∃ address, symbols.address? operand = some address ∧ address ≤ 0xFFFF ∧
          word = Word.ofNat address)
  | .instruction opcode operands, added => ∃ instruction word,
      instructionOf symbols size opcode operands = .ok instruction ∧
      instructionWord instruction = .ok word ∧ added = [word] ∧ ∀ register operand,
        opcode = .apceq → operands = [register, operand] → isName operand = true →
        ∃ address, symbols.address? operand = some address ∧
          (Instruction.decode word).opcode = .apceq ∧
          (Instruction.decode word).immediate.toInt = (address : Int) - size

theorem operandValue_of_isName {symbols : Symbols} {operand : Text}
    (named : isName operand = true) :
    operandValue symbols operand = match symbols.address? operand with
      | some address => .ok (address : Int)
      | none => .error (.undefinedLabel operand) := by
  rw [operandValue, Program.numberOr_of_none (Program.number?_of_isName named), labelAddress,
    if_pos named]
  cases symbols.address? operand <;> rfl

private theorem dataWord_of_isName {symbols : Symbols} {operand : Text} {value : Int} {word : Word}
    (named : isName operand = true) (found : operandValue symbols operand = .ok value)
    (fits : dataWord value = .ok word) :
    ∃ address, symbols.address? operand = some address ∧ address ≤ 0xFFFF ∧
      word = Word.ofNat address := by
  obtain ⟨inside, rfl⟩ := (Program.dataWord_succeeds value).sound word fits
  rw [operandValue_of_isName named] at found
  cases known : symbols.address? operand with
  | none =>
    rw [known] at found
    cases found
  | some address =>
    rw [known] at found
    cases found
    exact ⟨address, rfl, by omega, rfl⟩

private theorem immediate_of_branch {symbols : Symbols} {size : Nat} {operand : Text}
    {immediate : Word} (named : isName operand = true)
    (read : immediateOperand symbols size .apceq operand = .ok immediate) :
    ∃ address : Nat, symbols.address? operand = some address ∧
      Instruction.immediateFits ((address : Int) - size) = true ∧
      immediate = Word.ofInt ((address : Int) - size) := by
  rw [immediateOperand, immediateValue,
    Program.numberOr_of_none (Program.number?_of_isName named), if_pos rfl, labelAddress,
    if_pos named] at read
  cases found : symbols.address? operand with
  | none =>
    rw [found] at read
    cases read
  | some address =>
    rw [found] at read
    obtain ⟨value, distance, checked⟩ := ok_of_bind read
    cases distance
    dsimp only at checked
    split at checked
    next fits =>
      cases checked
      exact ⟨address, rfl, fits, rfl⟩
    next => cases checked

theorem toInt_ofInt_of_fits {value : Int} (fits : Instruction.immediateFits value = true) :
    (Word.ofInt value).toInt = value := by
  simp only [Instruction.immediateFits, Bool.and_eq_true, decide_eq_true_eq] at fits
  rw [Word.toInt_ofInt]
  exact Int.bmod_eq_of_le (by omega) (by omega)

private theorem decode_branch {symbols : Symbols} {size : Nat} {register operand : Text}
    {instruction : Instruction} (named : isName operand = true)
    (read : instructionOf symbols size .apceq [register, operand] = .ok instruction) :
    ∃ address, symbols.address? operand = some address ∧
      (Instruction.decode instruction.encode).opcode = .apceq ∧
      (Instruction.decode instruction.encode).immediate.toInt = (address : Int) - size := by
  simp only [instructionOf, Opcode.form] at read
  obtain ⟨register, -, read⟩ := ok_of_bind read
  obtain ⟨immediate, found, read⟩ := ok_of_bind read
  cases read
  obtain ⟨address, known, fits, rfl⟩ := immediate_of_branch named found
  rw [Instruction.decode_encode_ofImmediate rfl register fits]
  exact ⟨address, known, rfl, toInt_ofInt_of_fits fits⟩

theorem toList_emit {layout : Layout} {symbols : Symbols} {statement : Statement Text}
    {placed : Statement Nat} {address : Nat} {output result : Array Word}
    (here : output.size = layout.address)
    (located : layout.locate statement = .ok (placed, address))
    (emitted : emit symbols output placed = .ok result) :
    ∃ added, result.toList = output.toList ++ added ∧ output.size + added.length = address ∧
      Emits symbols output.size statement added := by
  cases statement with
  | origin operand =>
    rw [Layout.locate] at located
    obtain ⟨target, found, located⟩ := ok_of_bind located
    cases located
    cases emitted
    -- The first pass has let no origin go backwards, so resizing cuts nothing off.
    have forward : output.size ≤ address := here ▸ originTarget_ge found
    refine ⟨_, Program.toList_resize forward, ?_, _, rfl⟩
    rw [List.length_replicate]
    omega
  | halt =>
    cases located
    cases emitted
    exact ⟨_, Array.toList_push, congrArg (· + 1) here, rfl⟩
  | exit operand =>
    cases located
    rw [emit] at emitted
    obtain ⟨value, found, emitted⟩ := ok_of_bind emitted
    obtain ⟨word, fits, emitted⟩ := ok_of_bind emitted
    cases emitted
    exact ⟨_, Array.toList_push, congrArg (· + 1) here, value, word, found, fits, rfl⟩
  | data operand =>
    cases located
    rw [emit] at emitted
    obtain ⟨value, found, emitted⟩ := ok_of_bind emitted
    obtain ⟨word, fits, emitted⟩ := ok_of_bind emitted
    cases emitted
    exact ⟨_, Array.toList_push, congrArg (· + 1) here, value, word, found, fits, rfl,
      fun named => dataWord_of_isName named found fits⟩
  | instruction opcode operands =>
    cases located
    rw [emit] at emitted
    obtain ⟨instruction, read, emitted⟩ := ok_of_bind emitted
    obtain ⟨word, encoded, emitted⟩ := ok_of_bind emitted
    cases emitted
    refine ⟨_, Array.toList_push, congrArg (· + 1) here, instruction, word, read, encoded, rfl,
      ?_⟩
    rintro register operand rfl rfl named
    obtain ⟨-, rfl⟩ := (Program.instructionWord_succeeds instruction).sound word encoded
    exact decode_branch named read

end WordMachine.Assembly
