import WordMachine.Proofs.Assembly.Instructions

/-! Statements that are refused because their word would be an exit code, and operands at which the
assembler stops because a number has too many bits. No other step of either pass fails for one of
these reasons. -/

set_option autoImplicit false

namespace WordMachine.Assembly

/-- An operand is a number that has too many bits once its sign is taken. -/
def Statement.Overflows (statement : Statement Text) : Prop :=
  ∃ operand, Takes statement operand ∧ number? operand = .error .overflow

/-- The line with the number carries such a statement. -/
def OverflowsAt (source : Text) (number : Nat) : Prop :=
  ∃ line ∈ numberedLines source, line.2 = number ∧
    ∃ statement, Carries line.1 statement ∧ statement.Overflows

/-- The cause is no exit code, and an overflow only if there is one. -/
def Cause.Plain (overflows : Prop) : Cause → Prop
  | .reservedEncoding _ => False
  | .overflow => overflows
  | _ => True

section

variable {overflows : Prop}

private theorem Cause.plain_iff {cause : Cause} : cause.Plain overflows ↔
    (∀ word, cause ≠ .reservedEncoding word) ∧ (cause = .overflow → overflows) := by
  cases cause <;> simp [Plain]

private theorem labelAddress_plain (symbols : Symbols) (operand : Text) :
    FailsWithin (labelAddress symbols operand) (Cause.Plain overflows) := by
  rw [labelAddress]
  split
  next =>
    cases symbols.address? operand with
    | some address => exact .ok
    | none => exact .error trivial
  next => exact .error trivial

private theorem registerOperand_plain (operand : Text) :
    FailsWithin (registerOperand operand) (Cause.Plain overflows) := by
  rw [registerOperand]
  cases Register.ofName operand with
  | ok register => exact .ok
  | error unknown => exact .error trivial

private theorem parse_plain (text : Text) :
    FailsWithin (Statement.parse text) (Cause.Plain overflows) := by
  unfold Statement.parse
  dsimp only
  cases Directive.ofName? text.splitWord.1 with
  | some directive =>
    dsimp only
    unfold Directive.statement
    split
    next => exact .ok
    next => exact .ok
    next => exact .ok
    next => exact .ok
    next => exact .error trivial
  | none =>
    dsimp only
    cases Opcode.ofMnemonic? text.splitWord.1 with
    | some opcode => exact .ok
    | none => exact .error trivial

private theorem Layout.addLabel_plain (layout : Layout) (label : Text) :
    FailsWithin (layout.addLabel label) (Cause.Plain overflows) := by
  rw [addLabel]
  split
  next =>
    split
    next => exact .ok
    next => exact .error trivial
  next => exact .error trivial

section

variable {operand : Text} (stops : number? operand = .error .overflow → overflows)

include stops

private theorem number?_plain : FailsWithin (number? operand) (Cause.Plain overflows) := by
  intro cause failed
  cases (Program.overflow_of_number? failed).1
  exact stops failed

private theorem numberOr_plain {other : Except Cause Int}
    (rest : FailsWithin other (Cause.Plain overflows)) :
    FailsWithin (numberOr operand other) (Cause.Plain overflows) := by
  apply (number?_plain stops).bind
  intro number? _
  cases number? with
  | some value => exact .ok
  | none => exact rest

private theorem operandValue_plain (symbols : Symbols) :
    FailsWithin (operandValue symbols operand) (Cause.Plain overflows) :=
  numberOr_plain stops (labelAddress_plain symbols operand).map

private theorem originTarget_plain (symbols : Symbols) (address : Nat) :
    FailsWithin (originTarget symbols address operand) (Cause.Plain overflows) := by
  apply (number?_plain stops).bind
  intro number? _
  split
  next => exact .error trivial
  next =>
    apply (operandValue_plain stops symbols).bind
    intro value _
    split
    next => exact .error trivial
    next =>
      split
      next => exact .error trivial
      next => exact .ok

private theorem immediateOperand_plain (symbols : Symbols) (address : Nat) (opcode : Opcode) :
    FailsWithin (immediateOperand symbols address opcode operand) (Cause.Plain overflows) := by
  have value :
      FailsWithin (immediateValue symbols address opcode operand) (Cause.Plain overflows) := by
    apply numberOr_plain stops
    split
    next => exact (labelAddress_plain symbols operand).map
    next => exact .error trivial
  apply value.bind
  intro value _
  split
  next => exact .ok
  next => exact .error trivial

end

end

private theorem instructionOf_plain (symbols : Symbols) (address : Nat) (opcode : Opcode)
    (operands : List Text) :
    FailsWithin (instructionOf symbols address opcode operands)
      (Cause.Plain (Statement.instruction opcode operands).Overflows) := by
  have selects : ∀ first second third,
      FailsWithin (registerOperand first >>= fun r1 => registerOperand second >>= fun r2 =>
        registerOperand third >>= fun r3 =>
          (.ok (Instruction.ofRegisters opcode r1 r2 r3) : Except Cause Instruction))
        (Cause.Plain (Statement.instruction opcode operands).Overflows) := by
    intro first second third
    apply (registerOperand_plain first).bind
    intro r1 _
    apply (registerOperand_plain second).bind
    intro r2 _
    exact (registerOperand_plain third).bind fun r3 _ => .ok
  unfold instructionOf
  cases form : opcode.form with
  | registers =>
    dsimp only
    split
    next => exact selects _ _ _
    next => exact selects _ _ _
    next => exact .error trivial
  | immediate =>
    dsimp only
    split
    next register immediate =>
      have stops : number? immediate = .error .overflow →
          (Statement.instruction opcode [register, immediate]).Overflows :=
        fun overflow => ⟨immediate, .immediate form, overflow⟩
      apply (registerOperand_plain register).bind
      intro selected _
      exact (immediateOperand_plain stops symbols address opcode).bind fun word _ => .ok
    next => exact .error trivial

/-! ## The first pass -/

private theorem Layout.locate_plain (layout : Layout) (statement : Statement Text) :
    FailsWithin (layout.locate statement) (Cause.Plain statement.Overflows) := by
  cases statement with
  | instruction | data | halt | exit => exact .ok
  | origin operand =>
    have stops : number? operand = .error .overflow → (Statement.origin operand).Overflows :=
      fun overflow => ⟨operand, .origin, overflow⟩
    exact (originTarget_plain stops layout.symbols layout.address).bind fun target _ => .ok

private theorem Layout.addStatement_plain (layout : Layout) (number : Nat) (text : Text) :
    FailsWithin (layout.addStatement number text) (Cause.Plain
      (∃ statement, Statement.parse text = .ok statement ∧ statement.Overflows)) := by
  rw [addStatement]
  split
  next => exact .ok
  next =>
    apply (parse_plain text).bind
    intro statement read
    refine FailsWithin.bind ((layout.locate_plain statement).mono ?_) fun located _ => .ok
    intro cause plain
    obtain ⟨unreserved, overflow⟩ := Cause.plain_iff.mp plain
    exact Cause.plain_iff.mpr ⟨unreserved, fun same => ⟨statement, read, overflow same⟩⟩

private theorem Layout.addLine_plain (layout : Layout) (line : Text × Nat) :
    FailsWithin (layout.addLine line) fun error => error.line = line.2 ∧ error.cause.Plain
      (∃ statement, Carries line.1 statement ∧ statement.Overflows) := by
  have text : FailsWithin (layout.addText line.2 line.1) (Cause.Plain
      (∃ statement, Carries line.1 statement ∧ statement.Overflows)) := by
    unfold addText Carries statementText
    rcases splitLabel (stripComment line.1) with ⟨label?, rest⟩
    cases label? with
    | none => exact layout.addStatement_plain line.2 rest
    | some label =>
      apply (layout.addLabel_plain label).bind
      intro labelled _
      exact labelled.addStatement_plain line.2 rest
  exact FailsWithin.mapError (text.mono fun _ plain => ⟨rfl, plain⟩)

/-! ## The second pass -/

section

variable {overflows : Prop}

private theorem dataWord_plain (value : Int) :
    FailsWithin (dataWord value) (Cause.Plain overflows) := by
  unfold dataWord
  split
  next => exact .ok
  next => exact .error trivial

private theorem exitWord_plain (value : Int) :
    FailsWithin (exitWord value) (Cause.Plain overflows) := by
  unfold exitWord
  split
  next => exact .ok
  next => exact .error trivial

private theorem push_plain {operand : Text}
    (stops : number? operand = .error .overflow → overflows) (symbols : Symbols)
    (output : Array Word) {word : Int → Except Cause Word}
    (plain : ∀ value, FailsWithin (word value) (Cause.Plain overflows)) :
    FailsWithin (operandValue symbols operand >>= fun value => word value >>= fun word =>
      (.ok (output.push word) : Except Cause (Array Word))) (Cause.Plain overflows) := by
  apply (operandValue_plain stops symbols).bind
  intro value _
  exact (plain value).bind fun word _ => .ok

end

private theorem emit_plain (symbols : Symbols) (output : Array Word) {layout : Layout}
    {written : Statement Text} {statement : Statement Nat} {address : Nat}
    (located : layout.locate written = .ok (statement, address)) :
    FailsWithin (emit symbols output statement) fun cause =>
      (cause = .overflow → written.Overflows) ∧
        ∀ word, cause = .reservedEncoding word → ∃ opcode operands,
          written = .instruction opcode operands ∧ Reserved opcode operands word := by
  have other : ∀ cause : Cause, cause.Plain written.Overflows →
      (cause = .overflow → written.Overflows) ∧
        ∀ word, cause = .reservedEncoding word → ∃ opcode operands,
          written = .instruction opcode operands ∧ Reserved opcode operands word := by
    intro cause plain
    obtain ⟨unreserved, overflow⟩ := Cause.plain_iff.mp plain
    exact ⟨overflow, fun word same => absurd same (unreserved word)⟩
  cases written with
  | origin operand =>
    obtain ⟨target, -, same⟩ := ok_of_bind located
    cases same
    exact .ok
  | halt =>
    cases located
    exact .ok
  | data operand =>
    cases located
    have stops : number? operand = .error .overflow → (Statement.data operand).Overflows :=
      fun overflow => ⟨operand, .data, overflow⟩
    exact (push_plain stops symbols output dataWord_plain).mono other
  | exit operand =>
    cases located
    have stops : number? operand = .error .overflow → (Statement.exit operand).Overflows :=
      fun overflow => ⟨operand, .exit, overflow⟩
    exact (push_plain stops symbols output exitWord_plain).mono other
  | instruction opcode operands =>
    cases located
    apply ((instructionOf_plain symbols output.size opcode operands).mono other).bind
    intro instruction read
    refine FailsWithin.bind ?_ fun word _ => .ok
    intro cause refused
    obtain ⟨found, rfl, reserved⟩ :=
      reserved_instructionWord (denotes_instructionOf read) refused
    refine ⟨nofun, ?_⟩
    intro word same
    cases same
    exact ⟨opcode, operands, rfl, reserved⟩

/-- The assembler stops only at a number with too many bits, and only a statement with reserved
operands is refused because its word would be an exit code. -/
theorem assemble_plain (source : Text) :
    FailsWithin (assemble source) fun error =>
      (error.cause = .overflow → OverflowsAt source error.line) ∧
        ∀ word, error.cause = .reservedEncoding word → ∃ line ∈ numberedLines source,
          line.2 = error.line ∧ ∃ opcode operands,
            Carries line.1 (.instruction opcode operands) ∧ Reserved opcode operands word := by
  refine FailsWithin.bind ?_ fun layout added => FailsWithin.bind ?_ fun words _ => .ok
  · apply FailsWithin.foldlM
    intro line member layout
    refine (layout.addLine_plain line).mono ?_
    rintro error ⟨here, plain⟩
    obtain ⟨unreserved, overflow⟩ := Cause.plain_iff.mp plain
    exact ⟨fun same => ⟨line, member, here.symm, overflow same⟩,
      fun word same => absurd same (unreserved word)⟩
  · rw [Layout.emit, ← Array.foldlM_toList]
    apply FailsWithin.foldlM
    intro placed member output
    apply FailsWithin.mapError
    obtain ⟨line, listed, here, earlier, written, address, carries, located⟩ :=
      Layout.placedFrom_addLines added placed member
    refine (emit_plain layout.symbols output located).mono ?_
    rintro cause ⟨stops, refuses⟩
    refine ⟨fun same => ⟨line, listed, here, written, carries, stops same⟩, ?_⟩
    intro word same
    obtain ⟨opcode, operands, rfl, reserved⟩ := refuses word same
    exact ⟨line, listed, here, opcode, operands, carries, reserved⟩

/-! ## Reports -/

/-- The assembler refuses the source with an error that it reports. -/
structure Reports (source : Text) (error : Error) : Prop where
  refused : assemble source = .error error
  reported : error.cause ≠ .overflow

/-- The assembler neither assembles the source nor reports an error. It stops at a number that has
too many bits, on the line with the number. -/
structure StopsAt (source : Text) (number : Nat) : Prop where
  stopped : assemble source = .error ⟨number, .overflow⟩
  overflows : OverflowsAt source number

theorem stopsAt_of_assemble {source : Text} {number : Nat}
    (stopped : assemble source = .error ⟨number, .overflow⟩) : StopsAt source number :=
  ⟨stopped, (assemble_plain source _ stopped).1 rfl⟩

theorem reports_or_stopsAt {source : Text} {error : Error}
    (failed : assemble source = .error error) :
    Reports source error ∨ StopsAt source error.line := by
  obtain ⟨number, cause⟩ := error
  by_cases overflow : cause = .overflow
  · subst overflow
    exact .inr (stopsAt_of_assemble failed)
  · exact .inl ⟨failed, overflow⟩

theorem StopsAt.not_reports {source : Text} {number : Nat} (stops : StopsAt source number)
    (error : Error) : ¬Reports source error := by
  intro reports
  cases stops.stopped.symm.trans reports.refused
  exact reports.reported rfl

theorem StopsAt.ne_ok {source : Text} {number : Nat} (stops : StopsAt source number)
    (words : List Word) : assemble source ≠ .ok words := by
  intro assembled
  cases stops.stopped.symm.trans assembled

/-- The last line has a minus sign before the least number of 64 bits. -/
def stopping : Text := "halt\n.word -0x-8000000000000000".toList

theorem stopsAt_stopping : StopsAt stopping 2 := stopsAt_of_assemble (by decide +kernel)

end WordMachine.Assembly
