import WordMachine.Proofs.Assembly.Lines
import WordMachine.Proofs.Assembly.Refusals

/-! Text put after a source. Its lines come after the lines of the source and can define labels, but
they cannot move any. So the statements of the source see the addresses that they saw before, and
only a line that was added can be refused or stop the assembler. -/

set_option autoImplicit false

namespace WordMachine.Assembly

/-! ## More labels -/

/-- Every label of the smaller table has its address in the larger one. -/
def Symbols.Extends (larger smaller : Symbols) : Prop :=
  ∀ label address, smaller.address? label = some address → larger.address? label = some address

private theorem numberOr_repeats (operand : Text) {computation other : Except Cause Int}
    (repeats : Repeats computation other) :
    Repeats (numberOr operand computation) (numberOr operand other) := by
  apply (Repeats.refl (number? operand)).bind
  intro number?
  cases number? with
  | some value => exact .refl _
  | none => exact repeats

namespace Symbols.Extends

variable {larger smaller : Symbols}

private theorem labelAddress (wider : larger.Extends smaller) (operand : Text) :
    Repeats (labelAddress larger operand) (labelAddress smaller operand) := by
  intro address found
  obtain ⟨named, known⟩ := labelAddress_eq_ok found
  rw [Assembly.labelAddress, if_pos named, wider operand address known]

private theorem operandValue (wider : larger.Extends smaller) (operand : Text) :
    Repeats (operandValue larger operand) (operandValue smaller operand) :=
  numberOr_repeats operand (wider.labelAddress operand).map

private theorem immediateOperand (wider : larger.Extends smaller) (address : Nat) (opcode : Opcode)
    (operand : Text) : Repeats (immediateOperand larger address opcode operand)
      (immediateOperand smaller address opcode operand) := by
  have value : Repeats (immediateValue larger address opcode operand)
      (immediateValue smaller address opcode operand) := by
    apply numberOr_repeats
    by_cases branch : opcode = .apceq
    · rw [if_pos branch, if_pos branch]
      exact (wider.labelAddress operand).map
    · rw [if_neg branch, if_neg branch]
      exact .refl _
  exact value.bind fun _ => .refl _

private theorem instructionOf (wider : larger.Extends smaller) (address : Nat) (opcode : Opcode)
    (operands : List Text) : Repeats (instructionOf larger address opcode operands)
      (instructionOf smaller address opcode operands) := by
  unfold Assembly.instructionOf
  cases opcode.form with
  | registers => exact .refl _
  | immediate =>
    match operands with
    | [register, immediate] =>
      apply (Repeats.refl (registerOperand register)).bind
      intro register
      exact (wider.immediateOperand address opcode immediate).bind fun _ => .refl _
    | [] | [_] | _ :: _ :: _ :: _ => exact .refl _

private theorem emit (wider : larger.Extends smaller) (output : Array Word)
    (statement : Statement Nat) :
    Repeats (emit larger output statement) (emit smaller output statement) := by
  cases statement with
  | origin | halt => exact .refl _
  | data operand => exact (wider.operandValue operand).bind fun _ => .refl _
  | exit operand => exact (wider.operandValue operand).bind fun _ => .refl _
  | instruction opcode operands =>
    exact (wider.instructionOf output.size opcode operands).bind fun _ => .refl _

private theorem emitWith (wider : larger.Extends smaller) (layout : Layout) :
    Repeats (layout.emitWith larger) (layout.emitWith smaller) := by
  rw [Layout.emitWith, Layout.emitWith, ← Array.foldlM_toList, ← Array.foldlM_toList]
  apply Repeats.foldlM
  intro output placed
  exact (wider.emit output placed.statement).mapError

end Symbols.Extends

private theorem Layout.extends_addLines {layout final : Layout} {lines : List (Text × Nat)}
    (added : layout.addLines lines = .ok final) : final.symbols.Extends layout.symbols :=
  fun _ _ => address?_addLines added

/-! ## More lines -/

/-- The lines come after the number. -/
def After (number : Nat) (lines : List (Text × Nat)) : Prop := ∀ line ∈ lines, number < line.2

private theorem After.addLines {number : Nat} {lines : List (Text × Nat)}
    (after : After number lines) (layout : Layout) :
    FailsWithin (layout.addLines lines) fun error => number < error.line := by
  apply FailsWithin.foldlM
  intro line member layout
  exact FailsWithin.mapError fun _ _ => after line member

/-- The second pass fails at a line that was added or not at all. -/
theorem After.emitWith {number : Nat} {lines : List (Text × Nat)} {layout final : Layout}
    {symbols : Symbols} {output : Array Word} (after : After number lines)
    (added : layout.addLines lines = .ok final) (emitted : layout.emitWith symbols = .ok output) :
    FailsWithin (final.emitWith symbols) fun error => number < error.line := by
  refine Layout.addLines_keeps
    (fun reached => FailsWithin (reached.emitWith symbols) fun error => number < error.line) ?_
    (emitted ▸ .ok) added
  intro line member earlier reached fails added
  obtain ⟨labelled, labels, places⟩ := Layout.addLine_cases added
  rw [← Layout.emitWith_of_placed symbols labels.placed_eq] at fails
  cases places with
  | nothing => exact fails
  | statement =>
    rw [Layout.emitWith_push]
    exact fails.bind fun _ _ => FailsWithin.mapError fun _ _ => after line member

/-- Both texts are cut at the line feed between them, whatever the first one ends with. -/
theorem addLines_numberedLines_append (first second : Text) :
    ∃ lines, After first.lines.length lines ∧ ∀ layout : Layout,
      layout.addLines (numberedLines (first ++ '\n' :: second)) =
        layout.addLines (numberedLines first) >>= fun middle => middle.addLines lines := by
  refine ⟨(second.splitOn '\n').zipIdx (1 + (first.splitOn '\n').length), ?_, ?_⟩
  · intro line member
    have number := List.le_snd_of_mem_zipIdx member
    have pieces := Text.length_lines_le first
    omega
  · intro layout
    rw [Program.addLines_numberedLines, Program.addLines_numberedLines,
      List.splitOn_append_cons_self, List.zipIdx_append, Layout.addLines_append]

private theorem assemble_append (first second : Text) (words : List Word)
    (assembled : assemble first = .ok words) :
    (∃ extended, assemble (first ++ '\n' :: second) = .ok extended ∧ words <+: extended) ∨
      ∃ error, assemble (first ++ '\n' :: second) = .error error ∧
        first.lines.length < error.line := by
  obtain ⟨layout, output, passes, rfl⟩ := assemble_eq_ok_iff.mp assembled
  obtain ⟨lines, after, joined⟩ := addLines_numberedLines_append first second
  have reached : Layout.empty.addLines (numberedLines (first ++ '\n' :: second)) =
      layout.addLines lines := by
    rw [joined, passes.first]
    rfl
  cases outcome : layout.addLines lines with
  | error error =>
    refine .inr ⟨error, ?_, after.addLines layout error outcome⟩
    rw [assemble, reached, outcome]
    rfl
  | ok final =>
    have emitted : layout.emitWith final.symbols = .ok output :=
      (Layout.extends_addLines outcome).emitWith layout output passes.second
    rw [assemble_of_addLines (reached.trans outcome)]
    cases result : final.emitWith final.symbols with
    | error error => exact .inr ⟨error, rfl, after.emitWith outcome emitted error result⟩
    | ok extended =>
      have sized := Layout.sized_empty.addLines passes.first
      obtain ⟨before, earlier, kept⟩ := Layout.toList_emitWith_addLines sized outcome result
      cases earlier.symm.trans emitted
      exact .inl ⟨extended.toList, rfl, kept⟩

/-- Text after a source that assembles takes back none of its words. It adds words after them, or
one of its own lines is refused, or one of them has a number at which the assembler stops. -/
theorem appended_text_keeps_words (first second : Text) (words : List Word)
    (assembled : assemble first = .ok words) :
    (∃ extended, assemble (first ++ '\n' :: second) = .ok extended ∧ words <+: extended) ∨
      (∃ error, Reports (first ++ '\n' :: second) error ∧ first.lines.length < error.line) ∨
      ∃ number, StopsAt (first ++ '\n' :: second) number ∧ first.lines.length < number := by
  rcases assemble_append first second words assembled with grown | ⟨error, failed, later⟩
  · exact .inl grown
  · rcases reports_or_stopsAt failed with reports | stops
    · exact .inr (.inl ⟨error, reports, later⟩)
    · exact .inr (.inr ⟨error.line, stops, later⟩)

/-- A label of the source can be used after it, but not defined again, in whatever case. -/
theorem padded_keeps_words :
    (∃ extended, assemble (padded ++ '\n' :: "dat start".toList) = .ok extended ∧
      paddedWords <+: extended) ∧
    ∃ error, Reports (padded ++ '\n' :: "Start: hlt".toList) error ∧
      padded.lines.length < error.line := by
  have assembled : assemble padded = .ok paddedWords := by decide +kernel
  have used : assemble (padded ++ '\n' :: "dat start".toList) =
      .ok (paddedWords ++ [Word.ofNat 1]) := by decide +kernel
  have defined : assemble (padded ++ '\n' :: "Start: hlt".toList) =
      .error ⟨5, .duplicateLabel "Start".toList⟩ := by decide +kernel
  constructor
  · rcases appended_text_keeps_words padded "dat start".toList _ assembled with
      grown | ⟨error, reports, -⟩ | ⟨number, stops, -⟩
    · exact grown
    · cases used.symm.trans reports.refused
    · cases used.symm.trans stops.stopped
  · rcases appended_text_keeps_words padded "Start: hlt".toList _ assembled with
      ⟨extended, done, -⟩ | refused | ⟨number, stops, -⟩
    · cases defined.symm.trans done
    · exact refused
    · cases defined.symm.trans stops.stopped

/-- After a text that assembles, a number with too many bits leaves neither words nor an error. -/
theorem appended_number_stops :
    let first : Text := "halt".toList
    let second : Text := ".word -0x-8000000000000000".toList
    assemble first = .ok [Word.zero] ∧
      ¬((∃ extended, assemble (first ++ '\n' :: second) = .ok extended ∧
          [Word.zero] <+: extended) ∨
        ∃ error, Reports (first ++ '\n' :: second) error ∧ first.lines.length < error.line) := by
  refine ⟨by decide +kernel, ?_⟩
  rintro (⟨extended, assembled, -⟩ | ⟨error, reports, -⟩)
  · exact stopsAt_stopping.ne_ok extended assembled
  · exact stopsAt_stopping.not_reports error reports

end WordMachine.Assembly
