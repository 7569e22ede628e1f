import WordMachine.Proofs.Assembly.Literal
import WordMachine.Proofs.Assembly.Lines

/-! Letter case. Every part of the assembler does with a text in lower case what it does with the
text, apart from the letter case of what it quotes. So two texts that differ in nothing but letter
case assemble to the same words, or fail alike. -/

set_option autoImplicit false

namespace WordMachine

namespace Text

/-! ## Characters -/

/-- A letter in upper case is read like the same letter in lower case. -/
def CaseBlind {Value : Type} (read : Char → Value) : Prop :=
  ∀ char : Char, read char.toLower = read char

/-- All that changes with the letter case are the 26 letters. -/
theorem caseBlind_of_letters {Value : Type} {read : Char → Value}
    (letters : ∀ index : Fin 26,
      read (Char.ofNat (65 + index)).toLower = read (Char.ofNat (65 + index))) :
    CaseBlind read := by
  intro char
  by_cases upper : char.isUpper = true
  · simp only [Char.isUpper, decide_eq_true_eq, ge_iff_le, UInt32.le_iff_toNat_le, Char.toNat_val,
      UInt32.reduceToNat, Char.reduceVal] at upper
    have letter := letters ⟨char.toNat - 65, by omega⟩
    simp only [Nat.add_sub_cancel' upper.1, Char.ofNat_toNat] at letter
    exact letter
  · rw [Char.toLower_eq_of_not_isUpper upper]

private theorem caseBlind_isBlank : CaseBlind isBlank := caseBlind_of_letters (by decide)

private theorem caseBlind_isDigit : CaseBlind Char.isDigit := caseBlind_of_letters (by decide)

private theorem CaseBlind.not {test : Char → Bool} (blind : CaseBlind test) :
    CaseBlind fun char => !test char := fun char => congrArg Bool.not (blind char)

private theorem toLower_eq_iff {mark : Char} (noLetter : mark.isAlpha = false) (char : Char) :
    char.toLower = mark ↔ char = mark := by
  by_cases upper : char.isUpper = true
  · have letter : char.isAlpha = true := by rw [Char.isAlpha, upper, Bool.true_or]
    constructor
    · rintro rfl
      rw [Char.isAlpha_toLower_eq_isAlpha, letter] at noLetter
      cases noLetter
    · rintro rfl
      rw [letter] at noLetter
      cases noLetter
  · rw [Char.toLower_eq_of_not_isUpper upper]

private theorem caseBlind_beq {mark : Char} (noLetter : mark.isAlpha = false) :
    CaseBlind (· == mark) := by
  intro char
  rw [Bool.eq_iff_iff, beq_iff_eq, beq_iff_eq, toLower_eq_iff noLetter]

/-! ## Texts -/

private theorem lower_cons (char : Char) (text : Text) :
    lower (char :: text) = char.toLower :: text.lower := rfl

section

variable {test : Char → Bool} (blind : CaseBlind test) (text : Text)

include blind

private theorem CaseBlind.comp : test ∘ Char.toLower = test := funext blind

private theorem CaseBlind.takeWhile_lower :
    text.lower.takeWhile test = Text.lower (text.takeWhile test) := by
  rw [lower, lower, List.takeWhile_map, blind.comp]

private theorem CaseBlind.dropWhile_lower :
    text.lower.dropWhile test = Text.lower (text.dropWhile test) := by
  rw [lower, lower, List.dropWhile_map, blind.comp]

private theorem CaseBlind.splitOnP_lower :
    text.lower.splitOnP test = (text.splitOnP test).map lower := by
  induction text with
  | nil => rfl
  | cons char rest ih =>
    rw [lower_cons, List.splitOnP_cons_eq_if_modifyHead, List.splitOnP_cons_eq_if_modifyHead,
      blind, ih]
    split
    next => rfl
    next => cases List.splitOnP test rest <;> rfl

end

private theorem splitOn_lower {mark : Char} (noLetter : mark.isAlpha = false) (text : Text) :
    text.lower.splitOn mark = (text.splitOn mark).map lower := by
  rw [List.splitOn_eq_splitOnP, List.splitOn_eq_splitOnP, (caseBlind_beq noLetter).splitOnP_lower]

private theorem trim_lower (text : Text) : trim text.lower = (trim text).lower := by
  have reversed (text : Text) : text.lower.reverse = Text.lower text.reverse := by
    rw [lower, lower, List.map_reverse]
  rw [trim, trim, trimStart, trimStart, caseBlind_isBlank.dropWhile_lower, trimEnd, trimEnd,
    reversed, caseBlind_isBlank.dropWhile_lower, reversed]

private theorem splitWord_lower (text : Text) :
    splitWord text.lower = ((splitWord text).1.lower, (splitWord text).2.lower) := by
  rw [splitWord, splitWord, caseBlind_isBlank.not.takeWhile_lower,
    caseBlind_isBlank.not.dropWhile_lower, trim_lower]

private theorem cons_of_lower {mark : Char} {text rest : Text} (noLetter : mark.isAlpha = false)
    (lowered : text.lower = mark :: rest) : ∃ later, text = mark :: later ∧ rest = lower later := by
  cases text with
  | nil => cases lowered
  | cons first later =>
    obtain ⟨same, rfl⟩ := List.cons.inj lowered
    rw [(toLower_eq_iff noLetter first).mp same]
    exact ⟨later, rfl, rfl⟩

/-- A sign at the start of a text has no letter case. -/
theorem signed_lower {Value : Type} {minus plus plain : Text → Value}
    (minus_lower : ∀ text : Text, minus text.lower = minus text)
    (plus_lower : ∀ text : Text, plus text.lower = plus text)
    (plain_lower : ∀ text : Text, plain text.lower = plain text) (text : Text) :
    (match text.lower with
      | '-' :: rest => minus rest
      | '+' :: rest => plus rest
      | rest => plain rest) =
    match text with
      | '-' :: rest => minus rest
      | '+' :: rest => plus rest
      | rest => plain rest := by
  split
  next lowered =>
    obtain ⟨later, rfl, rfl⟩ := cons_of_lower rfl lowered
    exact minus_lower later
  next lowered =>
    obtain ⟨later, rfl, rfl⟩ := cons_of_lower rfl lowered
    exact plus_lower later
  next noMinus noPlus =>
    rw [plain_lower]
    split
    next rest => exact absurd rfl (noMinus (lower rest))
    next rest => exact absurd rfl (noPlus (lower rest))
    next => rfl

end Text

/-! ## Numbers -/

namespace Numeral

private theorem caseBlind_digitValue? : Text.CaseBlind digitValue? :=
  Text.caseBlind_of_letters (by decide)

private theorem extend?_lower (base value : Nat) (text : Text) :
    extend? base value text.lower = extend? base value text := by
  induction text generalizing value with
  | nil => rfl
  | cons char rest ih =>
    rw [Text.lower_cons, extend?, extend?, digit?, digit?, caseBlind_digitValue? char]
    split
    next => exact ih _
    next => rfl

private theorem natural?_lower (base : Nat) (text : Text) :
    natural? base text.lower = natural? base text := by
  cases text with
  | nil => rfl
  | cons char rest => exact extend?_lower base 0 (char :: rest)

private theorem integer?_lower (base : Nat) (text : Text) :
    integer? base text.lower = integer? base text := by
  apply Text.signed_lower
  all_goals
    intro digits
    rw [natural?_lower]

private theorem int64?_lower (base : Nat) (text : Text) :
    int64? base text.lower = int64? base text := by
  rw [int64?, int64?, integer?_lower]

end Numeral

namespace Assembly

open Literal (Marks)

/-- The text starts with the mark of a base. -/
inductive Marked : Text → Prop where
  | mark {base : Nat} {mark : Char} {digits : Text} :
      Marks base mark → Marked ('0' :: mark :: digits)

private theorem Literal.Marks.of_toLower {base : Nat} {mark other : Char} (marks : Marks base mark)
    (same : other.toLower = mark.toLower) : Marks base other := by
  cases marks with
  | hexadecimal known => exact .hexadecimal (same.trans known)
  | binary known => exact .binary (same.trans known)

private theorem marked_of_lower {text : Text} (marked : Marked text.lower) : Marked text := by
  generalize lowered : text.lower = small at marked
  cases marked with
  | mark marks =>
    obtain ⟨later, rfl, same⟩ := Text.cons_of_lower rfl lowered
    cases later with
    | nil => cases same
    | cons mark digits =>
      cases same
      exact .mark (marks.of_toLower (Char.toLower_toLower_eq_toLower mark).symm)

private theorem magnitude?_of_not_marked {text : Text} (plain : ¬Marked text) :
    magnitude? text =
      if (text.head?.any Char.isDigit) = true then Numeral.int64? 10 text else none := by
  unfold magnitude?
  split
  next => exact absurd (.mark (.hexadecimal rfl)) plain
  next => exact absurd (.mark (.hexadecimal (by decide))) plain
  next => exact absurd (.mark (.binary rfl)) plain
  next => exact absurd (.mark (.binary (by decide))) plain
  next => rfl
  next => rfl

private theorem magnitude?_lower (text : Text) : magnitude? text.lower = magnitude? text := by
  by_cases marked : Marked text
  · cases marked with
    | @mark base mark digits marks =>
      have lowered := marks.of_toLower (Char.toLower_toLower_eq_toLower mark)
      show magnitude? ('0' :: mark.toLower :: Text.lower digits) = _
      rw [marks.magnitude?_eq, lowered.magnitude?_eq, Numeral.int64?_lower]
  · -- Without a mark the base is ten, whatever the letters are.
    have plain : ¬Marked text.lower := fun lowered => marked (marked_of_lower lowered)
    rw [magnitude?_of_not_marked marked, magnitude?_of_not_marked plain, Numeral.int64?_lower]
    cases text with
    | nil => rfl
    | cons first rest =>
      rw [Text.lower_cons, List.head?_cons, Option.any_some, Text.caseBlind_isDigit first]
      rfl

private theorem number?_lower (text : Text) : number? text.lower = number? text := by
  rw [number?, Text.trim_lower]
  apply Text.signed_lower
  all_goals
    intro literal
    rw [magnitude?_lower]

/-! ## Errors -/

def Malformed.lower : Malformed → Malformed
  | labelName name => labelName name.lower
  | operandCount directive => operandCount directive
  | originTarget target => originTarget target.lower
  | originBackwards target address => originBackwards target address
  | registers opcode => registers opcode
  | registerAndImmediate opcode => registerAndImmediate opcode
  | operand text => operand text.lower
  | immediate text => immediate text.lower

/-- The same cause with the text that it quotes in lower case. -/
def Cause.lower : Cause → Cause
  | malformed reason => malformed reason.lower
  | unknownMnemonic name => unknownMnemonic name.lower
  | unknownRegister name => unknownRegister name.lower
  | undefinedLabel label => undefinedLabel label.lower
  | duplicateLabel label => duplicateLabel label.lower
  | overflow => overflow
  | valueOutOfRange value => valueOutOfRange value
  | reservedEncoding word => reservedEncoding word

def Error.lower (error : Error) : Error := ⟨error.line, error.cause.lower⟩

/-! ## Operands -/

private theorem Symbols.address?_lower (symbols : Symbols) (label : Text) :
    symbols.address? label.lower = symbols.address? label := by
  rw [Symbols.address?, Symbols.address?, Text.upper_lower]

private theorem Symbols.define?_lower (symbols : Symbols) (label : Text) (address : Nat) :
    symbols.define? label.lower address = symbols.define? label address := by
  rw [Symbols.define?, Symbols.define?, Symbols.address?_lower, Text.upper_lower]

private theorem labelAddress_lower (symbols : Symbols) (operand : Text) :
    Corresponds id Cause.lower (labelAddress symbols operand)
      (labelAddress symbols operand.lower) := by
  rw [labelAddress, labelAddress, Program.isName_lower, Symbols.address?_lower]
  by_cases named : isName operand = true
  · rw [if_pos named, if_pos named]
    cases symbols.address? operand with
    | some address => exact .ok address
    | none => exact .error _
  · rw [if_neg named, if_neg named]
    exact .error _

/-- An overflow quotes nothing. -/
theorem number?_corresponds (operand : Text) :
    Corresponds id Cause.lower (number? operand) (number? operand.lower) := by
  rw [number?_lower]
  cases read : number? operand with
  | ok number? => exact .ok number?
  | error cause =>
    cases (Program.overflow_of_number? read).1
    exact .error _

private theorem numberOr_lower {operand : Text} {other lowered : Except Cause Int}
    (corresponds : Corresponds id Cause.lower other lowered) :
    Corresponds id Cause.lower (numberOr operand other) (numberOr operand.lower lowered) := by
  apply (number?_corresponds operand).bind
  intro number?
  cases number? with
  | some value => exact .ok value
  | none => exact corresponds

private theorem operandValue_lower (symbols : Symbols) (operand : Text) :
    Corresponds id Cause.lower (operandValue symbols operand)
      (operandValue symbols operand.lower) := by
  apply numberOr_lower
  exact (labelAddress_lower symbols operand).map fun _ => rfl

private theorem immediateValue_lower (symbols : Symbols) (address : Nat) (opcode : Opcode)
    (operand : Text) :
    Corresponds id Cause.lower (immediateValue symbols address opcode operand)
      (immediateValue symbols address opcode operand.lower) := by
  apply numberOr_lower
  by_cases branch : opcode = .apceq
  · simp only [if_pos branch]
    exact (labelAddress_lower symbols operand).map fun _ => rfl
  · simp only [if_neg branch]
    exact .error _

private theorem immediateOperand_lower (symbols : Symbols) (address : Nat) (opcode : Opcode)
    (operand : Text) :
    Corresponds id Cause.lower (immediateOperand symbols address opcode operand)
      (immediateOperand symbols address opcode operand.lower) := by
  apply (immediateValue_lower symbols address opcode operand).bind
  intro value
  by_cases fits : Instruction.immediateFits value = true
  · simp only [id_eq, if_pos fits]
    exact .ok _
  · simp only [id_eq, if_neg fits]
    exact .error _

private theorem ofName_lower (text : Text) :
    Corresponds id (fun unknown => ⟨unknown.name.lower⟩) (Register.ofName text)
      (Register.ofName text.lower) := by
  unfold Register.ofName
  rw [Text.trim_lower, Text.lower_lower]
  split
  next => exact .ok Register.flag
  next digits _ =>
    cases (Numeral.below? 256 digits).bind Register.ofNat? with
    | some register => exact .ok register
    | none => exact .error _
  next => exact .error _

private theorem registerOperand_lower (operand : Text) :
    Corresponds id Cause.lower (registerOperand operand) (registerOperand operand.lower) := by
  have read := ofName_lower operand
  rw [registerOperand, registerOperand]
  cases named : Register.ofName operand with
  | ok register =>
    rw [named] at read
    rw [read]
    exact .ok register
  | error unknown =>
    rw [named] at read
    rw [read]
    exact .error _

/-- The instruction on three registers, which are read from first to third. -/
def registersOf (opcode : Opcode) (first second third : Text) : Except Cause Instruction := do
  let r1 ← registerOperand first
  let r2 ← registerOperand second
  let r3 ← registerOperand third
  .ok (Instruction.ofRegisters opcode r1 r2 r3)

private theorem registersOf_lower (opcode : Opcode) (first second third : Text) :
    Corresponds id Cause.lower (registersOf opcode first second third)
      (registersOf opcode first.lower second.lower third.lower) := by
  rw [registersOf, registersOf]
  apply (registerOperand_lower first).bind
  intro r1
  apply (registerOperand_lower second).bind
  intro r2
  exact (registerOperand_lower third).bind fun r3 => .ok _

private theorem instructionOf_lower (symbols : Symbols) (address : Nat) (opcode : Opcode)
    (operands : List Text) :
    Corresponds id Cause.lower (instructionOf symbols address opcode operands)
      (instructionOf symbols address opcode (operands.map Text.lower)) := by
  unfold instructionOf
  cases opcode.form with
  | registers =>
    match operands with
    | [first, second] =>
      cases opcode with
      | not =>
        -- The third register is not read from the text, so it has no case to change.
        have third : Register.first.name.lower = Register.first.name := by decide +kernel
        have read := registersOf_lower .not first second Register.first.name
        rw [third] at read
        exact read
      | _ => exact .error _
    | [first, second, third] => cases opcode <;> exact registersOf_lower _ first second third
    | [] | [_] | _ :: _ :: _ :: _ :: _ => cases opcode <;> exact .error _
  | immediate =>
    match operands with
    | [register, immediate] =>
      apply (registerOperand_lower register).bind
      intro register
      exact (immediateOperand_lower symbols address opcode immediate).bind fun _ => .ok _
    | [] | [_] | _ :: _ :: _ :: _ => exact .error _

/-! ## Statements -/

/-- The same statement on operands in lower case. -/
def Statement.lower {Target Changed : Type} (change : Target → Changed) :
    Statement Target → Statement Changed
  | instruction opcode operands => instruction opcode (operands.map Text.lower)
  | data operand => data operand.lower
  | halt => halt
  | exit operand => exit operand.lower
  | origin target => origin (change target)

private theorem Directive.statement_lower (directive : Directive) (operands : List Text) :
    Corresponds (Statement.lower Text.lower) Cause.lower (directive.statement operands)
      (directive.statement (operands.map Text.lower)) := by
  match operands with
  | [] | [[]] | [_ :: _] | [] :: _ :: _ | (_ :: _) :: _ :: _ => cases directive <;> rfl

private theorem operandsOf_lower (text : Text) :
    operandsOf text.lower = (operandsOf text).map Text.lower := by
  cases text with
  | nil => rfl
  | cons first rest =>
    show ((Text.lower (first :: rest)).splitOn ',').map Text.trim =
      (((first :: rest).splitOn ',').map Text.trim).map Text.lower
    rw [Text.splitOn_lower rfl, List.map_map, List.map_map]
    exact congrArg (List.map · _) (funext Text.trim_lower)

private theorem Statement.parse_lower (text : Text) :
    Corresponds (Statement.lower Text.lower) Cause.lower (Statement.parse text)
      (Statement.parse text.lower) := by
  rw [Statement.parse, Statement.parse, Text.splitWord_lower]
  simp only [operandsOf_lower, Program.ofName?_lower, Program.ofMnemonic?_lower]
  cases Directive.ofName? text.splitWord.1 with
  | some directive => exact directive.statement_lower _
  | none =>
    cases Opcode.ofMnemonic? text.splitWord.1 with
    | some opcode => exact .ok _
    | none => exact .error _

private theorem stripComment_lower (line : Text) :
    stripComment line.lower = (stripComment line).lower := by
  have within : Text.CaseBlind (· != ';') := (Text.caseBlind_beq rfl).not
  rw [stripComment, stripComment, within.takeWhile_lower, Text.trim_lower]

private theorem splitLabel_lower (text : Text) :
    splitLabel text.lower = ((splitLabel text).1.map Text.lower, (splitLabel text).2.lower) := by
  have within : Text.CaseBlind (· != ':') := (Text.caseBlind_beq rfl).not
  rw [splitLabel, splitLabel, within.dropWhile_lower, within.takeWhile_lower]
  cases text.dropWhile (· != ':') with
  | nil => rfl
  | cons mark rest =>
    show (some _, Text.trim (Text.lower rest)) = _
    rw [Text.trim_lower, Text.trim_lower]
    rfl

/-! ## Layout -/

private theorem originTarget_lower (symbols : Symbols) (address : Nat) (operand : Text) :
    Corresponds id Cause.lower (originTarget symbols address operand)
      (originTarget symbols address operand.lower) := by
  apply (number?_corresponds operand).bind
  intro number?
  rw [id_eq, Program.isName_lower, Symbols.address?_lower]
  split
  next => exact .error _
  next =>
    apply (operandValue_lower symbols operand).bind
    intro value
    simp only [id_eq]
    split
    next => exact .error _
    next =>
      split
      next => exact .error _
      next => exact .ok _

def Placed.lower (placed : Placed) : Placed := ⟨placed.line, placed.statement.lower id⟩

def Layout.lower (layout : Layout) : Layout :=
  { layout with placed := layout.placed.map Placed.lower }

namespace Layout

private theorem lower_empty : lower empty = empty := congrArg (Layout.mk 0 .empty) Array.map_empty

variable (layout : Layout)

private theorem addLabel_lower (label : Text) :
    Corresponds lower Cause.lower (layout.addLabel label) (layout.lower.addLabel label.lower) := by
  have defined : layout.lower.symbols.define? label.lower layout.lower.address =
      layout.symbols.define? label layout.address := Symbols.define?_lower _ _ _
  rw [addLabel, addLabel, Program.isName_lower, defined]
  by_cases named : isName label = true
  · rw [if_pos named, if_pos named]
    cases layout.symbols.define? label layout.address with
    | some symbols => exact .ok _
    | none => exact .error _
  · rw [if_neg named, if_neg named]
    exact .error _

private theorem locate_lower (statement : Statement Text) :
    Corresponds (Prod.map (Statement.lower id) id) Cause.lower (layout.locate statement)
      (layout.lower.locate (statement.lower Text.lower)) := by
  cases statement with
  | instruction | data | halt | exit => exact .ok _
  | origin operand =>
    exact (originTarget_lower layout.symbols layout.address operand).bind fun _ => .ok _

private theorem addStatement_lower (line : Nat) (text : Text) :
    Corresponds lower Cause.lower (layout.addStatement line text)
      (layout.lower.addStatement line text.lower) := by
  cases text with
  | nil => exact .ok _
  | cons first rest =>
    apply (Statement.parse_lower (first :: rest)).bind
    intro statement
    apply (layout.locate_lower statement).bind
    intro located
    obtain ⟨statement, address⟩ := located
    have pushed : lower { layout with address, placed := layout.placed.push ⟨line, statement⟩ } =
        ⟨address, layout.symbols, layout.lower.placed.push ⟨line, statement.lower id⟩⟩ := by
      rw [lower, Array.map_push]
      rfl
    exact congrArg Except.ok pushed.symm

private theorem addText_lower (line : Nat) (text : Text) :
    Corresponds lower Cause.lower (layout.addText line text)
      (layout.lower.addText line text.lower) := by
  rw [addText, addText, stripComment_lower, splitLabel_lower]
  rcases splitLabel (stripComment text) with ⟨label?, rest⟩
  cases label? with
  | none => exact layout.addStatement_lower line rest
  | some label =>
    apply (layout.addLabel_lower label).bind
    intro labelled
    exact labelled.addStatement_lower line rest

private theorem addLine_lower (line : Text × Nat) :
    Corresponds lower Error.lower (layout.addLine line)
      (layout.lower.addLine (Prod.map Text.lower id line)) :=
  (layout.addText_lower line.2 line.1).mapError fun _ => rfl

private theorem addLines_lower (lines : List (Text × Nat)) :
    Corresponds lower Error.lower (layout.addLines lines)
      (layout.lower.addLines (lines.map (Prod.map Text.lower id))) :=
  Corresponds.foldlM addLine_lower lines layout

private theorem addLines_numberedLines_lower (source : Text) :
    Corresponds lower Error.lower (layout.addLines (numberedLines source))
      (layout.lower.addLines (numberedLines source.lower)) := by
  rw [Program.addLines_numberedLines, Program.addLines_numberedLines, Text.splitOn_lower rfl,
    List.zipIdx_map]
  exact layout.addLines_lower _

end Layout

/-! ## Words -/

/-- Where no text is read, none is quoted. -/
theorem dataWord_lower (value : Int) :
    Corresponds id Cause.lower (dataWord value) (dataWord value) := by
  rw [dataWord]
  split
  next => exact .ok _
  next => exact .error _

private theorem exitWord_lower (value : Int) :
    Corresponds id Cause.lower (exitWord value) (exitWord value) := by
  rw [exitWord]
  split
  next => exact .ok _
  next => exact .error _

private theorem instructionWord_lower (instruction : Instruction) :
    Corresponds id Cause.lower (instructionWord instruction) (instructionWord instruction) := by
  simp only [instructionWord]
  split
  next => exact .ok _
  next => exact .error _

private theorem emit_lower (symbols : Symbols) (output : Array Word) (statement : Statement Nat) :
    Corresponds id Cause.lower (emit symbols output statement)
      (emit symbols output (statement.lower id)) := by
  cases statement with
  | origin | halt => exact .ok _
  | data operand =>
    apply (operandValue_lower symbols operand).bind
    intro value
    exact (dataWord_lower value).bind fun _ => .ok _
  | exit operand =>
    apply (operandValue_lower symbols operand).bind
    intro value
    exact (exitWord_lower value).bind fun _ => .ok _
  | instruction opcode operands =>
    apply (instructionOf_lower symbols output.size opcode operands).bind
    intro instruction
    exact (instructionWord_lower instruction).bind fun _ => .ok _

private theorem emitPlaced_lower (symbols : Symbols) (output : Array Word) (placed : Placed) :
    Corresponds id Error.lower (emitPlaced symbols output placed)
      (emitPlaced symbols output placed.lower) :=
  (emit_lower symbols output placed.statement).mapError fun _ => rfl

private theorem Layout.emit_lower (layout : Layout) :
    Corresponds id Error.lower layout.emit layout.lower.emit := by
  rw [Layout.emit, Layout.emit, ← Array.foldlM_toList, ← Array.foldlM_toList]
  show Corresponds _ _ _ ((layout.placed.map Placed.lower).toList.foldlM _ _)
  rw [Array.toList_map]
  exact Corresponds.foldlM (emitPlaced_lower layout.symbols) layout.placed.toList #[]

private theorem assemble_lower (source : Text) :
    Corresponds id Error.lower (assemble source) (assemble source.lower) := by
  have laidOut := Layout.empty.addLines_numberedLines_lower source
  rw [Layout.lower_empty] at laidOut
  rw [assemble, assemble]
  apply laidOut.bind
  intro layout
  exact layout.emit_lower.bind fun _ => .ok _

private theorem assemble_alike {left right : Text} (same : left.sameName right = true) :
    (∃ words, assemble left = .ok words ∧ assemble right = .ok words) ∨
      ∃ first second, assemble left = .error first ∧ assemble right = .error second ∧
        first.line = second.line ∧ first.cause.lower = second.cause.lower := by
  have lowered : left.lower = right.lower := eq_of_beq same
  have agree : ((assemble left).map id).mapError Error.lower =
      ((assemble right).map id).mapError Error.lower := by
    rw [← assemble_lower left, ← assemble_lower right, lowered]
  cases one : assemble left with
  | ok words =>
    rw [one] at agree
    cases two : assemble right with
    | ok others =>
      rw [two] at agree
      cases agree
      exact .inl ⟨words, rfl, rfl⟩
    | error second =>
      rw [two] at agree
      cases agree
  | error first =>
    rw [one] at agree
    cases two : assemble right with
    | ok others =>
      rw [two] at agree
      cases agree
    | error second =>
      rw [two] at agree
      have alike : first.lower = second.lower := Except.error.inj agree
      obtain ⟨line, cause⟩ := Error.mk.inj alike
      exact .inr ⟨first, second, rfl, rfl, line, cause⟩

private theorem Cause.lower_eq_overflow_iff {cause : Cause} :
    cause.lower = .overflow ↔ cause = .overflow := by
  cases cause <;> simp [Cause.lower]

/-- Two texts that differ at most in letter case assemble to the same words or are refused alike:
on the same line, for the same cause with the same number or word, and with the same text quoted
but for its letter case. Or the assembler stops at a number on the same line of both. -/
theorem letter_case_makes_no_difference (left right : Text) (same : left.sameName right = true) :
    (∃ words, assemble left = .ok words ∧ assemble right = .ok words) ∨
      (∃ first second, Reports left first ∧ Reports right second ∧
        first.line = second.line ∧ first.cause.lower = second.cause.lower) ∨
      ∃ number, StopsAt left number ∧ StopsAt right number := by
  rcases assemble_alike same with
    done | ⟨⟨number, cause⟩, ⟨other, reason⟩, here, there, line, quoted⟩
  · exact .inl done
  cases line
  have overflow : reason = .overflow ↔ cause = .overflow := by
    rw [← Cause.lower_eq_overflow_iff, ← quoted, Cause.lower_eq_overflow_iff]
  by_cases stops : cause = .overflow
  · cases stops
    cases overflow.mpr rfl
    exact .inr (.inr ⟨number, stopsAt_of_assemble here, stopsAt_of_assemble there⟩)
  · exact .inr (.inl ⟨_, _, ⟨here, stops⟩, ⟨there, mt overflow.mp stops⟩, rfl, quoted⟩)

def twice : Text := "loop: li r1, 0X1f\nLoop: hlt".toList

theorem letter_case_of_padded :
    (padded.sameName padded.upper = true ∧ assemble padded.upper = .ok paddedWords) ∧
      twice.sameName twice.upper = true ∧
      ∃ error, Reports twice.upper error ∧ error.line = 2 ∧
        error.cause.lower = .duplicateLabel "loop".toList := by
  have assembled : assemble padded = .ok paddedWords := by decide +kernel
  have refused : assemble twice = .error ⟨2, .duplicateLabel "Loop".toList⟩ := by decide +kernel
  have renamed : padded.sameName padded.upper = true := by decide +kernel
  have again : twice.sameName twice.upper = true := by decide +kernel
  refine ⟨⟨renamed, ?_⟩, again, ?_⟩
  · rcases letter_case_makes_no_difference padded padded.upper renamed with
      ⟨words, here, there⟩ | ⟨first, -, here, -⟩ | ⟨number, here, -⟩
    · cases assembled.symm.trans here
      exact there
    · cases assembled.symm.trans here.refused
    · cases assembled.symm.trans here.stopped
  · rcases letter_case_makes_no_difference twice twice.upper again with
      ⟨words, here, -⟩ | ⟨first, second, here, there, line, cause⟩ | ⟨number, here, -⟩
    · cases refused.symm.trans here
    · cases refused.symm.trans here.refused
      exact ⟨second, there, line.symm, cause.symm⟩
    · cases refused.symm.trans here.stopped

/-- Where the assembler stops there are neither words nor errors to agree. -/
theorem stopping_has_no_outcome :
    stopping.sameName stopping.upper = true ∧
      ¬((∃ words, assemble stopping = .ok words ∧ assemble stopping.upper = .ok words) ∨
        ∃ first second, Reports stopping first ∧ Reports stopping.upper second ∧
          first.line = second.line ∧ first.cause.lower = second.cause.lower) := by
  refine ⟨by decide +kernel, ?_⟩
  rintro (⟨words, assembled, -⟩ | ⟨first, -, reports, -⟩)
  · exact stopsAt_stopping.ne_ok words assembled
  · exact stopsAt_stopping.not_reports first reports

end Assembly

end WordMachine
