import WordMachine.Proofs.Assembly.Addresses

/-! Instructions and their words. The word of an instruction statement is decoded as the instruction
that its operands name. The only instructions without a word are those that would be exit codes. -/

set_option autoImplicit false

namespace WordMachine.Assembly

/-! ## Meaning of statements -/

/-- The number that an operand stands for at an address; for a branch it may be the distance to a
label. -/
inductive Amounts (symbols : Symbols) (address : Nat) : Opcode → Text → Int → Prop where
  | number {opcode : Opcode} {operand : Text} {value : Int} :
      number? operand = .ok (some value) → Amounts symbols address opcode operand value
  | distance {operand : Text} {target : Nat} :
      number? operand = .ok none → isName operand = true →
      symbols.address? operand = some target →
      Amounts symbols address .apceq operand (target - address)

/-- The instruction that a statement stands for at an address. Each operand has its field, and the
fields without an operand are zero. -/
inductive Denotes (symbols : Symbols) (address : Nat) :
    Opcode → List Text → Instruction → Prop where
  | registers {opcode : Opcode} {first second third : Text} {r1 r2 r3 : Register} :
      opcode.form = .registers → Register.ofName first = .ok r1 → Register.ofName second = .ok r2 →
      Register.ofName third = .ok r3 →
      Denotes symbols address opcode [first, second, third] ⟨opcode, r1, r2, r3, Word.zero⟩
  | complement {first second : Text} {r1 r2 : Register} :
      Register.ofName first = .ok r1 → Register.ofName second = .ok r2 →
      Denotes symbols address .not [first, second] ⟨.not, r1, r2, Register.first, Word.zero⟩
  | immediate {opcode : Opcode} {first second : Text} {register : Register} {immediate : Word} :
      opcode.form = .immediate → Register.ofName first = .ok register →
      Amounts symbols address opcode second immediate.toInt →
      -128 ≤ immediate.toInt → immediate.toInt ≤ 127 →
      Denotes symbols address opcode [first, second]
        ⟨opcode, Register.first, register, Register.first, immediate⟩

/-- The operand of the statement that has to have a value. -/
inductive Takes : Statement Text → Text → Prop where
  | data {operand : Text} : Takes (.data operand) operand
  | exit {operand : Text} : Takes (.exit operand) operand
  | origin {operand : Text} : Takes (.origin operand) operand
  | immediate {opcode : Opcode} {register operand : Text} :
      opcode.form = .immediate → Takes (.instruction opcode [register, operand]) operand

theorem ofName_of_registerOperand {operand : Text} {register : Register}
    (read : registerOperand operand = .ok register) : Register.ofName operand = .ok register := by
  rw [registerOperand] at read
  cases named : Register.ofName operand with
  | ok other =>
    rw [named] at read
    cases read
    rfl
  | error error =>
    rw [named] at read
    cases read

theorem labelAddress_eq_ok {symbols : Symbols} {operand : Text} {target : Nat}
    (found : labelAddress symbols operand = .ok target) :
    isName operand = true ∧ symbols.address? operand = some target := by
  rw [labelAddress] at found
  split at found
  next named =>
    cases known : symbols.address? operand with
    | none =>
      rw [known] at found
      cases found
    | some address =>
      rw [known] at found
      cases found
      exact ⟨named, rfl⟩
  next => cases found

private theorem amounts_immediateValue {symbols : Symbols} {address : Nat} {opcode : Opcode}
    {operand : Text} {value : Int}
    (found : immediateValue symbols address opcode operand = .ok value) :
    Amounts symbols address opcode operand value := by
  rcases Program.cases_of_numberOr found with number | ⟨number, rest⟩
  · exact .number number
  · split at rest
    next branch =>
      cases known : labelAddress symbols operand with
      | error cause =>
        rw [known] at rest
        cases rest
      | ok target =>
        rw [known] at rest
        cases rest
        obtain ⟨named, defined⟩ := labelAddress_eq_ok known
        exact branch ▸ .distance number named defined
    next => cases rest

private theorem amounts_immediateOperand {symbols : Symbols} {address : Nat} {opcode : Opcode}
    {operand : Text} {immediate : Word}
    (read : immediateOperand symbols address opcode operand = .ok immediate) :
    Amounts symbols address opcode operand immediate.toInt ∧
      Instruction.immediateFits immediate.toInt = true := by
  obtain ⟨value, found, checked⟩ := ok_of_bind read
  split at checked
  next fits =>
    cases checked
    rw [toInt_ofInt_of_fits fits]
    exact ⟨amounts_immediateValue found, fits⟩
  next => cases checked

theorem denotes_instructionOf {symbols : Symbols} {address : Nat} {opcode : Opcode}
    {operands : List Text} {instruction : Instruction}
    (read : instructionOf symbols address opcode operands = .ok instruction) :
    Denotes symbols address opcode operands instruction := by
  have selects : ∀ first second third,
      (registerOperand first >>= fun r1 => registerOperand second >>= fun r2 =>
        registerOperand third >>= fun r3 =>
          (.ok (Instruction.ofRegisters opcode r1 r2 r3) : Except Cause Instruction)) =
        .ok instruction →
      ∃ r1 r2 r3, Register.ofName first = .ok r1 ∧ Register.ofName second = .ok r2 ∧
        Register.ofName third = .ok r3 ∧ instruction = ⟨opcode, r1, r2, r3, Word.zero⟩ := by
    intro first second third read
    obtain ⟨r1, one, read⟩ := ok_of_bind read
    obtain ⟨r2, two, read⟩ := ok_of_bind read
    obtain ⟨r3, three, read⟩ := ok_of_bind read
    cases read
    exact ⟨r1, r2, r3, ofName_of_registerOperand one, ofName_of_registerOperand two,
      ofName_of_registerOperand three, rfl⟩
  unfold instructionOf at read
  cases form : opcode.form with
  | registers =>
    simp only [form] at read
    split at read
    next first second =>
      obtain ⟨r1, r2, r3, one, two, three, rfl⟩ := selects first second _ read
      have absent : Register.ofName Register.first.name = .ok Register.first := by decide +kernel
      cases absent.symm.trans three
      exact .complement one two
    next first second third =>
      obtain ⟨r1, r2, r3, one, two, three, rfl⟩ := selects first second third read
      exact .registers form one two three
    next => cases read
  | immediate =>
    simp only [form] at read
    split at read
    next first second =>
      obtain ⟨register, one, read⟩ := ok_of_bind read
      obtain ⟨immediate, two, read⟩ := ok_of_bind read
      cases read
      obtain ⟨amounts, fits⟩ := amounts_immediateOperand two
      simp only [Instruction.immediateFits, Bool.and_eq_true, decide_eq_true_eq] at fits
      exact .immediate form (ofName_of_registerOperand one) amounts fits.1 fits.2
    next => cases read

/-! ## Words of instructions -/

theorem Denotes.decode_encode {symbols : Symbols} {address : Nat} {opcode : Opcode}
    {operands : List Text} {instruction : Instruction}
    (denotes : Denotes symbols address opcode operands instruction) :
    Instruction.decode instruction.encode = instruction := by
  cases denotes with
  | registers form => exact Instruction.decode_encode_ofRegisters form _ _ _
  | complement => exact Instruction.decode_encode_ofRegisters rfl _ _ _
  | @immediate opcode _ _ register immediate form _ _ least most =>
    have fits : Instruction.immediateFits immediate.toInt = true := by
      simpa [Instruction.immediateFits] using ⟨least, most⟩
    have decoded := Instruction.decode_encode_ofImmediate form register fits
    rw [Word.ofInt_toInt] at decoded
    exact decoded

private theorem decode_exit (digit : Fin 10) :
    Instruction.decode (Word.ofNat (0x1000 * digit.val)) =
    ⟨.and, Register.first, Register.first, digit.castLE (by decide), Word.zero⟩ := by
  revert digit
  decide

/-- Only a conjunction of the first register with itself into a register has the word of an exit
code, and the last selector is then the code's digit. -/
theorem ofRegisters_of_exits {instruction : Instruction} {code : ExitCode}
    (decoded : Instruction.decode instruction.encode = instruction)
    (exits : ExitCode.ofWord? instruction.encode = some code) :
    ∃ register : Register, register.val ≤ 9 ∧
      instruction = ⟨.and, Register.first, Register.first, register, Word.zero⟩ ∧
      instruction.encode = Word.ofNat (0x1000 * register.val) := by
  have some : (ExitCode.ofWord? instruction.encode).isSome = true := by rw [exits]; rfl
  obtain ⟨digit, most, word⟩ := (ExitCode.ofWord?_isSome_iff _).mp some
  refine ⟨⟨digit, by omega⟩, most, ?_, word⟩
  rw [← decoded, word]
  exact decode_exit ⟨digit, by omega⟩

private theorem instructionWord_eq_ok {instruction : Instruction} {word : Word}
    (encoded : instructionWord instruction = .ok word) :
    word = instruction.encode ∧ ExitCode.ofWord? instruction.encode = none := by
  simp only [instructionWord] at encoded
  split at encoded
  next runs =>
    cases encoded
    exact ⟨rfl, runs⟩
  next => cases encoded

private theorem instructionWord_eq_error {instruction : Instruction} {cause : Cause}
    (refused : instructionWord instruction = .error cause) :
    cause = .reservedEncoding instruction.encode ∧
      ∃ code, ExitCode.ofWord? instruction.encode = some code := by
  simp only [instructionWord] at refused
  split at refused
  next => cases refused
  next code exits =>
    cases refused
    exact ⟨rfl, code, exits⟩

/-- The operands name the first register twice and then the one whose number is the digit of an exit
code. -/
inductive Reserved : Opcode → List Text → Word → Prop where
  | and {first second third : Text} {register : Register} :
      Register.ofName first = .ok Register.first → Register.ofName second = .ok Register.first →
      Register.ofName third = .ok register → register.val ≤ 9 →
      Reserved .and [first, second, third] (Word.ofNat (0x1000 * register.val))

theorem reserved_instructionWord {symbols : Symbols} {address : Nat} {opcode : Opcode}
    {operands : List Text} {instruction : Instruction} {cause : Cause}
    (denotes : Denotes symbols address opcode operands instruction)
    (refused : instructionWord instruction = .error cause) :
    ∃ word, cause = .reservedEncoding word ∧ Reserved opcode operands word := by
  obtain ⟨rfl, code, exits⟩ := instructionWord_eq_error refused
  obtain ⟨register, most, shape, word⟩ := ofRegisters_of_exits denotes.decode_encode exits
  refine ⟨_, rfl, ?_⟩
  rw [word]
  cases denotes with
  | registers _ first second third =>
    cases shape
    exact .and first second third most
  | complement => cases shape
  | immediate form =>
    cases shape
    cases form

/-- The word of an instruction statement lies at its address and runs. -/
theorem Passes.instruction {lines before after : List (Text × Nat)} {line : Text × Nat}
    {layout : Layout} {output : Array Word} {opcode : Opcode} {operands : List Text}
    (passes : Passes layout.symbols lines layout output) (split : lines = before ++ line :: after)
    (carries : Carries line.1 (.instruction opcode operands)) :
    ∃ earlier instruction, Layout.empty.addLines before = .ok earlier ∧
      Denotes layout.symbols earlier.address opcode operands instruction ∧
      output.toList[earlier.address]? = some instruction.encode ∧
      ExitCode.ofWord? instruction.encode = none := by
  obtain ⟨earlier, later, here, next, reached, -, agrees⟩ := passes.agrees split
  obtain ⟨more, grows, -, adds⟩ := agrees.grows
  obtain ⟨instruction, word, read, encoded, rfl, -⟩ := adds _ carries
  obtain ⟨rfl, runs⟩ := instructionWord_eq_ok encoded
  rw [agrees.start] at read
  refine ⟨earlier, instruction, reached.first, denotes_instructionOf read, ?_, runs⟩
  obtain ⟨rest, kept⟩ := agrees.kept
  have address : here.toList.length = earlier.address := agrees.start
  rw [← kept, grows, List.append_assoc, List.getElem?_append_right (by omega), address,
    Nat.sub_self]
  rfl

end WordMachine.Assembly
