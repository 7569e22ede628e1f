import WordMachine.Assembly.Emission
import WordMachine.Proofs.Assembly.Operands
import WordMachine.Proofs.Fields

/-! The word of a statement is the word of the item that it was read from. -/

set_option autoImplicit false

namespace WordMachine.Assembly.Program

/-! ## Instructions -/

private theorem immediateFits_succeeds {value : Int} :
    SucceedsWhen (if Instruction.immediateFits value then .ok (Word.ofInt value)
      else .error (Cause.valueOutOfRange value)) (-128 ≤ value ∧ value ≤ 127)
      (· = Word.ofInt value) := by
  by_cases fits : -128 ≤ value ∧ value ≤ 127
  · rw [if_pos (by simpa [Instruction.immediateFits] using fits)]
    exact .ok fits rfl
  · rw [if_neg (by simpa [Instruction.immediateFits] using fits)]
    exact .error fits

private theorem WritesNumber.immediateOperand {value : Int} {text : Text}
    (written : WritesNumber value text) (symbols : Symbols) (address : Nat) (opcode : Opcode) :
    SucceedsWhen (immediateOperand symbols address opcode text) (-128 ≤ value ∧ value ≤ 127)
      (· = Word.ofInt value) := by
  have read := written.number?
  rw [Assembly.immediateOperand, Assembly.immediateValue]
  by_cases small : value.natAbs < numberLimit
  · rw [if_pos small] at read
    rw [numberOr_of_some read]
    exact immediateFits_succeeds
  · have outside : ¬(-128 ≤ value ∧ value ≤ 127) := by
      simp only [numberLimit] at small
      omega
    obtain ⟨cause, fails⟩ := written.labelAddress symbols
    rw [if_neg small] at read
    rw [numberOr_of_none read, fails]
    by_cases branch : opcode = .apceq
    · simp only [if_pos branch]
      exact .error outside
    · simp only [if_neg branch]
      exact .error outside

private theorem Shows.immediateOperand {symbols : Symbols} {labels : Labels}
    (shows : Shows symbols labels) {target : Label} {text : Text}
    (written : WritesLabel target text) (address : Nat) :
    SucceedsWhen (immediateOperand symbols address .apceq text)
      (∃ there : Nat, labels.address? target = some there ∧
        -128 ≤ (there : Int) - address ∧ (there : Int) - address ≤ 127)
      (· = Word.ofInt (distance labels target address)) := by
  rw [Assembly.immediateOperand, Assembly.immediateValue,
    numberOr_of_none (number?_of_isName written.isName), if_pos rfl, Assembly.labelAddress,
    if_pos written.isName, shows.address? written, distance]
  cases found : labels.address? target with
  | none =>
    apply SucceedsWhen.error
    intro known
    obtain ⟨there, known, -⟩ := known
    cases known
  | some there =>
    refine SucceedsWhen.congr immediateFits_succeeds ?_ fun word same => same
    constructor
    · intro fits
      exact ⟨there, rfl, fits⟩
    · intro known
      obtain ⟨other, same, fits⟩ := known
      cases same
      exact fits

private theorem instructionOf_registers {symbols : Symbols} {address : Nat} {opcode : Opcode}
    (form : opcode.form = .registers) {r1 r2 r3 : Register} {first second third : Text}
    (one : WritesRegister r1 first) (two : WritesRegister r2 second)
    (three : WritesRegister r3 third) :
    instructionOf symbols address opcode [first, second, third] =
      .ok (Instruction.ofRegisters opcode r1 r2 r3) := by
  simp only [instructionOf, form, one.registerOperand, two.registerOperand, three.registerOperand]
  rfl

private theorem instructionOf_complement {symbols : Symbols} {address : Nat} {r1 r2 : Register}
    {first second : Text} (one : WritesRegister r1 first) (two : WritesRegister r2 second) :
    instructionOf symbols address .not [first, second] =
      .ok (Instruction.ofRegisters .not r1 r2 Register.first) := by
  have three : WritesRegister Register.first Register.first.name := .inl (by decide)
  simp only [instructionOf, Opcode.form, one.registerOperand, two.registerOperand,
    three.registerOperand]
  rfl

private theorem instructionOf_immediate {symbols : Symbols} {address : Nat} {opcode : Opcode}
    (form : opcode.form = .immediate) {register : Register} {first second : Text}
    (one : WritesRegister register first) {condition : Prop} {value : Word}
    (two : SucceedsWhen (immediateOperand symbols address opcode second) condition (· = value)) :
    SucceedsWhen (instructionOf symbols address opcode [first, second]) condition
      (· = Instruction.ofImmediate opcode register value) := by
  simp only [instructionOf, form, one.registerOperand]
  apply two.bind_ok
  intro word same
  subst same
  rfl

theorem instructionWord_succeeds (instruction : Instruction) :
    SucceedsWhen (instructionWord instruction) (¬IsHaltWord instruction.encode)
      (· = instruction.encode) := by
  have known := ExitCode.ofWord?_isSome_iff instruction.encode
  simp only [instructionWord]
  cases found : ExitCode.ofWord? instruction.encode with
  | none =>
    rw [found] at known
    exact .ok (fun halts => Bool.false_ne_true (known.mpr halts)) rfl
  | some code =>
    rw [found] at known
    exact .error fun runs => runs (known.mp rfl)

/-! ## Statements -/

/-- A statement that was read from an item. What an origin's target has been read as depends on
the pass. -/
inductive Reads {Target : Type} (reads : Value → Target → Prop) : Item → Statement Target → Prop
    where
  | registers {opcode : Opcode} {form : opcode.form = .registers} {r1 r2 r3 : Register}
      {first second third : Text} :
      WritesRegister r1 first → WritesRegister r2 second → WritesRegister r3 third →
      Reads reads (.registers opcode form r1 r2 r3) (.instruction opcode [first, second, third])
  | complement {r1 r2 : Register} {first second : Text} :
      WritesRegister r1 first → WritesRegister r2 second →
      Reads reads (.complement r1 r2) (.instruction .not [first, second])
  | immediate {opcode : Opcode} {form : opcode.form = .immediate} {register : Register}
      {value : Int} {first second : Text} :
      WritesRegister register first → WritesNumber value second →
      Reads reads (.immediate opcode form register value) (.instruction opcode [first, second])
  | branch {register : Register} {target : Label} {first second : Text} :
      WritesRegister register first → WritesLabel target second →
      Reads reads (.branch register target) (.instruction .apceq [first, second])
  | halt : Reads reads .halt .halt
  | exit {digit : Int} {text : Text} :
      WritesNumber digit text → Reads reads (.exit digit) (.exit text)
  | data {value : Value} {text : Text} :
      WritesValue value text → Reads reads (.data value) (.data text)
  | origin {value : Value} {target : Target} :
      reads value target → Reads reads (.origin value) (.origin target)

/-- A word that has been found goes after the others. -/
theorem push_succeeds {found : Except Cause Word} {condition : Prop} {word : Word}
    (succeeds : SucceedsWhen found condition (· = word)) (output : Array Word) :
    SucceedsWhen (found >>= fun word => .ok (output.push word)) condition
      fun result => result.toList = output.toList ++ [word] := by
  apply succeeds.bind_ok
  intro value same
  rw [same, Array.toList_push]

private theorem emit_instruction {symbols : Symbols} {output : Array Word} {opcode : Opcode}
    {operands : List Text} {condition : Prop} {instruction : Instruction}
    (read : SucceedsWhen (instructionOf symbols output.size opcode operands) condition
      (· = instruction)) :
    SucceedsWhen (emit symbols output (.instruction opcode operands))
      (condition ∧ ¬IsHaltWord instruction.encode)
      fun result => result.toList = output.toList ++ [instruction.encode] := by
  apply read.bind
  intro found same
  rw [same]
  exact push_succeeds (instructionWord_succeeds instruction) output

theorem dataWord_succeeds (number : Int) :
    SucceedsWhen (dataWord number) (-0x8000 ≤ number ∧ number ≤ 0xFFFF)
      (· = Word.ofInt number) := by
  rw [dataWord]
  by_cases fits : -0x8000 ≤ number ∧ number < 0x10000
  · rw [if_pos fits]
    exact .ok ⟨fits.1, by omega⟩ rfl
  · rw [if_neg fits]
    exact .error fun inside => fits ⟨inside.1, by omega⟩

private theorem exitWord_succeeds (number : Int) :
    SucceedsWhen (exitWord number) (2 ≤ number ∧ number ≤ 9)
      (· = Word.ofInt (0x1000 * number)) := by
  by_cases fits : 2 ≤ number ∧ number ≤ 9
  · obtain ⟨digit, rfl⟩ := Int.eq_ofNat_of_zero_le (show 0 ≤ number by omega)
    have known : ∀ digit : Fin 10, 2 ≤ digit.val →
        exitWord (digit.val : Int) = .ok (Word.ofInt (0x1000 * (digit.val : Int))) := by decide
    have word := known ⟨digit, by omega⟩ (by simp only; omega)
    rw [word]
    exact .ok fits rfl
  · have nothing : (if 0 ≤ number then ExitCode.custom? number.toNat else none) = none := by
      split
      · rw [ExitCode.custom?, if_neg (by omega)]
      · rfl
    rw [exitWord, nothing]
    exact .error fits

private theorem emit_data {symbols : Symbols} {labels : Labels} (shows : Shows symbols labels)
    {value : Value} {text : Text} (written : WritesValue value text) (output : Array Word) :
    SucceedsWhen (emit symbols output (.data text))
      (∃ number, value.resolve? labels = some number ∧ -0x8000 ≤ number ∧ number ≤ 0xFFFF)
      fun result => result.toList =
        output.toList ++ [Word.ofInt ((value.resolve? labels).getD 0)] := by
  have bounded : ∀ number : Int, -0x8000 ≤ number ∧ number ≤ 0xFFFF →
      number.natAbs < numberLimit := by
    intro number fits
    simp only [numberLimit]
    omega
  refine (shows.operandValue_bind written bounded fun number =>
    push_succeeds (dataWord_succeeds number) output).congr Iff.rfl ?_
  intro result known
  obtain ⟨number, found, shape⟩ := known
  rw [found, shape, Option.getD_some]

private theorem emit_exit {symbols : Symbols} {labels : Labels} (shows : Shows symbols labels)
    {digit : Int} {text : Text} (written : WritesNumber digit text) (output : Array Word) :
    SucceedsWhen (emit symbols output (.exit text)) (2 ≤ digit ∧ digit ≤ 9)
      fun result => result.toList = output.toList ++ [Word.ofInt (0x1000 * digit)] := by
  have bounded : ∀ number : Int, 2 ≤ number ∧ number ≤ 9 → number.natAbs < numberLimit := by
    intro number fits
    simp only [numberLimit]
    omega
  refine (shows.operandValue_bind (.number written) bounded fun number =>
    push_succeeds (exitWord_succeeds number) output).congr ?_ ?_
  · constructor
    · intro known
      obtain ⟨number, found, fits⟩ := known
      cases found
      exact fits
    · intro fits
      exact ⟨digit, rfl, fits⟩
  · intro result known
    obtain ⟨number, found, shape⟩ := known
    cases found
    exact shape

theorem toList_resize {output : Array Word} {target : Nat} (forward : output.size ≤ target) :
    (resize output target).toList =
      output.toList ++ List.replicate (target - output.size) (Word.ofNat 0) := by
  rw [resize, Array.toList_append, Array.toList_replicate, Array.take_eq_extract,
    Array.extract_eq_self_of_le forward]
  rfl

/-- At an address the origin has been read as the address that the next word goes to. -/
def ReadsOrigin (address next : Nat) (_ : Value) (target : Nat) : Prop :=
  target = next ∧ address ≤ next

private theorem emit_registers {symbols : Symbols} {output : Array Word} {opcode : Opcode}
    (form : opcode.form = .registers) {operands : List Text} {r1 r2 r3 : Register}
    (decoded : instructionOf symbols output.size opcode operands =
      .ok (Instruction.ofRegisters opcode r1 r2 r3)) :
    SucceedsWhen (emit symbols output (.instruction opcode operands))
      (¬IsHaltWord (registersWord opcode r1 r2 r3))
      fun result => result.toList = output.toList ++ [registersWord opcode r1 r2 r3] := by
  have certain : SucceedsWhen (instructionOf symbols output.size opcode operands) True
      (· = Instruction.ofRegisters opcode r1 r2 r3) := by
    rw [decoded]
    exact .ok trivial rfl
  rw [registersWord, ← Instruction.encode_ofRegisters form]
  exact (emit_instruction certain).congr (Iff.of_eq (true_and _)) fun _ shape => shape

private theorem emit_immediate {symbols : Symbols} {output : Array Word} {opcode : Opcode}
    (form : opcode.form = .immediate) {register : Register} {first second : Text}
    (one : WritesRegister register first) {condition : Prop} {value : Int}
    (two : SucceedsWhen (immediateOperand symbols output.size opcode second) condition
      (· = Word.ofInt value)) :
    SucceedsWhen (emit symbols output (.instruction opcode [first, second]))
      (condition ∧ ¬IsHaltWord (immediateWord opcode register value))
      fun result => result.toList = output.toList ++ [immediateWord opcode register value] := by
  rw [immediateWord, ← Instruction.encode_ofImmediate form]
  exact emit_instruction (instructionOf_immediate form one two)

/-- A statement puts the words of its item if these can be encoded, and otherwise fails. -/
theorem emit_item {symbols : Symbols} {labels : Labels} (shows : Shows symbols labels)
    {output : Array Word} {next : Nat} {item : Item} {statement : Statement Nat}
    (read : Reads (ReadsOrigin output.size next) item statement) :
    SucceedsWhen (emit symbols output statement) (item.Encodable labels output.size)
      fun result => result.toList = output.toList ++ item.words labels output.size next := by
  cases read with
  | @registers opcode form r1 r2 r3 first second third one two three =>
    exact emit_registers form (instructionOf_registers form one two three)
  | complement one two => exact emit_registers rfl (instructionOf_complement one two)
  | @immediate opcode form register value first second one two =>
    exact emit_immediate form one (two.immediateOperand symbols output.size opcode)
  | branch one two =>
    refine (emit_immediate rfl one (shows.immediateOperand two output.size)).congr ?_
      fun _ shape => shape
    constructor
    · intro known
      obtain ⟨⟨there, found, fits⟩, runs⟩ := known
      rw [distance, found] at runs
      exact ⟨there, found, fits, runs⟩
    · intro known
      obtain ⟨there, found, fits, runs⟩ := known
      refine ⟨⟨there, found, fits⟩, ?_⟩
      rw [distance, found]
      exact runs
  | halt => exact .ok trivial Array.toList_push
  | exit written => exact emit_exit shows written output
  | data written => exact emit_data shows written output
  | origin placed =>
    obtain ⟨rfl, forward⟩ := placed
    exact .ok trivial (toList_resize forward)

end WordMachine.Assembly.Program
