import WordMachine.Proofs.Assembly.Disassembly
import WordMachine.Proofs.Assembly.Literal

/-! Names of registers. What is read as one is a documented name, with one exception: the number may
have a plus sign or zeros in front. No other text is a register, wherever it stands. -/

set_option autoImplicit false

namespace WordMachine

/-! ## Decimal numbers -/

namespace Numeral

/-- Zeros in front are all that the digits say besides the number. -/
theorem exists_zeros_of_foldl {digits : List Nat} (some : digits ≠ [])
    (small : ∀ digit ∈ digits, digit < 10) :
    ∃ zeros, digits.map Nat.digitChar = List.replicate zeros '0' ++
      Nat.toDigits 10 (digits.foldl (fun high digit => 10 * high + digit) 0) := by
  induction digits using List.reverseRecOn with
  | nil => exact absurd rfl some
  | append_singleton digits last ih =>
    have below : last < 10 := small last (List.mem_append_right _ List.mem_cons_self)
    rw [List.map_append, List.map_singleton, List.foldl_append, List.foldl_cons, List.foldl_nil]
    cases digits with
    | nil =>
      refine ⟨0, ?_⟩
      rw [List.foldl_nil, Nat.mul_zero, Nat.zero_add, Nat.toDigits_of_lt_base below]
      rfl
    | cons first rest =>
      obtain ⟨zeros, same⟩ := ih (List.cons_ne_nil first rest)
        fun digit member => small digit (List.mem_append_left _ member)
      generalize (first :: rest).foldl (fun high digit => 10 * high + digit) 0 = high at same ⊢
      rw [same]
      by_cases zero : high = 0
      · subst zero
        refine ⟨zeros + 1, ?_⟩
        rw [Nat.mul_zero, Nat.zero_add, Nat.toDigits_of_lt_base below, List.replicate_succ']
        rfl
      · refine ⟨zeros, ?_⟩
        have quotient : (10 * high + last) / 10 = high := by omega
        have remainder : (10 * high + last) % 10 = last := by omega
        rw [Nat.toDigits_of_base_le (n := 10 * high + last) (by decide) (by omega), quotient,
          remainder, List.append_assoc]

private theorem below?_cases {limit value : Nat} {text : Text}
    (read : below? limit text = some value) :
    ∃ sign digits, (sign = [] ∨ sign = ['+']) ∧ text = sign ++ digits ∧
      natural? 10 digits = some value := by
  unfold below? at read
  split at read
  next digits => exact ⟨['+'], digits, .inr rfl, rfl, (Option.filter_eq_some_iff.mp read).1⟩
  next => exact ⟨[], text, .inl rfl, rfl, (Option.filter_eq_some_iff.mp read).1⟩

end Numeral

namespace Assembly.RegisterName

open Assembly.Program (WritesDigits WritesRegister)

/-! ## Names -/

/-- The letter `r` and the number of the register, with a plus sign or zeros before the number. -/
def PadsRegister (register : Register) (text : Text) : Prop :=
  ∃ sign zeros, (sign = ['+'] ∨ sign = [] ∧ 0 < zeros) ∧
    text.lower = 'r' :: (sign ++ (List.replicate zeros '0' ++ Nat.toDigits 10 register.val))

/-- All that is read as the register. -/
def Names (register : Register) (text : Text) : Prop :=
  WritesRegister register text ∨ PadsRegister register text

private theorem writesDigits_padded (zeros value : Nat) :
    WritesDigits 10 value (List.replicate zeros '0' ++ Nat.toDigits 10 value) :=
  (Program.writesDigits_ten value).zeros (by decide) zeros

/-- A documented name has neither a sign nor a zero that says nothing. -/
theorem PadsRegister.not_documented {register other : Register} {text : Text}
    (padded : PadsRegister register text) : ¬WritesRegister other text := by
  obtain ⟨sign, zeros, shape, same⟩ := padded
  rintro (numbered | ⟨-, flag⟩)
  · have digits := (List.cons.inj (same.symm.trans numbered)).2
    rcases shape with rfl | ⟨rfl, positive⟩
    · have member : '+' ∈ Nat.toDigits 10 other.val := digits ▸ List.mem_cons_self
      have digit := Nat.isDigit_of_mem_toDigits (by decide) (by decide) member
      cases digit
    · rw [List.nil_append] at digits
      have read := (writesDigits_padded zeros register.val).natural? (by decide)
      rw [digits, (Program.writesDigits_ten other.val).natural? (by decide)] at read
      have lengths := congrArg List.length digits
      rw [Option.some.inj read, List.length_append, List.length_replicate] at lengths
      omega
  · cases same.symm.trans flag

private theorem names_of_ofName {text : Text} {register : Register}
    (read : Register.ofName text = .ok register) : Names register text.trim := by
  unfold Register.ofName at read
  split at read
  next flag =>
    cases read
    exact .inl (.inr ⟨rfl, flag⟩)
  next tail same =>
    split at read
    next found =>
      cases read
      obtain ⟨value, number, inBank⟩ := Option.bind_eq_some_iff.mp found
      obtain ⟨sign, digits, signed, rfl, natural⟩ := Numeral.below?_cases number
      obtain rfl : value = register.val := by
        unfold Register.ofNat? at inBank
        split at inBank
        · cases inBank
          rfl
        · cases inBank
      -- Everything is in lower case already, so the digits are as they are written.
      have plain : Text.lower digits = digits := by
        have lowered := Text.lower_lower text.trim
        rw [same] at lowered
        have rest := (List.cons.inj lowered).2
        rw [List.map_append] at rest
        exact (List.append_inj rest (List.length_map _)).2
      obtain ⟨values, some, small, written, sum⟩ := Literal.writesDigits_of_natural? natural
      obtain ⟨zeros, padded⟩ := Numeral.exists_zeros_of_foldl some small
      rw [sum, ← written, plain] at padded
      subst padded
      rcases signed with rfl | rfl
      · cases zeros with
        | zero => exact .inl (.inl same)
        | succ zeros => exact .inr ⟨[], zeros + 1, .inr ⟨rfl, Nat.succ_pos zeros⟩, same⟩
      · exact .inr ⟨['+'], zeros, .inl rfl, same⟩
    next => cases read
  next => cases read

private theorem ofName_of_lower {text digits : Text} {register : Register}
    (same : text.trim.lower = 'r' :: digits)
    (read : Numeral.below? 256 digits = some register.val) :
    Register.ofName text = .ok register := by
  have inBank : Register.ofNat? register.val = some register := dif_pos register.isLt
  simp only [Register.ofName, same, read, Option.bind_some, inBank]

private theorem PadsRegister.ofName {text : Text} {register : Register}
    (padded : PadsRegister register text.trim) : Register.ofName text = .ok register := by
  obtain ⟨sign, zeros, shape, same⟩ := padded
  have small : decide (register.val < 256) = true :=
    decide_eq_true (Nat.lt_trans register.isLt (by decide))
  have number : (Numeral.natural? 10
      (List.replicate zeros '0' ++ Nat.toDigits 10 register.val)).filter (· < 256) =
        some register.val := by
    rw [(writesDigits_padded zeros register.val).natural? (by decide), Option.filter_some,
      if_pos small]
  apply ofName_of_lower same
  rcases shape with rfl | ⟨rfl, positive⟩
  · exact number
  · cases zeros with
    | zero => cases positive
    | succ zeros => exact number

private theorem ofName_of_writes {text : Text} {register : Register}
    (written : WritesRegister register text.trim) : Register.ofName text = .ok register := by
  have read := ofName_of_registerOperand written.registerOperand
  rwa [Register.ofName, written.solid.trimmed.trim_eq] at read

private theorem ofName_eq_ok_iff {text : Text} {register : Register} :
    Register.ofName text = .ok register ↔ Names register text.trim := by
  constructor
  · exact names_of_ofName
  · rintro (written | padded)
    · exact ofName_of_writes written
    · exact padded.ofName

private theorem ofName_of_not_names {text : Text}
    (unnamed : ∀ register, ¬Names register text.trim) :
    Register.ofName text = .error ⟨text.trim⟩ := by
  cases read : Register.ofName text with
  | ok register => exact absurd (names_of_ofName read) (unnamed register)
  | error unknown =>
    unfold Register.ofName at read
    split at read
    next => cases read
    next =>
      split at read
      next => cases read
      next => exact read.symm
    next => exact read.symm

/-! ## Operands -/

/-- The operands of an operation that have to name registers. -/
inductive Selects : Opcode → List Text → List Text → Prop where
  | registers {opcode : Opcode} {first second third : Text} :
      opcode.form = .registers → Selects opcode [first, second, third] [first, second, third]
  | complement {first second : Text} : Selects .not [first, second] [first, second]
  | immediate {opcode : Opcode} {register operand : Text} :
      opcode.form = .immediate → Selects opcode [register, operand] [register]

private theorem names_of_denotes {symbols : Symbols} {address : Nat} {opcode : Opcode}
    {operands names : List Text} {instruction : Instruction}
    (denotes : Denotes symbols address opcode operands instruction)
    (selects : Selects opcode operands names) :
    ∀ name ∈ names, ∃ register, Names register name.trim := by
  have read : ∀ name ∈ names, ∃ register, Register.ofName name = .ok register := by
    cases selects with
    | registers =>
      cases denotes with
      | registers _ one two three => simp [one, two, three]
    | complement =>
      cases denotes with
      | complement one two => simp [one, two]
      | immediate form => cases form
    | immediate form =>
      cases denotes with
      | complement => cases form
      | immediate _ one => simp [one]
  intro name member
  obtain ⟨register, found⟩ := read name member
  exact ⟨register, names_of_ofName found⟩

private theorem registerOperand_of_names {name : Text} {register : Register}
    (named : Names register name.trim) : registerOperand name = .ok register := by
  rw [registerOperand, ofName_eq_ok_iff.mpr named]

private theorem registerOperand_of_not_names {name : Text}
    (unnamed : ∀ register, ¬Names register name.trim) :
    registerOperand name = .error (.unknownRegister name) := by
  rw [registerOperand, ofName_of_not_names unnamed]

/-- Before anything else of an instruction its registers are read, from first to last. -/
theorem Selects.instructionOf_eq {opcode : Opcode} {operands names : List Text}
    (selects : Selects opcode operands names) (symbols : Symbols) (address : Nat) :
    ∃ next, instructionOf symbols address opcode operands =
      names.mapM registerOperand >>= next := by
  cases selects with
  | registers form =>
    refine ⟨fun read => .ok (Instruction.ofRegisters opcode (read.getD 0 Register.first)
      (read.getD 1 Register.first) (read.getD 2 Register.first)), ?_⟩
    cases opcode <;> cases form <;> simp [instructionOf, Opcode.form]
  | complement =>
    refine ⟨fun read => registerOperand Register.first.name >>= fun r3 =>
      .ok (Instruction.ofRegisters .not (read.getD 0 Register.first) (read.getD 1 Register.first)
        r3), ?_⟩
    simp [instructionOf, Opcode.form]
  | @immediate _ _ operand form =>
    refine ⟨fun read => immediateOperand symbols address opcode operand >>= fun immediate =>
      .ok (Instruction.ofImmediate opcode (read.getD 0 Register.first) immediate), ?_⟩
    simp [instructionOf, form]

private theorem mapM_registerOperand {known later : List Text} {name : Text}
    (named : ∀ other ∈ known, ∃ register, Names register other.trim)
    (unnamed : ∀ register, ¬Names register name.trim) :
    (known ++ name :: later).mapM registerOperand = .error (.unknownRegister name) := by
  induction known with
  | nil =>
    rw [List.nil_append, List.mapM_cons, registerOperand_of_not_names unnamed]
    rfl
  | cons other known ih =>
    obtain ⟨register, names⟩ := named other List.mem_cons_self
    have rest := ih fun later member => named later (List.mem_cons_of_mem _ member)
    rw [List.cons_append, List.mapM_cons, registerOperand_of_names names, rest]
    rfl

/-- The first operand that names no register is what an instruction is refused for. -/
theorem Selects.instructionOf {opcode : Opcode} {operands known later : List Text} {name : Text}
    (selects : Selects opcode operands (known ++ name :: later))
    (named : ∀ other ∈ known, ∃ register, Names register other.trim)
    (unnamed : ∀ register, ¬Names register name.trim) (symbols : Symbols) (address : Nat) :
    Assembly.instructionOf symbols address opcode operands = .error (.unknownRegister name) := by
  obtain ⟨next, same⟩ := selects.instructionOf_eq symbols address
  rw [same, mapM_registerOperand named unnamed]
  rfl

private theorem assemble_of_not_names {source : Text} {layout earlier : Layout}
    {before after : List (Text × Nat)} {line : Text × Nat} {here : Array Word} {opcode : Opcode}
    {operands known later : List Text} {name : Text}
    (first : Layout.empty.addLines (numberedLines source) = .ok layout)
    (split : numberedLines source = before ++ line :: after)
    (reached : Passes layout.symbols before earlier here)
    (carries : Carries line.1 (.instruction opcode operands))
    (selects : Selects opcode operands (known ++ name :: later))
    (named : ∀ other ∈ known, ∃ register, Names register other.trim)
    (unnamed : ∀ register, ¬Names register name.trim) :
    assemble source = .error ⟨line.2, .unknownRegister name⟩ := by
  apply assemble_of_refused first split reached carries
  intro labelled placed address located
  cases located
  have refused := selects.instructionOf named unnamed layout.symbols here.size
  simp only [emitPlaced, emit, refused, bind, Except.bind, Except.mapError]

/-- A text is read as a register if and only if it is a documented name of it, or has a plus sign or
zeros before the number, and no documented name has those. Every other text is unknown. In a source
that assembles each operand that has to name a register does so, and the first one that does not is
what its line is refused for. -/
theorem names_are_documented_or_padded (text source : Text) :
    (∀ register, Register.ofName text = .ok register ↔
      WritesRegister register text.trim ∨ PadsRegister register text.trim) ∧
    (∀ register other, PadsRegister register text.trim → ¬WritesRegister other text.trim) ∧
    ((∀ register, ¬Names register text.trim) → Register.ofName text = .error ⟨text.trim⟩) ∧
    (∀ words line opcode operands names, assemble source = .ok words →
      line ∈ numberedLines source → Carries line.1 (.instruction opcode operands) →
      Selects opcode operands names → ∀ name ∈ names, ∃ register, Names register name.trim) ∧
    ∀ layout before line after earlier here opcode operands known name later,
      Layout.empty.addLines (numberedLines source) = .ok layout →
      numberedLines source = before ++ line :: after → Passes layout.symbols before earlier here →
      Carries line.1 (.instruction opcode operands) →
      Selects opcode operands (known ++ name :: later) →
      (∀ other ∈ known, ∃ register, Names register other.trim) →
      (∀ register, ¬Names register name.trim) →
      assemble source = .error ⟨line.2, .unknownRegister name⟩ := by
  refine ⟨fun register => ofName_eq_ok_iff, fun register other => PadsRegister.not_documented,
    ofName_of_not_names, ?_, ?_⟩
  · intro words line opcode operands names assembled member carries selects
    obtain ⟨layout, output, passes, rfl⟩ := assemble_eq_ok_iff.mp assembled
    obtain ⟨before, after, split⟩ := List.append_of_mem member
    obtain ⟨earlier, instruction, -, denotes, -⟩ := passes.instruction split carries
    exact names_of_denotes denotes selects
  · intro layout before line after earlier here opcode operands known name later first split reached
      carries selects named unnamed
    exact assemble_of_not_names first split reached carries selects named unnamed

def selecting : Text := "add r1, X, r014".toList

def overflowing : Text := "hlt\nadd r1, r16, y".toList

theorem registers_are_named :
    (PadsRegister 14 "r014".toList ∧ ¬WritesRegister 14 "r014".toList) ∧
    Register.ofName " R14\t".toList = .ok 14 ∧
    ((∀ register, ¬Names register "r16".toList) ∧
      Register.ofName "r16".toList = .error ⟨"r16".toList⟩) ∧
    (assemble selecting = .ok [Word.ofNat 0xEF15] ∧ ∃ register, Names register "r014".toList) ∧
    assemble overflowing = .error ⟨2, .unknownRegister "r16".toList⟩ := by
  obtain ⟨read, -, -, -, -⟩ := names_are_documented_or_padded " R14\t".toList []
  obtain ⟨-, apart, -, operand, -⟩ := names_are_documented_or_padded "r014".toList selecting
  obtain ⟨-, -, unknown, -, refused⟩ := names_are_documented_or_padded "r16".toList overflowing
  have padded : PadsRegister 14 "r014".toList := ⟨[], 1, .inr ⟨rfl, Nat.one_pos⟩, by decide⟩
  have unnamed : ∀ register, ¬Names register "r16".toList := by
    intro register named
    have absent : Register.ofName "r16".toList = .error ⟨"r16".toList⟩ := by decide +kernel
    cases absent.symm.trans (ofName_eq_ok_iff.mpr named)
  have assembled : assemble selecting = .ok [Word.ofNat 0xEF15] := by decide +kernel
  refine ⟨⟨padded, apart 14 14 padded⟩, (read 14).mpr (.inl (.inl (by decide))),
    ⟨unnamed, unknown unnamed⟩, ⟨assembled, ?_⟩, ?_⟩
  · exact operand _ (selecting, 1) .add ["r1".toList, "X".toList, "r014".toList] _ assembled
      (by decide +kernel) rfl (.registers rfl) "r014".toList (by decide)
  · have first : Layout.empty.addLines (numberedLines overflowing) = .ok ⟨2, .empty, #[⟨1, .halt⟩,
        ⟨2, .instruction .add ["r1".toList, "r16".toList, "y".toList]⟩]⟩ := rfl
    refine refused _ [("hlt".toList, 1)] ("add r1, r16, y".toList, 2) [] ⟨1, .empty, #[⟨1, .halt⟩]⟩
      #[Word.zero] .add ["r1".toList, "r16".toList, "y".toList] ["r1".toList] "r16".toList
      ["y".toList] first rfl ⟨rfl, rfl⟩ rfl (.registers rfl) ?_ unnamed
    intro other member
    rw [List.mem_singleton.mp member]
    exact ⟨1, .inl (.inl (by decide))⟩

/-- A plus sign before the number is read, although no documented name has one. -/
theorem padded_name_is_read :
    Register.ofName "r+5".toList = .ok 5 ∧
      assemble "not r+5, r005".toList = .ok [Word.ofNat 0x0553] ∧
      ∀ register, ¬WritesRegister register (Text.trim "r+5".toList) := by
  refine ⟨by decide +kernel, by decide +kernel, fun register => ?_⟩
  have padded : PadsRegister 5 "r+5".toList := ⟨['+'], 0, .inl rfl, by decide⟩
  exact padded.not_documented

end Assembly.RegisterName

end WordMachine
