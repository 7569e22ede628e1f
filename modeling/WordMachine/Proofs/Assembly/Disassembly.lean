import WordMachine.Listing
import WordMachine.Proofs.Assembly.Reference

/-! The text of any words assembles to these words. The printer and the assembler meet at the
program that a listing writes down, one item to a word. -/

set_option autoImplicit false

namespace WordMachine.Assembly.Program

/-! ## Operands as they are printed -/

theorem writesDigits_toDigits {base : Nat} (two : 2 ≤ base) (sixteen : base ≤ 16) (value : Nat) :
    WritesDigits base value (Nat.toDigits base value) := by
  have lower : ∀ digit : Fin 16, (Nat.digitChar digit).toLower = Nat.digitChar digit := by decide
  induction value using Nat.strongRecOn with
  | ind value ih =>
    by_cases single : value < base
    · refine ⟨[value], List.cons_ne_nil _ _, ?_, ?_, ?_⟩
      · intro digit member
        rw [List.mem_singleton.mp member]
        exact single
      · rw [Nat.toDigits_of_lt_base single]
        exact congrArg (fun char => [char]) (lower ⟨value, by omega⟩)
      · simp only [List.foldl_cons, List.foldl_nil, Nat.mul_zero, Nat.zero_add]
    · have positive : 0 < value := by omega
      obtain ⟨digits, some, small, same, folded⟩ :=
        ih (value / base) (Nat.div_lt_self positive two)
      have remainder : value % base < base := Nat.mod_lt value (by omega)
      refine ⟨digits ++ [value % base], List.concat_ne_nil _ _, ?_, ?_, ?_⟩
      · intro digit member
        rcases List.mem_append.mp member with before | last
        · exact small digit before
        · rw [List.mem_singleton.mp last]
          exact remainder
      · rw [Nat.toDigits_of_base_le two (by omega), Text.lower_append, same, List.map_append]
        exact congrArg (fun char => digits.map Nat.digitChar ++ [char])
          (lower ⟨_, Nat.lt_of_lt_of_le remainder sixteen⟩)
      · rw [List.foldl_append, folded]
        exact Nat.div_add_mod value base

theorem writesDigits_ten (value : Nat) : WritesDigits 10 value (Nat.toDigits 10 value) :=
  writesDigits_toDigits (by decide) (by decide) value

/-- Zeros in front do not change a number. -/
theorem WritesDigits.zeros {base value : Nat} {text : Text} (positive : 0 < base)
    (written : WritesDigits base value text) (zeros : Nat) :
    WritesDigits base value (List.replicate zeros '0' ++ text) := by
  induction zeros with
  | zero => exact written
  | succ zeros ih =>
    obtain ⟨digits, -, small, same, sum⟩ := ih
    refine ⟨0 :: digits, List.cons_ne_nil _ _, List.forall_mem_cons.mpr ⟨positive, small⟩, ?_, ?_⟩
    · exact congrArg ('0' :: ·) same
    · rw [List.foldl_cons, Nat.mul_zero, Nat.zero_add]
      exact sum

theorem writesNumber_decimal (value : Int) : WritesNumber value (Numeral.decimal value) := by
  rcases Int.natAbs_eq value with same | same
  · have printed : Numeral.decimal value = Nat.toDigits 10 value.natAbs := by
      rw [Numeral.decimal, if_neg (by omega), Numeral.digits]
    rw [printed, same, Int.natAbs_natCast]
    exact .plain (.decimal (writesDigits_ten value.natAbs))
  · by_cases negative : value < 0
    · have printed : Numeral.decimal value = '-' :: Nat.toDigits 10 value.natAbs := by
        rw [Numeral.decimal, if_pos negative, Numeral.digits]
      rw [printed, same, Int.natAbs_neg, Int.natAbs_natCast]
      exact .minus (.decimal (writesDigits_ten value.natAbs))
    · obtain rfl : value = 0 := by omega
      exact .plain (.decimal (writesDigits_ten 0))

private theorem writesRegister_name (register : Register) :
    WritesRegister register register.name := by
  unfold WritesRegister
  revert register
  decide +kernel

/-! ## Words as they are printed -/

/-- The item stands for the word wherever it is put, and the text writes the item. -/
structure Lists (word : Word) (text : Text) (item : Item) : Prop where
  written : WritesItem item text
  words : ∀ labels address next, item.words labels address next = [word]
  encodable : ∀ labels address, item.Encodable labels address
  forward : item.isOrigin = false

private theorem mem_keywords {opcode : Opcode} : opcode.mnemonic.lower ∈ [opcode.mnemonic] := by
  have lower : opcode.mnemonic.lower = opcode.mnemonic := by
    cases opcode <;> decide +kernel
  rw [lower]
  exact List.mem_singleton_self _

private theorem writesOperands_pair {first second : Operand} {one two : Text}
    (head : WritesOperand first one) (last : WritesOperand second two) :
    WritesOperands [first, second] (Text.joinWith [',', ' '] [one, two]) := by
  have written := WritesOperands.cons head gap_nil gap_space (.single last)
  have joined : Text.joinWith [',', ' '] [one, two] = one ++ ',' :: ([' '] ++ two) := by
    simp only [Text.joinWith, List.intercalate_cons_cons, List.intercalate_singleton,
      List.append_assoc, List.cons_append, List.nil_append]
  rw [List.append_nil] at written
  rw [joined]
  exact written

private theorem writesOperands_triple {first second third : Operand} {one two three : Text}
    (head : WritesOperand first one) (middle : WritesOperand second two)
    (last : WritesOperand third three) :
    WritesOperands [first, second, third] (Text.joinWith [',', ' '] [one, two, three]) := by
  have written := WritesOperands.cons head gap_nil gap_space (writesOperands_pair middle last)
  have joined : Text.joinWith [',', ' '] [one, two, three] =
      one ++ ',' :: ([' '] ++ Text.joinWith [',', ' '] [two, three]) := by
    simp only [Text.joinWith, List.intercalate_cons_cons, List.intercalate_singleton,
      List.append_assoc, List.cons_append, List.nil_append]
  rw [List.append_nil] at written
  rw [joined]
  exact written

private theorem writesItem_render {item : Item} {opcode : Opcode} {operands : Text}
    (keywords : item.keywords = [opcode.mnemonic])
    (written : WritesOperands item.operands operands) :
    WritesItem item (opcode.mnemonic ++ [' '] ++ operands) := by
  refine .full ?_ gap_space (List.cons_ne_nil _ _) written
  rw [keywords]
  exact mem_keywords

private theorem lists_registers {opcode : Opcode} (form : opcode.form = .registers)
    (r1 r2 r3 : Register) (runs : ¬IsHaltWord (Instruction.ofRegisters opcode r1 r2 r3).encode) :
    ∃ item, Lists (Instruction.ofRegisters opcode r1 r2 r3).encode
      (Instruction.ofRegisters opcode r1 r2 r3).render item := by
  have register : ∀ register : Register, WritesOperand (.register register) register.name :=
    fun register => .register (writesRegister_name register)
  have word := Instruction.encode_ofRegisters form r1 r2 r3
  rw [word] at runs ⊢
  by_cases short : opcode = .not ∧ r3 = Register.first
  · obtain ⟨rfl, rfl⟩ := short
    refine ⟨.complement r1 r2, ?_, fun _ _ _ => rfl, fun _ _ => runs, rfl⟩
    exact writesItem_render rfl (writesOperands_pair (register r1) (register r2))
  · refine ⟨.registers opcode form r1 r2 r3, ?_, fun _ _ _ => rfl, fun _ _ => runs, rfl⟩
    have printed : (Instruction.ofRegisters opcode r1 r2 r3).render = opcode.mnemonic ++ [' '] ++
        Text.joinWith [',', ' '] [r1.name, r2.name, r3.name] := by
      have operation : (Instruction.ofRegisters opcode r1 r2 r3).opcode.form = .registers := form
      have long : ¬((Instruction.ofRegisters opcode r1 r2 r3).opcode = .not ∧
          (Instruction.ofRegisters opcode r1 r2 r3).r3 = Register.first) := short
      simp only [Instruction.render, operation, if_neg long]
      rfl
    rw [printed]
    exact writesItem_render rfl
      (writesOperands_triple (register r1) (register r2) (register r3))

private theorem lists_immediate {opcode : Opcode} (form : opcode.form = .immediate)
    (register : Register) {value : Int} (fits : -128 ≤ value ∧ value ≤ 127)
    (runs : ¬IsHaltWord (Instruction.ofImmediate opcode register (Word.ofInt value)).encode) :
    ∃ item, Lists (Instruction.ofImmediate opcode register (Word.ofInt value)).encode
      (Instruction.ofImmediate opcode register (Word.ofInt value)).render item := by
  have same : (Word.ofInt value).toInt = value := by
    rw [Word.toInt_ofInt]
    exact Int.bmod_eq_of_le (by omega) (by omega)
  have printed : (Instruction.ofImmediate opcode register (Word.ofInt value)).render =
      opcode.mnemonic ++ [' '] ++
        Text.joinWith [',', ' '] [register.name, Numeral.decimal value] := by
    simp only [Instruction.render, Instruction.ofImmediate, form, Word.decimal, same]
  have word := Instruction.encode_ofImmediate form register value
  rw [printed, word]
  rw [word] at runs
  refine ⟨.immediate opcode form register value, ?_, fun _ _ _ => rfl, fun _ _ => ⟨fits, runs⟩,
    rfl⟩
  exact writesItem_render rfl (writesOperands_pair (.register (writesRegister_name register))
    (.value (.number (writesNumber_decimal value))))

private theorem lists_directive {item : Item} {keyword operand : Text} {value : Int} {word : Word}
    (known : keyword.lower ∈ item.keywords) (operands : item.operands = [.value (.number value)])
    (written : WritesNumber value operand)
    (words : ∀ labels address next, item.words labels address next = [word])
    (encodable : ∀ labels address, item.Encodable labels address)
    (forward : item.isOrigin = false) :
    Lists word (keyword ++ [' '] ++ operand) item := by
  refine ⟨.full known gap_space (List.cons_ne_nil _ _) ?_, words, encodable, forward⟩
  rw [operands]
  exact .single (.value (.number written))

theorem lists_line (word : Word) : ∃ item, Lists word (Listing.line word) item := by
  have halts := ExitCode.ofWord?_isSome_iff word
  rw [Listing.line]
  cases found : ExitCode.ofWord? word with
  | none =>
    rw [found] at halts
    have runs : ¬IsHaltWord word := fun halt => Bool.false_ne_true (halts.mpr halt)
    have whole := Instruction.encode_decode word
    rcases Instruction.decode_cases word with
      ⟨opcode, r1, r2, r3, form, same⟩ | ⟨opcode, register, value, form, fits, same⟩
    · rw [same] at whole
      rw [same, ← whole]
      exact lists_registers form r1 r2 r3 (whole.symm ▸ runs)
    · rw [same] at whole
      rw [same, ← whole]
      exact lists_immediate form register fits (whole.symm ▸ runs)
  | some code =>
    obtain ⟨number, range⟩ := ExitCode.toNat_of_ofWord? found
    obtain rfl : word = Word.ofNat (0x1000 * code.digit) := by
      apply Word.toNat_injective
      rw [Word.toNat_ofNat, ← number, Nat.mod_eq_of_lt word.toNat_lt]
    cases code with
    | noInstructions =>
      exact ⟨.halt, .bare (by decide +kernel) rfl, fun _ _ _ => rfl, fun _ _ => trivial, rfl⟩
    | divisionByZero =>
      have printed : ".word 0x1000".toList =
          ".word".toList ++ [' '] ++ ('0' :: 'x' :: "1000".toList) := by
        decide +kernel
      have number : WritesNumber 0x1000 ('0' :: 'x' :: "1000".toList) :=
        .plain (.hexadecimal rfl ⟨[1, 0, 0, 0], by decide, by decide, by decide +kernel, rfl⟩)
      refine ⟨.data (.number 0x1000), printed ▸ ?_⟩
      exact lists_directive (by decide +kernel) rfl number (fun _ _ _ => rfl)
        (fun _ _ => ⟨0x1000, rfl, by decide⟩) rfl
    | custom digit =>
      have inside := range digit rfl
      have printed : "exit ".toList = "exit".toList ++ [' '] := by decide +kernel
      have words : Word.ofInt (0x1000 * (digit.toNat : Int)) =
          Word.ofNat (0x1000 * (ExitCode.custom digit).digit) := by
        apply Word.toNat_injective
        rw [Word.toNat_ofInt, Word.toNat_ofNat, ExitCode.digit]
        omega
      refine ⟨.exit digit.toNat, ?_⟩
      rw [← words]
      simp only [printed]
      exact lists_directive (by simp only [Item.keywords]; decide +kernel) rfl
        (.plain (.decimal (writesDigits_ten digit.toNat))) (fun _ _ _ => rfl)
        (fun _ _ => ⟨by omega, by omega⟩) rfl

/-! ## Listings -/

section Listings

variable {item : Word → Item} (lists : ∀ word, Lists word (Listing.line word) (item word))

include lists

private theorem writesLines_listing (words : List Word) :
    WritesLines (words.map fun word => ⟨none, some (item word)⟩) (words.map Listing.line) := by
  induction words with
  | nil => exact .nil
  | cons word words ih =>
    refine .line ?_ ih
    have written : WritesLine ⟨none, some (item word)⟩ _ :=
      .parts gap_nil .nothing gap_nil (.item (lists word).written) gap_nil .nothing
    simpa only [List.nil_append, List.append_nil] using written

theorem wordsFrom_listing (labels : Labels) (outline : Outline) (words : List Word) :
    wordsFrom labels outline (words.map fun word => ⟨none, some (item word)⟩) = words := by
  induction words generalizing outline with
  | nil => rfl
  | cons word words ih =>
    rw [List.map_cons, wordsFrom, ih]
    simp only [(lists word).words, List.singleton_append]

theorem wellFormed_listing (words : List Word) :
    WellFormed (words.map fun word => ⟨none, some (item word)⟩) := by
  have fromWord : ∀ before line after found,
      words.map (fun word => (⟨none, some (item word)⟩ : Line)) = before ++ line :: after →
      line.item? = some found → ∃ word, found = item word := by
    intro before line after found same has
    have member : line ∈ words.map fun word => (⟨none, some (item word)⟩ : Line) := by
      rw [same]
      exact List.mem_append_right before List.mem_cons_self
    obtain ⟨word, -, rfl⟩ := List.mem_map.mp member
    cases has
    exact ⟨word, rfl⟩
  constructor
  · have unlabelled : (words.map fun word => (⟨none, some (item word)⟩ : Line)).filterMap
        Line.label? = [] := by
      rw [List.filterMap_map, List.filterMap_eq_nil_iff]
      intro word _
      rfl
    rw [unlabelled]
    exact .nil
  · intro before line after target same has
    obtain ⟨word, origin⟩ := fromWord before line after _ same has
    have forward := (lists word).forward
    rw [← origin] at forward
    cases forward
  · intro before line after found same has
    obtain ⟨word, rfl⟩ := fromWord before line after _ same has
    exact (lists word).encodable _ _

end Listings

/-- Any words, printed one to a line, are assembled again. -/
theorem assemble_joinWith_line (words : List Word) :
    assemble (Text.joinWith ['\n'] (words.map Listing.line)) = .ok words := by
  obtain ⟨item, lists⟩ := Classical.skolem.mp lists_line
  have written : Writes (words.map fun word => ⟨none, some (item word)⟩)
      (Text.joinWith ['\n'] (words.map Listing.line)) :=
    ⟨words.map Listing.line, writesLines_listing lists words, rfl⟩
  rw [(assemble_succeeds written).eq_ok_iff]
  exact ⟨wellFormed_listing lists words, (wordsFrom_listing lists _ _ words).symm⟩

end WordMachine.Assembly.Program
