import WordMachine.Proofs.Assembly.Refusals

/-! Numbers in assembly text. What is read as a number is a documented one, with one exception: the
digits after the mark of a base may have a sign of their own. -/

set_option autoImplicit false

namespace WordMachine.Assembly.Literal

open Numeral (digitValue? digit? extend? natural? integer? int64?)
open Assembly.Program (WritesDigits WritesNatural WritesNumber numberLimit)

/-! ## Digits -/

private theorem toLower_of_digitValue? {char : Char} {digit : Nat}
    (read : digitValue? char = some digit) : char.toLower = digit.digitChar := by
  have known : ∀ code : Fin 128, ∀ digit ∈ digitValue? (Char.ofNat code),
      (Char.ofNat code).toLower = digit.digitChar := by decide +kernel
  have small : char.toNat < 128 := by
    unfold digitValue? at read
    simp only [Char.le_def, UInt32.le_iff_toNat_le, Char.toNat_val] at read
    split at read
    next inside => exact Nat.lt_of_le_of_lt inside.2 (by decide)
    next =>
      split at read
      next inside => exact Nat.lt_of_le_of_lt inside.2 (by decide)
      next =>
        split at read
        next inside => exact Nat.lt_of_le_of_lt inside.2 (by decide)
        next => cases read
  have same := known ⟨char.toNat, small⟩ digit
  simp only [Char.ofNat_toNat] at same
  exact same read

private theorem writes_of_extend? {base high value : Nat} {text : Text}
    (read : extend? base high text = some value) :
    ∃ digits : List Nat, (∀ digit ∈ digits, digit < base) ∧
      text.lower = digits.map Nat.digitChar ∧
      digits.foldl (fun high digit => base * high + digit) high = value := by
  induction text generalizing high with
  | nil =>
    cases read
    exact ⟨[], nofun, rfl, rfl⟩
  | cons char rest ih =>
    rw [extend?] at read
    split at read
    next digit first =>
      obtain ⟨found, small⟩ := Option.filter_eq_some_iff.mp first
      obtain ⟨digits, below, same, sum⟩ := ih read
      refine ⟨digit :: digits, List.forall_mem_cons.mpr ⟨of_decide_eq_true small, below⟩, ?_, sum⟩
      exact congrArg₂ List.cons (toLower_of_digitValue? found) same
    next => cases read

theorem writesDigits_of_natural? {base value : Nat} {text : Text}
    (read : natural? base text = some value) : WritesDigits base value text := by
  cases text with
  | nil => cases read
  | cons first rest =>
    obtain ⟨digits, below, same, sum⟩ := writes_of_extend? read
    refine ⟨digits, ?_, below, same, sum⟩
    rintro rfl
    cases same

/-! ## Signs after a mark -/

/-- The number has at most 64 bits, one of them for the sign. -/
def Fits (value : Int) : Prop := -(numberLimit : Int) ≤ value ∧ value < numberLimit

instance (value : Int) : Decidable (Fits value) :=
  inferInstanceAs (Decidable (-(numberLimit : Int) ≤ value ∧ value < numberLimit))

inductive SignedDigits (base : Nat) : Int → Text → Prop where
  | plus {value : Nat} {text : Text} :
      WritesDigits base value text → SignedDigits base value ('+' :: text)
  | minus {value : Nat} {text : Text} :
      WritesDigits base value text → SignedDigits base (-(value : Int)) ('-' :: text)

/-- The base that a letter after a zero stands for. -/
inductive Marks : Nat → Char → Prop where
  | hexadecimal {mark : Char} : mark.toLower = 'x' → Marks 16 mark
  | binary {mark : Char} : mark.toLower = 'b' → Marks 2 mark

/-- A mark, and only then the sign of the digits. -/
inductive MarkedSigned : Int → Text → Prop where
  | digits {base : Nat} {value : Int} {text : Text} {mark : Char} :
      Marks base mark → SignedDigits base value text → MarkedSigned value ('0' :: mark :: text)

/-- The number from the mark on, and the one that a first sign before the mark makes of it. -/
inductive LateSigned : Int → Int → Text → Prop where
  | plain {value : Int} {text : Text} : MarkedSigned value text → LateSigned value value text
  | plus {value : Int} {text : Text} :
      MarkedSigned value text → LateSigned value value ('+' :: text)
  | minus {value : Int} {text : Text} :
      MarkedSigned value text → LateSigned value (-value) ('-' :: text)

/-- What may follow a first sign: a documented number without one, or a mark and a signed number. -/
inductive SpellsMagnitude : Int → Text → Prop where
  | natural {number : Nat} {text : Text} : WritesNatural number text → SpellsMagnitude number text
  | marked {value : Int} {text : Text} : MarkedSigned value text → SpellsMagnitude value text

/-- All that is read as a number. -/
inductive Spells : Int → Text → Prop where
  | documented {value : Int} {text : Text} :
      WritesNumber value text → value.natAbs < numberLimit → Spells value text
  | late {inner value : Int} {text : Text} :
      LateSigned inner value text → Fits inner → Fits value → Spells value text

/-- A minus sign before the least number that has 64 bits, which has its own sign after a mark. -/
inductive Overflows : Text → Prop where
  | least {text : Text} :
      MarkedSigned (-(numberLimit : Int)) text → Overflows ('-' :: text)

namespace Marks

variable {base : Nat} {mark : Char}

private theorem sixteen (marks : Marks base mark) : base ≤ 16 := by
  cases marks <;> decide

private theorem isAlphanum (marks : Marks base mark) : mark.isAlphanum = true := by
  rw [← Text.isAlphanum_toLower]
  cases marks with
  | hexadecimal same | binary same =>
    rw [same]
    rfl

private theorem natural {value : Nat} {text : Text} (marks : Marks base mark)
    (written : WritesDigits base value text) : WritesNatural value ('0' :: mark :: text) := by
  cases marks with
  | hexadecimal same => exact .hexadecimal same written
  | binary same => exact .binary same written

theorem magnitude?_eq (marks : Marks base mark) (text : Text) :
    magnitude? ('0' :: mark :: text) = int64? base text := by
  cases marks with
  | hexadecimal same =>
    exact Text.of_toLower (fun mark => magnitude? ('0' :: mark :: text) = _) same rfl rfl
  | binary same =>
    exact Text.of_toLower (fun mark => magnitude? ('0' :: mark :: text) = _) same rfl rfl

end Marks

private theorem SpellsMagnitude.spells {value : Int} {text : Text}
    (spelled : SpellsMagnitude value text) (fits : Fits value) :
    Spells value text ∧ Spells value ('+' :: text) ∧
      (Fits (-value) → Spells (-value) ('-' :: text)) := by
  cases spelled with
  | @natural number text written =>
    have below : (number : Int).natAbs < numberLimit := Int.ofNat_lt.mp fits.2
    have negated : (-(number : Int)).natAbs < numberLimit := by rwa [Int.natAbs_neg]
    exact ⟨.documented (.plain written) below, .documented (.plus written) below,
      fun _ => .documented (.minus written) negated⟩
  | marked written =>
    exact ⟨.late (.plain written) fits fits, .late (.plus written) fits fits,
      .late (.minus written) fits⟩

/-! ## Reading -/

theorem cases_of_integer? {base : Nat} {text : Text} {value : Int}
    (read : integer? base text = some value) :
    (∃ number : Nat, WritesDigits base number text ∧ value = number) ∨
      SignedDigits base value text := by
  unfold integer? at read
  split at read
  next digits =>
    cases found : natural? base digits with
    | none =>
      rw [found] at read
      cases read
    | some number =>
      rw [found] at read
      cases read
      exact .inr (.minus (writesDigits_of_natural? found))
  next digits =>
    obtain ⟨number, found, rfl⟩ := Option.map_eq_some_iff.mp read
    exact .inr (.plus (writesDigits_of_natural? found))
  next =>
    obtain ⟨number, found, rfl⟩ := Option.map_eq_some_iff.mp read
    exact .inl ⟨number, writesDigits_of_natural? found, rfl⟩

theorem int64?_eq_some_iff {base : Nat} {text : Text} {value : Int} :
    int64? base text = some value ↔ integer? base text = some value ∧ Fits value := by
  have bound : (numberLimit : Int) = 0x8000000000000000 := rfl
  rw [int64?, Option.filter_eq_some_iff, Bool.and_eq_true, decide_eq_true_eq, decide_eq_true_eq,
    Fits, bound]

private theorem spellsMagnitude_of_magnitude? {text : Text} {value : Int}
    (read : magnitude? text = some value) : SpellsMagnitude value text ∧ Fits value := by
  have marked : ∀ {base : Nat} {mark : Char} {digits : Text}, Marks base mark →
      int64? base digits = some value →
      SpellsMagnitude value ('0' :: mark :: digits) ∧ Fits value := by
    intro base mark digits marks read
    obtain ⟨found, fits⟩ := int64?_eq_some_iff.mp read
    rcases cases_of_integer? found with ⟨number, written, rfl⟩ | signed
    · exact ⟨.natural (marks.natural written), fits⟩
    · exact ⟨.marked (.digits marks signed), fits⟩
  unfold magnitude? at read
  split at read
  next => exact marked (.hexadecimal rfl) read
  next => exact marked (.hexadecimal (by decide)) read
  next => exact marked (.binary rfl) read
  next => exact marked (.binary (by decide)) read
  next first rest _ _ _ _ =>
    split at read
    next digit =>
      -- A digit comes first, so nothing is left for a sign.
      obtain ⟨found, fits⟩ := int64?_eq_some_iff.mp read
      have alphanumeric : first.isAlphanum = true := by rw [Char.isAlphanum, digit, Bool.or_true]
      rw [Numeral.integer?_of_isAlphanum alphanumeric] at found
      obtain ⟨number, written, rfl⟩ := Option.map_eq_some_iff.mp found
      exact ⟨.natural (.decimal (writesDigits_of_natural? written)), fits⟩
    next => cases read
  next => cases read

private theorem spells_of_number? {text : Text} {value : Int}
    (read : number? text = .ok (some value)) :
    Spells value text.trim := by
  rw [number?] at read
  split at read
  next literal minus =>
    unfold negated at read
    split at read
    next inner found =>
      split at read
      next => cases read
      next least =>
        cases read
        obtain ⟨spelled, fits⟩ := spellsMagnitude_of_magnitude? found
        rw [minus]
        refine (spelled.spells fits).2.2 ?_
        have bound : (numberLimit : Int) = 0x8000000000000000 := rfl
        rw [Fits] at fits ⊢
        omega
    next => cases read
  next literal plus =>
    obtain ⟨spelled, fits⟩ := spellsMagnitude_of_magnitude? (Except.ok.inj read)
    rw [plus]
    exact (spelled.spells fits).2.1
  next =>
    obtain ⟨spelled, fits⟩ := spellsMagnitude_of_magnitude? (Except.ok.inj read)
    exact (spelled.spells fits).1

private theorem SignedDigits.int64? {base : Nat} {value : Int} {text : Text} (sixteen : base ≤ 16)
    (written : SignedDigits base value text) :
    int64? base text = if Fits value then some value else none := by
  have read : integer? base text = some value := by
    cases written with
    | plus digits | minus digits =>
      rw [integer?, digits.natural? sixteen]
      rfl
  by_cases fits : Fits value
  · rw [if_pos fits]
    exact int64?_eq_some_iff.mpr ⟨read, fits⟩
  · rw [if_neg fits, Option.eq_none_iff_forall_ne_some]
    intro other found
    obtain ⟨same, small⟩ := int64?_eq_some_iff.mp found
    cases read.symm.trans same
    exact fits small

private theorem SignedDigits.solid {base : Nat} {value : Int} {text : Text} (sixteen : base ≤ 16)
    (written : SignedDigits base value text) : Text.Solid text := by
  cases written with
  | plus digits | minus digits =>
    exact List.forall_mem_cons.mpr ⟨rfl, digits.solid sixteen⟩

private theorem MarkedSigned.magnitude? {value : Int} {text : Text}
    (written : MarkedSigned value text) :
    magnitude? text = if Fits value then some value else none := by
  cases written with
  | digits marks signed => rw [marks.magnitude?_eq, signed.int64? marks.sixteen]

private theorem MarkedSigned.solid {value : Int} {text : Text} (written : MarkedSigned value text) :
    Text.Solid text := by
  cases written with
  | digits marks signed =>
    have mark := Text.isSolid_of_isAlphanum marks.isAlphanum
    have rest := signed.solid marks.sixteen
    exact List.forall_mem_cons.mpr ⟨rfl, List.forall_mem_cons.mpr ⟨mark, rest⟩⟩

private theorem LateSigned.solid {inner value : Int} {text : Text}
    (written : LateSigned inner value text) :
    Text.Solid text := by
  cases written with
  | plain marked => exact marked.solid
  | plus marked | minus marked => exact List.forall_mem_cons.mpr ⟨rfl, marked.solid⟩

private theorem LateSigned.number? {inner value : Int} {text : Text}
    (written : LateSigned inner value text) :
    number? text =
      if Fits inner then if Fits value then .ok (some value) else .error .overflow
      else .ok none := by
  have unsigned {inner : Int} {text : Text} (marked : MarkedSigned inner text) :
      Except.ok (Assembly.magnitude? text) =
        if Fits inner then if Fits inner then .ok (some inner) else .error Cause.overflow
        else .ok none := by
    rw [marked.magnitude?]
    by_cases fits : Fits inner
    · simp only [if_pos fits]
    · simp only [if_neg fits]
  rw [Assembly.number?, written.solid.trimmed.trim_eq]
  cases written with
  | plain marked =>
    rw [← unsigned marked]
    cases marked
    rfl
  | plus marked => exact unsigned marked
  | @minus text marked =>
    show negated (Assembly.magnitude? text) = _
    rw [marked.magnitude?]
    by_cases fits : Fits inner
    · rw [if_pos fits, if_pos fits, negated]
      have bound : (numberLimit : Int) = 0x8000000000000000 := rfl
      by_cases least : inner = -0x8000000000000000
      · rw [if_pos least, if_neg]
        rw [Fits]
        omega
      · rw [if_neg least, if_pos]
        rw [Fits] at fits ⊢
        omega
    · rw [if_neg fits, if_neg fits, negated]

private theorem number?_trim {text : Text} (solid : Text.Solid text.trim) :
    number? text.trim = number? text := by
  rw [number?, number?, solid.trimmed.trim_eq]

/-! ## The exception -/

private theorem isAlphanum_of_writesNatural {number : Nat} {text : Text}
    (written : WritesNatural number text) : ∀ char ∈ text, char.isAlphanum = true := by
  have marked : ∀ {base : Nat} {mark : Char} {digits : Text}, Marks base mark →
      WritesDigits base number digits →
      ∀ char ∈ '0' :: mark :: digits, char.isAlphanum = true := by
    intro base mark digits marks written
    have rest := written.isAlphanum marks.sixteen
    exact List.forall_mem_cons.mpr ⟨rfl, List.forall_mem_cons.mpr ⟨marks.isAlphanum, rest⟩⟩
  cases written with
  | decimal digits => exact digits.isAlphanum (by decide)
  | hexadecimal same digits => exact marked (.hexadecimal same) digits
  | binary same digits => exact marked (.binary same) digits

/-- A documented number has a sign at most in front. -/
theorem isAlphanum_of_mem_tail {value : Int} {text : Text} (written : WritesNumber value text) :
    ∀ char ∈ text.tail, char.isAlphanum = true := by
  cases written with
  | plain natural =>
    intro char member
    exact isAlphanum_of_writesNatural natural char (List.mem_of_mem_tail member)
  | plus natural | minus natural => exact isAlphanum_of_writesNatural natural

private theorem MarkedSigned.exists_sign {value : Int} {text : Text}
    (written : MarkedSigned value text) :
    ∃ sign ∈ text.tail, sign.isAlphanum = false := by
  cases written with
  | digits _ signed =>
    cases signed with
    | plus => exact ⟨'+', by simp, rfl⟩
    | minus => exact ⟨'-', by simp, rfl⟩

private theorem LateSigned.not_documented {inner value other : Int} {text : Text}
    (written : LateSigned inner value text) : ¬WritesNumber other text := by
  have late : ∃ sign ∈ text.tail, sign.isAlphanum = false := by
    cases written with
    | plain marked => exact marked.exists_sign
    | plus marked | minus marked =>
      obtain ⟨sign, member, foreign⟩ := marked.exists_sign
      exact ⟨sign, List.mem_of_mem_tail member, foreign⟩
  intro documented
  obtain ⟨sign, member, foreign⟩ := late
  exact absurd (isAlphanum_of_mem_tail documented sign member) (foreign ▸ Bool.false_ne_true)

private theorem Spells.fits {value : Int} {text : Text} (spelled : Spells value text) :
    Fits value := by
  cases spelled with
  | documented written small =>
    rw [Fits]
    omega
  | late written _ fits => exact fits

/-- No other text keeps the assembler from saying whether it is a number. -/
theorem number?_eq_error_iff {text : Text} {cause : Cause} :
    number? text = .error cause ↔ cause = .overflow ∧ Overflows text.trim := by
  constructor
  · intro failed
    obtain ⟨overflow, literal, minus, read⟩ := Program.overflow_of_number? failed
    refine ⟨overflow, minus ▸ .least ?_⟩
    obtain ⟨spelled, -⟩ := spellsMagnitude_of_magnitude? read
    generalize least : -(numberLimit : Int) = value at spelled
    cases spelled with
    | natural =>
      simp only [numberLimit] at least
      omega
    | marked written => exact written
  · rintro ⟨rfl, overflows⟩
    generalize trimmed : text.trim = literal at overflows
    cases overflows with
    | least marked =>
      have late := LateSigned.minus marked
      rw [← trimmed] at late
      rw [← number?_trim late.solid, late.number?, if_pos (by decide), if_neg (by decide)]

/-! ## Operands -/

/-- The operand is a number, or the name of a label with an address. -/
def Known (symbols : Symbols) (operand : Text) : Prop :=
  (∃ value, number? operand = .ok (some value)) ∨
    (isName operand = true ∧ ∃ address, symbols.address? operand = some address)

private theorem known_of_operandValue {symbols : Symbols} {operand : Text} {value : Int}
    (found : operandValue symbols operand = .ok value) : Known symbols operand := by
  rcases Program.cases_of_numberOr found with number | ⟨-, rest⟩
  · exact .inl ⟨value, number⟩
  · cases labelled : labelAddress symbols operand with
    | error cause =>
      rw [labelled] at rest
      cases rest
    | ok address =>
      obtain ⟨named, defined⟩ := labelAddress_eq_ok labelled
      exact .inr ⟨named, address, defined⟩

private theorem known_of_originTarget {symbols : Symbols} {operand : Text} {address target : Nat}
    (found : originTarget symbols address operand = .ok target) : Known symbols operand := by
  obtain ⟨number?, -, found⟩ := ok_of_bind found
  split at found
  · cases found
  · obtain ⟨value, read, -⟩ := ok_of_bind found
    exact known_of_operandValue read

private theorem known_of_amounts {symbols : Symbols} {address : Nat} {opcode : Opcode}
    {operand : Text} {value : Int} (amounts : Amounts symbols address opcode operand value) :
    Known symbols operand := by
  cases amounts with
  | number read => exact .inl ⟨value, read⟩
  | distance _ named defined => exact .inr ⟨named, _, defined⟩

private theorem known_of_denotes {symbols : Symbols} {address : Nat} {opcode : Opcode}
    {register operand : Text} {instruction : Instruction} (form : opcode.form = .immediate)
    (denotes : Denotes symbols address opcode [register, operand] instruction) :
    Known symbols operand := by
  cases denotes with
  | complement => cases form
  | immediate _ _ amounts => exact known_of_amounts amounts

/-- The passes find a value for every operand that has to have one. -/
theorem known_of_passes {lines : List (Text × Nat)} {layout : Layout} {output : Array Word}
    (passes : Passes layout.symbols lines layout output) {line : Text × Nat}
    (member : line ∈ lines) {statement : Statement Text} {operand : Text}
    (carries : Carries line.1 statement) (takes : Takes statement operand) :
    Known layout.symbols operand := by
  obtain ⟨before, after, split⟩ := List.append_of_mem member
  obtain ⟨earlier, later, here, next, -, -, agrees⟩ := passes.agrees split
  obtain ⟨more, -, -, adds⟩ := agrees.grows
  have emits := adds statement carries
  cases takes with
  | data | exit =>
    obtain ⟨value, word, found, -⟩ := emits
    exact known_of_operandValue found
  | immediate form =>
    obtain ⟨instruction, word, read, -⟩ := emits
    exact known_of_denotes form (denotes_instructionOf read)
  | origin =>
    -- The first pass has found the target, with the labels up to this line.
    obtain ⟨earlier, later, -, added, rest⟩ := Layout.addLines_split (split ▸ passes.first)
    obtain ⟨labelled, -, places⟩ := Layout.addLine_cases added
    have same := places.symbols_eq
    cases places with
    | nothing empty => exact absurd empty carries.ne_nil
    | statement other located =>
      cases carries.symm.trans other
      obtain ⟨target, found, -⟩ := ok_of_bind located
      rcases known_of_originTarget found with number | ⟨named, address, defined⟩
      · exact .inl number
      · exact .inr ⟨named, address, Layout.address?_addLines rest (same ▸ defined)⟩

/-- Where no sign follows the mark of a base, what is read as a number is exactly a documented one
with at most 64 bits. Where one does, the text is no documented number and is read all the same. No
value has more than 64 bits on the way; where the first sign makes it so, and nowhere else, the
assembler stops. In a source that assembles, every operand with a value is one of these numbers or
the name of a label. -/
theorem numbers_are_documented_or_late_signed (text source : Text) :
    ((∀ inner value, ¬LateSigned inner value text.trim) → ∀ value,
      number? text = .ok (some value) ↔
        WritesNumber value text.trim ∧ value.natAbs < numberLimit) ∧
    (∀ inner value, LateSigned inner value text.trim →
      number? text = (if Fits inner then if Fits value then .ok (some value) else .error .overflow
        else .ok none) ∧ ∀ other, ¬WritesNumber other text.trim) ∧
    (∀ value, magnitude? text = some value → Fits value) ∧
    (∀ value, number? text = .ok (some value) → Fits value) ∧
    (∀ cause, number? text = .error cause ↔ cause = .overflow ∧ Overflows text.trim) ∧
    (∀ number, assemble source = .error ⟨number, .overflow⟩ → OverflowsAt source number) ∧
    ∀ words line statement operand, assemble source = .ok words →
      line ∈ numberedLines source → Carries line.1 statement → Takes statement operand →
      (∃ value, Spells value operand.trim) ∨
        (isName operand = true ∧ ∃ other ∈ numberedLines source, ∃ label,
          labelOf other.1 = some label ∧ label.upper = operand.upper) := by
  refine ⟨?_, ?_, fun _ read => (spellsMagnitude_of_magnitude? read).2,
    fun _ read => (spells_of_number? read).fits, fun _ => number?_eq_error_iff,
    fun _ stopped => (stopsAt_of_assemble stopped).overflows, ?_⟩
  · intro early value
    constructor
    · intro read
      cases spells_of_number? read with
      | documented written small => exact ⟨written, small⟩
      | late written => exact absurd written (early _ _)
    · intro known
      obtain ⟨written, small⟩ := known
      rw [← number?_trim written.solid, written.number?, if_pos small]
  · intro inner value late
    rw [← number?_trim late.solid, late.number?]
    exact ⟨rfl, fun _ => late.not_documented⟩
  · intro words line statement operand assembled member carries takes
    obtain ⟨layout, output, passes, rfl⟩ := assemble_eq_ok_iff.mp assembled
    rcases known_of_passes passes member carries takes with
      ⟨value, read⟩ | ⟨named, address, defined⟩
    · exact .inl ⟨value, spells_of_number? read⟩
    · rcases Layout.exists_labelOf passes.first defined with marked | unknown
      · exact .inr ⟨named, marked⟩
      · cases unknown

def operands : Text := "li r1, -0B11\nhere: dat Here".toList

def least : Text := "0x-8000000000000000".toList

theorem operands_are_documented :
    number? "-0B11".toList = .ok (some (-3)) ∧
    number? least = .ok (some (-(numberLimit : Int))) ∧
    number? ('-' :: least) = .error .overflow ∧ OverflowsAt stopping 2 ∧
    (∀ other, ¬WritesNumber other least) ∧ Fits (-3) ∧ Fits (-(numberLimit : Int)) ∧
    (∃ value, Spells value "-0B11".toList) ∧
    ∃ other ∈ numberedLines operands, ∃ label, labelOf other.1 = some label ∧
      label.upper = "HERE".toList := by
  have written : WritesNumber (-3) "-0B11".toList :=
    .minus (.binary (by decide) ⟨[1, 1], by decide, by decide, by decide, rfl⟩)
  have digits : SignedDigits 16 (-(numberLimit : Int)) (least.drop 2) :=
    .minus ⟨[8, 0, 0, 0, 0, 0, 0, 0, 0, 0, 0, 0, 0, 0, 0, 0], by decide, by decide, rfl, rfl⟩
  have marked : MarkedSigned (-(numberLimit : Int)) least := .digits (.hexadecimal rfl) digits
  have assembled : assemble operands = .ok [Word.ofNat 0xFD1A, Word.ofNat 1] := by
    decide +kernel
  obtain ⟨early, -, -, fits, -, -, operand⟩ :=
    numbers_are_documented_or_late_signed "-0B11".toList operands
  obtain ⟨-, late, magnitude, -, -, stops, -⟩ :=
    numbers_are_documented_or_late_signed least stopping
  obtain ⟨-, -, -, -, overflows, -, -⟩ :=
    numbers_are_documented_or_late_signed ('-' :: least) []
  have read := (early (fun _ _ late => late.not_documented written) (-3)).mpr ⟨written, by decide⟩
  obtain ⟨found, undocumented⟩ := late _ _ (.plain marked)
  refine ⟨read, found, (overflows _).mpr ⟨rfl, .least marked⟩, stops 2 stopsAt_stopping.stopped,
    undocumented, fits (-3) read, magnitude _ (by decide +kernel), ?_, ?_⟩
  · rcases operand _ ("li r1, -0B11".toList, 1) _ "-0B11".toList assembled (by decide +kernel) rfl
      (.immediate rfl) with spelled | ⟨named, -⟩
    · exact spelled
    · cases named
  · rcases operand _ ("here: dat Here".toList, 2) _ "Here".toList assembled (by decide +kernel) rfl
      .data with ⟨value, spelled⟩ | ⟨-, labelled⟩
    · cases spelled with
      | documented written => cases written.not_isName
      | late written => cases written with
        | plain marked => cases marked
    · exact labelled

/-- A sign between the mark and the digits is read, although no documented number has one there. -/
theorem late_sign_is_read :
    number? "0x-5".toList = .ok (some (-5)) ∧ assemble ".word 0x-5".toList = .ok [Word.ofInt (-5)] ∧
      ∀ value, ¬WritesNumber value (Text.trim "0x-5".toList) := by
  refine ⟨by decide +kernel, by decide +kernel, fun value => ?_⟩
  have late : LateSigned (-5) (-5) "0x-5".toList :=
    .plain (.digits (.hexadecimal rfl) (.minus ⟨[5], by decide, by decide, rfl, rfl⟩))
  exact late.not_documented

end WordMachine.Assembly.Literal
