import WordMachine.Assembly.Operand
import WordMachine.Proofs.Assembly.Writing
import WordMachine.Proofs.Outcome
import WordMachine.Proofs.Text

/-! Operands are read back from every way of writing them. -/

set_option autoImplicit false

namespace WordMachine

/-! ## Digits -/

namespace Numeral

private theorem digitValue?_of_toLower {char : Char} {digit : Nat} (small : digit < 16)
    (same : char.toLower = digit.digitChar) : digitValue? char = some digit := by
  have known : ∀ value : Fin 16, digitValue? (Nat.digitChar value) = some value.val ∧
      digitValue? (Nat.digitChar value).toUpper = some value.val := by decide
  obtain ⟨lower, upper⟩ := known ⟨digit, small⟩
  exact Text.of_toLower (digitValue? · = some digit) same lower upper

private theorem extend?_of_lower {base : Nat} (sixteen : base ≤ 16) {digits : List Nat}
    (small : ∀ digit ∈ digits, digit < base) {text : Text}
    (same : text.lower = digits.map Nat.digitChar) (high : Nat) :
    extend? base high text = some (digits.foldl (fun high digit => base * high + digit) high) := by
  induction digits generalizing text high with
  | nil =>
    obtain rfl : text = [] := List.map_eq_nil_iff.mp same
    rfl
  | cons digit digits ih =>
    obtain ⟨char, rest, rfl, first, others⟩ := List.map_eq_cons_iff.mp same
    have below := small digit List.mem_cons_self
    have read : digit? base char = some digit := by
      rw [digit?, digitValue?_of_toLower (by omega) first, Option.filter_some,
        if_pos (by simpa using below)]
    rw [extend?, read, List.foldl_cons]
    exact ih (fun other member => small other (List.mem_cons_of_mem _ member)) others _

/-- Digits have no sign to be read before them. -/
theorem integer?_of_isAlphanum {base : Nat} {first : Char} {rest : Text}
    (alphanumeric : first.isAlphanum = true) :
    integer? base (first :: rest) = (natural? base (first :: rest)).map Int.ofNat := by
  unfold integer?
  split
  next digits same =>
    cases same
    cases alphanumeric
  next digits same =>
    cases same
    cases alphanumeric
  next => rfl

end Numeral

namespace Assembly.Program

theorem WritesDigits.ne_nil {base value : Nat} {text : Text}
    (written : WritesDigits base value text) : text ≠ [] := by
  obtain ⟨digits, some, -, same, -⟩ := written
  intro same
  subst same
  exact some (List.map_eq_nil_iff.mp same.symm)

/-- What holds of each digit of a base in both letter cases holds of each character. -/
theorem WritesDigits.forall_mem {base value : Nat} {text : Text} {property : Char → Prop}
    (written : WritesDigits base value text)
    (each : ∀ digit < base, property digit.digitChar ∧ property digit.digitChar.toUpper) :
    ∀ char ∈ text, property char := by
  obtain ⟨digits, -, small, same, -⟩ := written
  intro char member
  have lower : char.toLower ∈ digits.map Nat.digitChar := same ▸ List.mem_map_of_mem member
  obtain ⟨digit, digitMember, shape⟩ := List.mem_map.mp lower
  obtain ⟨first, second⟩ := each digit (small digit digitMember)
  exact Text.of_toLower property shape.symm first second

theorem WritesDigits.isAlphanum {base value : Nat} {text : Text} (sixteen : base ≤ 16)
    (written : WritesDigits base value text) : ∀ char ∈ text, char.isAlphanum = true := by
  have known : ∀ digit : Fin 16, (Nat.digitChar digit).isAlphanum = true ∧
      (Nat.digitChar digit).toUpper.isAlphanum = true := by decide
  exact written.forall_mem fun digit below => known ⟨digit, Nat.lt_of_lt_of_le below sixteen⟩

theorem WritesDigits.isDigit {value : Nat} {text : Text} (written : WritesDigits 10 value text) :
    ∀ char ∈ text, char.isDigit = true := by
  have known : ∀ digit : Fin 10, (Nat.digitChar digit).isDigit = true ∧
      (Nat.digitChar digit).toUpper.isDigit = true := by decide
  exact written.forall_mem fun digit below => known ⟨digit, below⟩

theorem WritesDigits.natural? {base value : Nat} {text : Text} (sixteen : base ≤ 16)
    (written : WritesDigits base value text) : Numeral.natural? base text = some value := by
  have present := written.ne_nil
  obtain ⟨digits, -, small, same, rfl⟩ := written
  cases text with
  | nil => exact absurd rfl present
  | cons first rest => exact Numeral.extend?_of_lower sixteen small same 0

/-- One more than the largest number of a signed 64-bit cell. -/
def numberLimit : Nat := 0x8000000000000000

private theorem WritesDigits.int64? {base value : Nat} {text : Text} (sixteen : base ≤ 16)
    (written : WritesDigits base value text) :
    Numeral.int64? base text = if value < numberLimit then some (value : Int) else none := by
  have read := written.natural? sixteen
  have present := written.ne_nil
  have alphanumeric := written.isAlphanum sixteen
  cases text with
  | nil => exact absurd rfl present
  | cons first rest =>
    rw [Numeral.int64?, Numeral.integer?_of_isAlphanum (alphanumeric first List.mem_cons_self),
      read, Option.map_some, Option.filter_some]
    by_cases small : value < numberLimit
    · rw [if_pos small, if_pos]
      · rfl
      · simp only [numberLimit] at small
        simp only [Int.ofNat_eq_natCast, Bool.and_eq_true, decide_eq_true_eq]
        omega
    · rw [if_neg small, if_neg]
      simp only [numberLimit] at small
      simp only [Int.ofNat_eq_natCast, Bool.and_eq_true, decide_eq_true_eq]
      omega

/-! ## Numbers -/

theorem WritesDigits.solid {base value : Nat} {text : Text} (sixteen : base ≤ 16)
    (written : WritesDigits base value text) : Text.Solid text := by
  intro char member
  exact Text.isSolid_of_isAlphanum (written.isAlphanum sixteen char member)

private theorem solid_prefixed {mark letter : Char} {text : Text} (same : mark.toLower = letter)
    (plain : Text.isSolid letter = true) (solid : Text.Solid text) :
    Text.Solid ('0' :: mark :: text) := by
  have marked : Text.isSolid mark = true := Text.isSolid_of_toLower (by rw [same, plain])
  exact List.forall_mem_cons.mpr ⟨rfl, List.forall_mem_cons.mpr ⟨marked, solid⟩⟩

private theorem WritesNatural.solid {value : Nat} {text : Text}
    (written : WritesNatural value text) :
    Text.Solid text := by
  cases written with
  | decimal digits => exact digits.solid (by decide)
  | hexadecimal same digits => exact solid_prefixed same rfl (digits.solid (by decide))
  | binary same digits => exact solid_prefixed same rfl (digits.solid (by decide))

/-- A number begins with a digit. -/
theorem WritesNatural.exists_cons {value : Nat} {text : Text} (written : WritesNatural value text) :
    ∃ first rest, text = first :: rest ∧ first.isDigit = true := by
  cases written with
  | decimal digits =>
    cases text with
    | nil => exact absurd rfl digits.ne_nil
    | cons first rest => exact ⟨first, rest, rfl, digits.isDigit first List.mem_cons_self⟩
  | hexadecimal => exact ⟨'0', _, rfl, rfl⟩
  | binary => exact ⟨'0', _, rfl, rfl⟩

private theorem WritesNatural.magnitude? {value : Nat} {text : Text}
    (written : WritesNatural value text) :
    Assembly.magnitude? text = if value < numberLimit then some (value : Int) else none := by
  cases written with
  | decimal digits =>
    rw [← digits.int64? (by decide)]
    have all := digits.isDigit
    unfold Assembly.magnitude?
    split
    next => exact absurd (all 'x' (by simp)) (by decide)
    next => exact absurd (all 'X' (by simp)) (by decide)
    next => exact absurd (all 'b' (by simp)) (by decide)
    next => exact absurd (all 'B' (by simp)) (by decide)
    next first rest _ _ _ _ => rw [if_pos (all first List.mem_cons_self)]
    next => exact absurd rfl digits.ne_nil
  | @hexadecimal text mark same digits =>
    rw [← digits.int64? (by decide)]
    exact Text.of_toLower (fun mark => Assembly.magnitude? ('0' :: mark :: text) = _) same rfl rfl
  | @binary text mark same digits =>
    rw [← digits.int64? (by decide)]
    exact Text.of_toLower (fun mark => Assembly.magnitude? ('0' :: mark :: text) = _) same rfl rfl

theorem WritesNumber.solid {value : Int} {text : Text} (written : WritesNumber value text) :
    Text.Solid text := by
  cases written with
  | plain natural => exact natural.solid
  | plus natural | minus natural =>
    intro char member
    rcases List.mem_cons.mp member with rfl | member
    · rfl
    · exact natural.solid char member

theorem WritesNumber.ne_nil {value : Int} {text : Text} (written : WritesNumber value text) :
    text ≠ [] := by
  cases written with
  | plain natural =>
    obtain ⟨first, rest, rfl, -⟩ := natural.exists_cons
    exact List.cons_ne_nil first rest
  | plus => exact List.cons_ne_nil _ _
  | minus => exact List.cons_ne_nil _ _

/-- A number is read back if it has at most 64 bits, and otherwise not read at all. -/
theorem WritesNumber.number? {value : Int} {text : Text} (written : WritesNumber value text) :
    Assembly.number? text = .ok (if value.natAbs < numberLimit then some value else none) := by
  rw [Assembly.number?, written.solid.trimmed.trim_eq]
  cases written with
  | plain natural =>
    obtain ⟨first, rest, rfl, digit⟩ := natural.exists_cons
    split
    next same => cases same; cases digit
    next same => cases same; cases digit
    next => rw [natural.magnitude?, Int.natAbs_natCast]
  | plus natural => exact congrArg Except.ok natural.magnitude?
  | @minus value text natural =>
    show negated (Assembly.magnitude? text) = _
    rw [natural.magnitude?, Int.natAbs_neg, Int.natAbs_natCast]
    split
    next => rw [negated, if_neg (by omega)]
    next => rfl

/-- Only a minus sign before the least number that has 64 bits makes one that has more. -/
theorem overflow_of_number? {text : Text} {cause : Cause}
    (failed : Assembly.number? text = .error cause) :
    cause = .overflow ∧ ∃ literal, text.trim = '-' :: literal ∧
      Assembly.magnitude? literal = some (-(numberLimit : Int)) := by
  rw [Assembly.number?] at failed
  split at failed
  next literal minus =>
    unfold negated at failed
    split at failed
    next value read =>
      split at failed
      next least =>
        cases failed
        exact ⟨rfl, literal, minus, least ▸ read⟩
      next => cases failed
    next => cases failed
  next => cases failed
  next => cases failed

private theorem startsName_of_isDigit {first : Char} (digit : first.isDigit = true) :
    startsName first = false := by
  simp only [Char.isDigit, Bool.and_eq_true, decide_eq_true_eq, ge_iff_le,
    UInt32.le_iff_toNat_le, Char.toNat_val, UInt32.reduceToNat, Char.reduceVal] at digit
  simp only [startsName, Char.isAlpha, Char.isUpper, Char.isLower, Bool.or_eq_false_iff,
    Bool.and_eq_false_iff, decide_eq_false_iff_not, ge_iff_le, UInt32.le_iff_toNat_le,
    Char.toNat_val, UInt32.reduceToNat, Char.reduceVal, beq_eq_false_iff_ne]
  refine ⟨⟨by omega, by omega⟩, ?_⟩
  intro same
  subst same
  exact absurd digit (by decide)

theorem WritesNumber.not_isName {value : Int} {text : Text} (written : WritesNumber value text) :
    isName text = false := by
  cases written with
  | plain natural =>
    obtain ⟨first, rest, rfl, digit⟩ := natural.exists_cons
    rw [isName, startsName_of_isDigit digit, Bool.false_and]
  | plus => rfl
  | minus => rfl

/-! ## Names -/

theorem isSolid_of_continuesName {char : Char} (continues : continuesName char = true) :
    Text.isSolid char = true := by
  rcases Bool.or_eq_true_iff.mp continues with alphanumeric | underscore
  · exact Text.isSolid_of_isAlphanum alphanumeric
  · rw [beq_iff_eq.mp underscore]
    rfl

private theorem continuesName_of_startsName {char : Char} (starts : startsName char = true) :
    continuesName char = true := by
  rcases Bool.or_eq_true_iff.mp starts with letter | underscore
  · rw [continuesName, Char.isAlphanum, letter, Bool.true_or, Bool.true_or]
  · rw [continuesName, underscore, Bool.or_true]

private theorem eq_underscore_iff_toLower (char : Char) :
    (char.toLower == '_') = (char == '_') := by
  rw [Bool.eq_iff_iff, beq_iff_eq, beq_iff_eq]
  constructor
  · intro same
    exact Text.of_toLower (· = '_') same rfl (by decide)
  · intro same
    subst same
    rfl

private theorem startsName_toLower (char : Char) : startsName char.toLower = startsName char := by
  rw [startsName, startsName, Char.isAlpha_toLower_eq_isAlpha, eq_underscore_iff_toLower]

private theorem continuesName_toLower (char : Char) :
    continuesName char.toLower = continuesName char := by
  rw [continuesName, continuesName, Text.isAlphanum_toLower, eq_underscore_iff_toLower]

theorem isName_lower (text : Text) : isName text.lower = isName text := by
  cases text with
  | nil => rfl
  | cons first rest =>
    show isName (first.toLower :: Text.lower rest) = _
    rw [isName, isName, startsName_toLower, Text.lower, List.all_map]
    simp only [Function.comp_def, continuesName_toLower]

theorem continuesName_of_mem {text : Text} (named : isName text = true) :
    ∀ char ∈ text, continuesName char = true := by
  cases text with
  | nil => nofun
  | cons first rest =>
    obtain ⟨starts, continues⟩ := Bool.and_eq_true_iff.mp named
    intro char member
    rcases List.mem_cons.mp member with rfl | member
    · exact continuesName_of_startsName starts
    · exact List.all_eq_true.mp continues char member

theorem WritesLabel.isName {label : Label} {text : Text} (written : WritesLabel label text) :
    Assembly.isName text = true := by
  rw [← isName_lower, written, isName_lower, label.valid]

theorem WritesLabel.solid {label : Label} {text : Text} (written : WritesLabel label text) :
    Text.Solid text := fun char member =>
  isSolid_of_continuesName (continuesName_of_mem written.isName char member)

theorem WritesLabel.ne_nil {label : Label} {text : Text} (written : WritesLabel label text) :
    text ≠ [] := by
  intro same
  subst same
  cases written.isName

/-- No name is a number. -/
theorem number?_of_isName {text : Text} (named : isName text = true) :
    number? text = .ok none := by
  have solid : Text.Solid text := fun char member =>
    isSolid_of_continuesName (continuesName_of_mem named char member)
  rw [number?, solid.trimmed.trim_eq]
  cases text with
  | nil => cases named
  | cons first rest =>
    have starts := (Bool.and_eq_true_iff.mp named).1
    have sign : ∀ mark : Char, startsName mark = false → first ≠ mark := by
      intro mark plain same
      subst same
      rw [plain] at starts
      cases starts
    have digit : first.isDigit = false := by
      cases found : first.isDigit with
      | false => rfl
      | true =>
        rw [startsName_of_isDigit found] at starts
        cases starts
    have zero := sign '0' rfl
    unfold magnitude?
    split
    next same => exact absurd (List.cons.inj same).1 (sign '-' rfl)
    next same => exact absurd (List.cons.inj same).1 (sign '+' rfl)
    next =>
      split
      next same => exact absurd (List.cons.inj same).1 zero
      next same => exact absurd (List.cons.inj same).1 zero
      next same => exact absurd (List.cons.inj same).1 zero
      next same => exact absurd (List.cons.inj same).1 zero
      next same =>
        cases same
        rw [digit, if_neg Bool.false_ne_true]
      next => rfl

theorem numberOr_of_some {operand : Text} {value : Int}
    (read : number? operand = .ok (some value)) (other : Except Cause Int) :
    numberOr operand other = .ok value := by
  rw [numberOr, read]
  rfl

theorem numberOr_of_none {operand : Text} (read : number? operand = .ok none)
    (other : Except Cause Int) : numberOr operand other = other := by
  rw [numberOr, read]
  rfl

theorem cases_of_numberOr {operand : Text} {other : Except Cause Int} {value : Int}
    (found : numberOr operand other = .ok value) :
    number? operand = .ok (some value) ∨ number? operand = .ok none ∧ other = .ok value := by
  obtain ⟨number?, read, rest⟩ := ok_of_bind found
  cases number? with
  | some number =>
    cases rest
    exact .inl read
  | none => exact .inr ⟨read, rest⟩

/-! ## Registers -/

theorem WritesRegister.solid {register : Register} {text : Text}
    (written : WritesRegister register text) : Text.Solid text := by
  apply Text.Solid.of_lower
  rcases written with numbered | ⟨-, flag⟩
  · rw [numbered]
    intro char member
    rcases List.mem_cons.mp member with rfl | member
    · rfl
    · have digit := Nat.isDigit_of_mem_toDigits (by decide) (by decide) member
      exact Text.isSolid_of_isAlphanum (by rw [Char.isAlphanum, digit, Bool.or_true])
  · rw [flag]
    intro char member
    rw [List.mem_singleton.mp member]
    rfl

theorem WritesRegister.ne_nil {register : Register} {text : Text}
    (written : WritesRegister register text) : text ≠ [] := by
  intro same
  subst same
  rcases written with numbered | ⟨-, flag⟩
  · cases numbered
  · cases flag

theorem WritesRegister.registerOperand {register : Register} {text : Text}
    (written : WritesRegister register text) :
    Assembly.registerOperand text = .ok register := by
  have known : ∀ register : Register,
      (Numeral.below? 256 (Nat.toDigits 10 register.val)).bind Register.ofNat? = some register := by
    decide
  have trimmed : text.trim = text := written.solid.trimmed.trim_eq
  have read : Register.ofName text = .ok register := by
    rcases written with numbered | ⟨rfl, flag⟩
    · simp only [Register.ofName, trimmed, numbered, known register]
    · simp only [Register.ofName, trimmed, flag]
  rw [Assembly.registerOperand, read]

/-! ## Labels -/

/-- The symbols hold the labels in upper case. -/
def Shows (symbols : Symbols) (labels : Labels) : Prop :=
  symbols.entries = labels.map fun entry => (entry.1.name.upper, entry.2)

theorem Shows.address? {symbols : Symbols} {labels : Labels} (shows : Shows symbols labels)
    {label : Label} {text : Text} (written : WritesLabel label text) :
    symbols.address? text = labels.address? label := by
  have key : text.upper = label.name.upper := Text.upper_eq_upper_iff.mpr written
  rw [Symbols.address?, shows, key]
  clear shows
  induction labels with
  | nil => rfl
  | cons entry labels ih =>
    have same : (label.name.upper == entry.1.name.upper) = entry.1.name.sameName label.name := by
      rw [Bool.eq_iff_iff, beq_iff_eq, Text.upper_eq_upper_iff, Text.sameName_iff]
      exact eq_comm
    rw [List.map_cons, List.lookup_cons, same, ih, Labels.address?, Labels.address?,
      List.find?_cons]
    cases entry.1.name.sameName label.name <;> rfl

/-! ## Values -/

theorem WritesNumber.labelAddress {value : Int} {text : Text} (written : WritesNumber value text)
    (symbols : Symbols) : ∃ cause, Assembly.labelAddress symbols text = .error cause := by
  rw [Assembly.labelAddress, if_neg (by rw [written.not_isName]; exact Bool.false_ne_true)]
  exact ⟨_, rfl⟩

/-- A value is read as the number that it stands for; one that is not read has none, or one with
too many bits for any use. -/
theorem Shows.operandValue {symbols : Symbols} {labels : Labels} (shows : Shows symbols labels)
    {value : Value} {text : Text} (written : WritesValue value text) :
    (∃ number, operandValue symbols text = .ok number ∧ value.resolve? labels = some number) ∨
      ∃ cause, operandValue symbols text = .error cause ∧
        ∀ number, value.resolve? labels = some number → numberLimit ≤ number.natAbs := by
  cases written with
  | @number value text written =>
    have read := written.number?
    rw [Assembly.operandValue]
    by_cases small : value.natAbs < numberLimit
    · rw [if_pos small] at read
      rw [numberOr_of_some read]
      exact .inl ⟨value, rfl, rfl⟩
    · obtain ⟨cause, fails⟩ := written.labelAddress symbols
      rw [if_neg small] at read
      rw [numberOr_of_none read, fails]
      refine .inr ⟨cause, rfl, ?_⟩
      intro number found
      cases found
      exact Nat.not_lt.mp small
  | @label label text written =>
    rw [Assembly.operandValue, numberOr_of_none (number?_of_isName written.isName),
      Assembly.labelAddress, if_pos written.isName, shows.address? written, Value.resolve?]
    cases labels.address? label with
    | none => exact .inr ⟨_, rfl, nofun⟩
    | some address => exact .inl ⟨address, rfl, rfl⟩

/-- The number that a value stands for goes on to what checks it, if only numbers with at most 64
bits can pass. -/
theorem Shows.operandValue_bind {symbols : Symbols} {labels : Labels} (shows : Shows symbols labels)
    {value : Value} {text : Text} (written : WritesValue value text) {Result : Type}
    {next : Int → Except Cause Result} {condition : Int → Prop} {property : Int → Result → Prop}
    (bounded : ∀ number, condition number → number.natAbs < numberLimit)
    (checked : ∀ number, SucceedsWhen (next number) (condition number) (property number)) :
    SucceedsWhen (Assembly.operandValue symbols text >>= next)
      (∃ number, value.resolve? labels = some number ∧ condition number)
      fun result => ∃ number, value.resolve? labels = some number ∧ property number result := by
  rcases shows.operandValue written with ⟨number, read, found⟩ | ⟨cause, fails, large⟩
  · rw [read]
    refine (checked number).congr ?_ fun result has => ⟨number, found, has⟩
    constructor
    · intro holds
      exact ⟨number, found, holds⟩
    · intro known
      obtain ⟨other, same, holds⟩ := known
      rw [found] at same
      cases same
      exact holds
  · rw [fails]
    apply SucceedsWhen.error
    intro known
    obtain ⟨number, found, holds⟩ := known
    exact absurd (bounded number holds) (Nat.not_lt.mpr (large number found))

end Assembly.Program

end WordMachine
