import WordMachine.Proofs.Assembly.Program
import WordMachine.Text.Blank

/-! The ways in which a program may be written down. Only documented spellings are listed: letters
in either case, numbers in three bases, two names for most directives, blanks around everything,
comments, and lines that hold nothing. -/

set_option autoImplicit false

namespace WordMachine.Assembly.Program

/-! ## Operands -/

/-- Digits of a base, the highest first, whose letters may be in either case. -/
def WritesDigits (base value : Nat) (text : Text) : Prop :=
  ∃ digits : List Nat, digits ≠ [] ∧ (∀ digit ∈ digits, digit < base) ∧
    text.lower = digits.map Nat.digitChar ∧
    digits.foldl (fun high digit => base * high + digit) 0 = value

inductive WritesNatural : Nat → Text → Prop where
  | decimal {value : Nat} {text : Text} :
      WritesDigits 10 value text → WritesNatural value text
  | hexadecimal {value : Nat} {text : Text} {mark : Char} :
      mark.toLower = 'x' → WritesDigits 16 value text → WritesNatural value ('0' :: mark :: text)
  | binary {value : Nat} {text : Text} {mark : Char} :
      mark.toLower = 'b' → WritesDigits 2 value text → WritesNatural value ('0' :: mark :: text)

inductive WritesNumber : Int → Text → Prop where
  | plain {value : Nat} {text : Text} : WritesNatural value text → WritesNumber value text
  | plus {value : Nat} {text : Text} : WritesNatural value text → WritesNumber value ('+' :: text)
  | minus {value : Nat} {text : Text} :
      WritesNatural value text → WritesNumber (-(value : Int)) ('-' :: text)

/-- The letter `r` and the register's number, or `x` for the flag. -/
def WritesRegister (register : Register) (text : Text) : Prop :=
  text.lower = 'r' :: Nat.toDigits 10 register.val ∨ (register = Register.flag ∧ text.lower = ['x'])

def WritesLabel (label : Label) (text : Text) : Prop := text.lower = label.name.lower

instance (label : Label) (text : Text) : Decidable (WritesLabel label text) :=
  inferInstanceAs (Decidable (text.lower = label.name.lower))

inductive WritesValue : Value → Text → Prop where
  | number {value : Int} {text : Text} : WritesNumber value text → WritesValue (.number value) text
  | label {label : Label} {text : Text} : WritesLabel label text → WritesValue (.label label) text

inductive Operand where
  | register (register : Register)
  | value (value : Value)

inductive WritesOperand : Operand → Text → Prop where
  | register {register : Register} {text : Text} :
      WritesRegister register text → WritesOperand (.register register) text
  | value {value : Value} {text : Text} : WritesValue value text → WritesOperand (.value value) text

/-! ## Statements -/

/-- The words in lower case that may begin an item. -/
def Item.keywords : Item → List Text
  | registers opcode .. => [opcode.mnemonic]
  | complement .. => [Opcode.not.mnemonic]
  | immediate opcode .. => [opcode.mnemonic]
  | branch .. => [Opcode.apceq.mnemonic]
  | halt => ["halt".toList, "hlt".toList]
  | exit _ => ["exit".toList]
  | data _ => [".word".toList, "dat".toList, "data".toList]
  | origin _ => [".org".toList, "org".toList]

def Item.operands : Item → List Operand
  | registers _ _ r1 r2 r3 => [.register r1, .register r2, .register r3]
  | complement r1 r2 => [.register r1, .register r2]
  | immediate _ _ register value => [.register register, .value (.number value)]
  | branch register target => [.register register, .value (.label target)]
  | halt => []
  | exit digit => [.value (.number digit)]
  | data value => [.value value]
  | origin target => [.value target]

def Gap (text : Text) : Prop := ∀ char ∈ text, Text.isBlank char = true ∧ char ≠ '\n'

/-- Operands with commas between them and any blanks around the commas. -/
inductive WritesOperands : List Operand → Text → Prop where
  | single {operand : Operand} {text : Text} :
      WritesOperand operand text → WritesOperands [operand] text
  | cons {operand : Operand} {operands : List Operand} {text before after rest : Text} :
      WritesOperand operand text → Gap before → Gap after → WritesOperands operands rest →
      WritesOperands (operand :: operands) (text ++ before ++ ',' :: (after ++ rest))

inductive WritesItem (item : Item) : Text → Prop where
  | bare {keyword : Text} :
      keyword.lower ∈ item.keywords → item.operands = [] → WritesItem item keyword
  | full {keyword blanks operands : Text} :
      keyword.lower ∈ item.keywords → Gap blanks → blanks ≠ [] →
      WritesOperands item.operands operands → WritesItem item (keyword ++ blanks ++ operands)

inductive WritesStatement : Option Item → Text → Prop where
  | nothing : WritesStatement none []
  | item {item : Item} {text : Text} : WritesItem item text → WritesStatement (some item) text

/-! ## Lines -/

inductive WritesLabelling : Option Label → Text → Prop where
  | nothing : WritesLabelling none []
  | label {label : Label} {text blanks : Text} :
      WritesLabel label text → Gap blanks → WritesLabelling (some label) (text ++ blanks ++ [':'])

inductive WritesComment : Text → Prop where
  | nothing : WritesComment []
  | comment {text : Text} : '\n' ∉ text → WritesComment (';' :: text)

inductive WritesLine (line : Line) : Text → Prop where
  | parts {margin labelling gap statement trailing comment : Text} :
      Gap margin → WritesLabelling line.label? labelling → Gap gap →
      WritesStatement line.item? statement → Gap trailing → WritesComment comment →
      WritesLine line (margin ++ labelling ++ gap ++ statement ++ trailing ++ comment)

/-- Lines that hold nothing may stand anywhere. -/
inductive WritesLines : Program → List Text → Prop where
  | nil : WritesLines [] []
  | line {line : Line} {program : Program} {text : Text} {texts : List Text} :
      WritesLine line text → WritesLines program texts →
      WritesLines (line :: program) (text :: texts)
  | blank {program : Program} {text : Text} {texts : List Text} :
      WritesLine ⟨none, none⟩ text → WritesLines program texts → WritesLines program (text :: texts)

/-- The text is one of the ways to write the program. A line feed at the end begins an empty
line. -/
def Writes (program : Program) (text : Text) : Prop :=
  ∃ texts, WritesLines program texts ∧ text = Text.joinWith ['\n'] texts

end WordMachine.Assembly.Program
