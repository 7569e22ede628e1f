import Mathlib
import WordMachine.Assembly.Literal
import WordMachine.Instruction

/-! Programs apart from the way in which they are written. Their meaning is given by arithmetic:
on addresses, and on the documented fields of an instruction word. Nothing here reads text. -/

set_option autoImplicit false

namespace WordMachine.Assembly.Program

structure Label where
  name : Text
  valid : isName name = true

/-- Labels and the addresses they stand for, the latest first. -/
abbrev Labels := List (Label × Nat)

/-- Letter case does not tell labels apart. -/
def Labels.address? (labels : Labels) (label : Label) : Option Nat :=
  (labels.find? fun entry => entry.1.name.sameName label.name).map (·.2)

inductive Value where
  | number (value : Int)
  | label (label : Label)

def Value.resolve? (labels : Labels) : Value → Option Int
  | number value => some value
  | label name => (labels.address? name).map Int.ofNat

inductive Item where
  | registers (opcode : Opcode) (form : opcode.form = .registers) (r1 r2 r3 : Register)
  | complement (r1 r2 : Register)
  | immediate (opcode : Opcode) (form : opcode.form = .immediate) (register : Register)
      (value : Int)
  | branch (register : Register) (target : Label)
  | halt
  | exit (digit : Int)
  | data (value : Value)
  | origin (target : Value)

def Item.isOrigin : Item → Bool
  | origin _ => true
  | _ => false

structure Line where
  label? : Option Label
  item? : Option Item

end Program

abbrev Program := List Program.Line

namespace Program

/-! ## Addresses -/

/-- What the lines so far fix: the address reached and the labels defined. -/
structure Outline where
  address : Nat
  labels : Labels

namespace Outline

def start : Outline := ⟨0, []⟩

def labelled (outline : Outline) (line : Line) : Labels :=
  match line.label? with
  | none => outline.labels
  | some label => (label, outline.address) :: outline.labels

def next (outline : Outline) (line : Line) : Outline where
  labels := outline.labelled line
  address := match line.item? with
    | none => outline.address
    | some (.origin target) => ((target.resolve? (outline.labelled line)).getD 0).toNat
    | some _ => outline.address + 1

def after (outline : Outline) (lines : List Line) : Outline := lines.foldl next outline

end Outline

def labels (program : Program) : Labels := (Outline.start.after program).labels

/-! ## Words -/

/-- Four fields of four bits: third, second and first register, and the operation. -/
def registersWord (opcode : Opcode) (r1 r2 r3 : Register) : Word :=
  Word.ofNat (0x1000 * r3.val + 0x100 * r2.val + 0x10 * r1.val + opcode.code.toNat)

/-- A signed byte above two fields of four bits: the register and the operation. -/
def immediateWord (opcode : Opcode) (register : Register) (immediate : Int) : Word :=
  Word.ofInt (0x100 * immediate + 0x10 * (register.val : Int) + (opcode.code.toNat : Int))

/-- The words 0x0000, 0x1000, up to 0x9000. -/
def IsHaltWord (word : Word) : Prop := ∃ digit ≤ 9, word = Word.ofNat (0x1000 * digit)

instance (word : Word) : Decidable (IsHaltWord word) :=
  inferInstanceAs (Decidable (∃ digit ≤ 9, word = Word.ofNat (0x1000 * digit)))

def distance (labels : Labels) (target : Label) (address : Nat) : Int :=
  (((labels.address? target).getD 0 : Nat) : Int) - address

/-- The words of an item at an address; an origin fills up to the next one with zeros. -/
def Item.words (labels : Labels) (address next : Nat) : Item → List Word
  | registers opcode _ r1 r2 r3 => [registersWord opcode r1 r2 r3]
  | complement r1 r2 => [registersWord .not r1 r2 Register.first]
  | immediate opcode _ register value => [immediateWord opcode register value]
  | branch register target => [immediateWord .apceq register (distance labels target address)]
  | halt => [Word.ofNat 0]
  | exit digit => [Word.ofInt (0x1000 * digit)]
  | data value => [Word.ofInt ((value.resolve? labels).getD 0)]
  | origin _ => List.replicate (next - address) (Word.ofNat 0)

def wordsFrom (labels : Labels) : Outline → List Line → List Word
  | _, [] => []
  | outline, line :: rest =>
    (match line.item? with
      | none => []
      | some item => item.words labels outline.address (outline.next line).address)
      ++ wordsFrom labels (outline.next line) rest

def words (program : Program) : List Word := wordsFrom program.labels Outline.start program

/-! ## Well-formedness -/

/-- An origin goes on at or after the address reached, no further than words can point. -/
def Value.IsOrigin (target : Value) (labels : Labels) (address : Nat) : Prop :=
  ∃ number : Nat, target.resolve? labels = some number ∧ address ≤ number ∧ number ≤ 0x10000

/-- The operands have values, these fit, and no instruction is a word that halts. -/
def Item.Encodable (labels : Labels) (address : Nat) : Item → Prop
  | registers opcode _ r1 r2 r3 => ¬IsHaltWord (registersWord opcode r1 r2 r3)
  | complement r1 r2 => ¬IsHaltWord (registersWord .not r1 r2 Register.first)
  | immediate opcode _ register value =>
    (-128 ≤ value ∧ value ≤ 127) ∧ ¬IsHaltWord (immediateWord opcode register value)
  | branch register target =>
    ∃ there : Nat, labels.address? target = some there ∧
      (-128 ≤ (there : Int) - address ∧ (there : Int) - address ≤ 127) ∧
      ¬IsHaltWord (immediateWord .apceq register (there - address))
  | halt => True
  | exit digit => 2 ≤ digit ∧ digit ≤ 9
  | data value =>
    ∃ number, value.resolve? labels = some number ∧ -0x8000 ≤ number ∧ number ≤ 0xFFFF
  | origin _ => True

structure WellFormed (program : Program) : Prop where
  /-- No two lines define labels that differ at most in letter case. -/
  unique : (program.filterMap Line.label?).Pairwise fun earlier later =>
    earlier.name.sameName later.name = false
  /-- An origin may name only labels above it or on its own line. -/
  origins : ∀ before line after target, program = before ++ line :: after →
    line.item? = some (.origin target) →
    target.IsOrigin ((Outline.start.after before).labelled line)
      (Outline.start.after before).address
  encodable : ∀ before line after item, program = before ++ line :: after →
    line.item? = some item →
    item.Encodable program.labels (Outline.start.after before).address

end Program

end WordMachine.Assembly
