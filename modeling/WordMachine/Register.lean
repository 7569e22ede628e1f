import WordMachine.Radix
import WordMachine.Text.Blank

/-!
The sixteen registers and the bank that holds their words. The last register is the flag that
conditional branches test; it goes by the name `x`.
-/

set_option autoImplicit false

namespace WordMachine

abbrev Register := Fin 16

structure UnknownRegister where
  name : Text
deriving DecidableEq

def UnknownRegister.message (error : UnknownRegister) : String :=
  s!"unknown register: {String.ofList error.name}"

namespace Register

/-- The register that conditional branches test. -/
def flag : Register := 15

/-- The first register, which takes the place of an operand that is not there. -/
def first : Register := ⟨0, by decide⟩

def all : List Register := List.finRange 16

def ofNat? (number : Nat) : Option Register :=
  if inBank : number < 16 then some ⟨number, inBank⟩ else none

def ofBits (bits : BitVec 4) : Register := bits.toFin

def toBits (register : Register) : BitVec 4 := BitVec.ofFin register

def name (register : Register) : Text :=
  if register = flag then ['x'] else 'r' :: Numeral.digits 10 register.val

def inspect (register : Register) : String := s!"Reg({String.ofList register.name})"

/-- Reads a register's name: the flag's, or the letter `r` and a number below sixteen. -/
def ofName (text : Text) : Except UnknownRegister Register :=
  let unknown : Except UnknownRegister Register := .error ⟨text.trim⟩
  match text.trim.lower with
  | ['x'] => .ok flag
  | 'r' :: digits =>
    match (Numeral.below? 256 digits).bind ofNat? with
    | some register => .ok register
    | none => unknown
  | _ => unknown

theorem ofBits_toBits (register : Register) : ofBits register.toBits = register := rfl

theorem toBits_ofBits (bits : BitVec 4) : (ofBits bits).toBits = bits := rfl

end Register

structure RegisterBank where
  slots : Vector Word 16
deriving DecidableEq

namespace RegisterBank

def zeroed : RegisterBank := ⟨Vector.replicate 16 Word.zero⟩

def read (bank : RegisterBank) (register : Register) : Word := bank.slots[register]

def write (bank : RegisterBank) (register : Register) (word : Word) : RegisterBank :=
  ⟨bank.slots.set register word⟩

def words (bank : RegisterBank) : List Word := Register.all.map bank.read

def entry (bank : RegisterBank) (radix : Radix) (register : Register) : Text :=
  register.name.padLeft 3 ++ [':', ' '] ++ (bank.read register).field radix

def rows : List (List Register) :=
  [[0, 1, 2, 3], [4, 5, 6, 7], [8, 9, 10, 11], [12, 13, 14, 15]]

def render (bank : RegisterBank) (radix : Radix) : Text :=
  Text.joinWith ['\n'] (rows.map fun row => Text.joinWith [' ', ' '] (row.map (bank.entry radix)))

def inspect (bank : RegisterBank) : String :=
  let shown := Register.all.filter fun register => !(bank.read register).isZero
  let entries := shown.map fun register =>
    s!"{register.inspect}: {String.ofList (bank.read register).decimal}"
  "\x7b" ++ ", ".intercalate entries ++ "\x7d"

theorem read_write_same (bank : RegisterBank) (register : Register) (word : Word) :
    (bank.write register word).read register = word := by
  simp [read, write]

theorem read_write_other (bank : RegisterBank) {written other : Register} (word : Word)
    (different : written ≠ other) : (bank.write written word).read other = bank.read other := by
  have : written.val ≠ other.val := fun same => different (Fin.ext same)
  simp [read, write, this]

end RegisterBank

end WordMachine
