import WordMachine.Peripheral
import WordMachine.Text.Utf8

/-!
The text console. It keeps the input that has not been read and the output that has been written.
Main statement: a line and what follows it make up the input, so reading a line loses nothing else.
-/

set_option autoImplicit false

namespace WordMachine

structure Console where
  unread : List UInt8
  /-- The bytes written so far, the last one first. -/
  written : List UInt8

namespace Console

inductive Command where
  /-- Writes the register as a line with its signed value. -/
  | writeInt
  /-- Writes the register's low byte. -/
  | writeChar
  /-- Reads a line with a signed number into the register. -/
  | readInt
  /-- Reads a byte into the register, or -1 at the end of the input. -/
  | readChar
  /-- Asks to halt with the custom exit code in the register. -/
  | exit
deriving DecidableEq

def Command.ofWord? (word : Word) : Option Command :=
  match word.toNat with
  | 0 => some .writeInt
  | 1 => some .writeChar
  | 2 => some .readInt
  | 3 => some .readChar
  | 4 => some .exit
  | _ => none

def ofInput (input : List UInt8) : Console := ⟨input, []⟩

def silent : Console := ofInput []

def output (console : Console) : List UInt8 := console.written.reverse

def write (console : Console) (bytes : List UInt8) : Console :=
  { console with written := bytes.reverse ++ console.written }

theorem output_write (console : Console) (bytes : List UInt8) :
    (console.write bytes).output = console.output ++ bytes := by
  rw [output, write, List.reverse_append, List.reverse_reverse, output]

def lineFeed : UInt8 := 0x0A

/-- The bytes of the next line, its end included, and what follows it. -/
def splitLine (input : List UInt8) : List UInt8 × List UInt8 :=
  let line := input.takeWhile (· != lineFeed)
  match input.dropWhile (· != lineFeed) with
  | [] => (line, [])
  | feed :: rest => (line ++ [feed], rest)

def number (line : List UInt8) : Except PeripheralError Word :=
  match Utf8.decode? line with
  | none => .error (.io .notUtf8)
  | some text =>
    match Numeral.int64? 10 text.trim with
    | some value => .ok (Word.ofInt value)
    | none => .error (.invalidInput text.trim)

def requestedExit (word : Word) : Except PeripheralError ExitCode :=
  match ExitCode.ofWord? word with
  | some (.custom digit) => .ok (.custom digit)
  | _ => .error (.invalidExitCode word)

def run (console : Console) (registers : RegisterBank) (register : Register) :
    Command → Reply Console
  | .writeInt =>
    let line := (registers.read register).decimal.map fun char => char.toUInt8
    ⟨console.write (line ++ [lineFeed]), registers, .ok none⟩
  | .writeChar => ⟨console.write [(registers.read register).toBytes.2], registers, .ok none⟩
  | .readInt =>
    let (line, rest) := splitLine console.unread
    let remaining := { console with unread := rest }
    match number line with
    | .ok word => ⟨remaining, registers.write register word, .ok none⟩
    | .error error => ⟨remaining, registers, .error error⟩
  | .readChar =>
    match console.unread with
    | [] => ⟨console, registers.write register (Word.ofInt (-1)), .ok none⟩
    | byte :: rest =>
      ⟨{ console with unread := rest }, registers.write register (Word.ofNat byte.toNat), .ok none⟩
  | .exit =>
    match requestedExit (registers.read register) with
    | .ok code => ⟨console, registers, .ok (some code)⟩
    | .error error => ⟨console, registers, .error error⟩

def perform (command : Word) (register : Register) (registers : RegisterBank) (console : Console) :
    Reply Console :=
  match Command.ofWord? command with
  | some known => console.run registers register known
  | none => ⟨console, registers, .error (.unknownCommand command)⟩

instance : Peripheral Console := ⟨perform⟩

theorem splitLine_append (input : List UInt8) :
    (splitLine input).1 ++ (splitLine input).2 = input := by
  have whole := List.takeWhile_append_dropWhile (p := (· != lineFeed)) (l := input)
  unfold splitLine
  split
  next ended => simpa [ended] using whole
  next feed rest ended => simpa [ended] using whole

end Console

end WordMachine
