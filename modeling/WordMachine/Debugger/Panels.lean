import WordMachine.Debugger
import WordMachine.Screen.Terminal
import WordMachine.Text.Line

/-!
The panels of the debugger's screen: the disassembly around the program counter, the registers, what
happened last, the memory from the row scrolled to, the end of the output, and the keys. They can be
drawn on any terminal.
-/

set_option autoImplicit false

namespace WordMachine.Debugger

open Screen

def withinBorder (size : Nat) : Nat := size - 2

def isBreakpoint (debugger : Debugger) (address : Nat) : Bool :=
  debugger.breakpoints.contains address

/-- The style of a disassembled line: the next instruction stands out most, then breakpoints. -/
def lineStyle (debugger : Debugger) (line : DisassembledLine) : Style :=
  if line.current then ⟨.yellow, true⟩
  else if debugger.isBreakpoint line.address then .ofColor .red
  else .plain

/-- A disassembled line with its marks: a bullet for a breakpoint, an arrow for the next
instruction. -/
def lineText (debugger : Debugger) (line : DisassembledLine) : Text :=
  [if debugger.isBreakpoint line.address then '●' else ' ', ' ', if line.current then '▶' else ' ',
    ' '] ++ Numeral.hex4 line.address ++ [':', ' '] ++ line.text

/-- The style of a value: zeros step back. -/
def valueStyle (word : Word) : Style := .ofColor (if word.isZero then .darkGray else .white)

/-- The style of a memory cell: the next instruction stands out most, then the base of data. -/
def cellStyle (debugger : Debugger) (address : Nat) (word : Word) : Style :=
  if address = debugger.programCounter then ⟨.yellow, true⟩
  else if address = debugger.machine.memory.memoryCounter.value then .ofColor .magenta
  else valueStyle word

def lastLines (count : Nat) (text : Text) : List Text :=
  let lines := text.lines
  (Text.joinWith ['\n'] (lines.drop (lines.length - count))).lines

section

variable (terminal : Terminal)

def lineRow (debugger : Debugger) (width : Nat) (line : DisassembledLine) : Row :=
  terminal.item (debugger.lineStyle line) width (debugger.lineText line)

def disassemblyPanel (debugger : Debugger) (width height : Nat) : Panel :=
  { title := " Disassembly ".toList
    border := .ofColor .cyan
    inside := .plain
    rows := (debugger.disassembly (withinBorder height)).map
      (debugger.lineRow terminal (withinBorder width))
    overruns := false }

def registerCells (debugger : Debugger) (register : Register) : Row :=
  let word := debugger.machine.registers.read register
  terminal.cells .plain (register.name.padLeft 3 ++ [':', ' '])
    ++ terminal.cells (valueStyle word) (word.field debugger.radix ++ [' ', ' '])

def counterRow (debugger : Debugger) : Row :=
  let memory := debugger.machine.memory
  terminal.cells .plain "PC: ".toList
    ++ terminal.cells (.ofColor .yellow) (memory.programCounter.format debugger.radix)
    ++ terminal.cells .plain "   MC: ".toList
    ++ terminal.cells (.ofColor .magenta) (memory.memoryCounter.format debugger.radix)

def stateCells (debugger : Debugger) : Row :=
  match debugger.machine.exitCode? with
  | none => terminal.cells (.ofColor .green) "Running".toList
  | some code =>
    terminal.cells (.ofColor .red)
      ("Halted (".toList ++ code.toWord.format debugger.radix ++ ")".toList)

def cycleRow (debugger : Debugger) : Row :=
  terminal.cells .plain "Cycles: ".toList
    ++ terminal.cells (.ofColor .cyan) (Numeral.digits 10 debugger.machine.cycles)
    ++ terminal.cells .plain "   State: ".toList ++ debugger.stateCells terminal

def registersPanel (debugger : Debugger) : Panel :=
  { title := " Registers ".toList
    border := .ofColor .green
    inside := .plain
    rows := RegisterBank.rows.map (fun row => row.flatMap (debugger.registerCells terminal))
      ++ [debugger.counterRow terminal, debugger.cycleRow terminal]
    overruns := false }

def statusPanel (debugger : Debugger) : Panel :=
  let style : Style := .ofColor .white
  { title := " Status ".toList
    border := style
    inside := style
    rows := [terminal.cells style debugger.notice.message.toList]
    overruns := false }

def memoryCells (debugger : Debugger) (address : Nat) (word : Word) : Row :=
  terminal.cells (debugger.cellStyle address word) (word.format debugger.radix ++ [' '])

def memoryRow (debugger : Debugger) (row : Nat) : Row :=
  let first := Memory.rowAddress row
  terminal.cells .plain (Numeral.hex4 first ++ [':', ' '])
    ++ ((debugger.machine.memory.rowWords row).zipIdx first).flatMap fun (word, address) =>
      debugger.memoryCells terminal address word

def memoryPanel (debugger : Debugger) (height : Nat) : Panel :=
  let shown := min (withinBorder height) (debugger.machine.memory.rowCount - debugger.scroll)
  { title := " Memory ".toList
    border := .ofColor .magenta
    inside := .plain
    rows := (List.range' debugger.scroll shown).map (debugger.memoryRow terminal)
    overruns := false }

/-- The end of the output. As many lines as there are rows are wrapped to the width. -/
def outputPanel (debugger : Debugger) (width height : Nat) : Panel :=
  { title := " Output ".toList
    border := .ofColor .blue
    inside := .plain
    rows := (lastLines (withinBorder height) debugger.output).flatMap
      (terminal.wrap (withinBorder width))
    overruns := true }

def helpPanel : Panel :=
  let style : Style := .ofColor .darkGray
  { title := " Help ".toList
    border := style
    inside := style
    rows := ["s: Step  r: Run  p: Pause  b: Breakpoint",
      "x: Reset  ↑↓/PgUp/PgDn: Scroll memory  q: Quit"].map fun line =>
        terminal.cells style line.toList
    overruns := false }

def leftColumn (debugger : Debugger) (width height : Nat) : Column :=
  let columns := terminal.leftWidth width
  let rows := terminal.rest height [9, 3]
  [(rows, debugger.disassemblyPanel terminal columns rows), (9, debugger.registersPanel terminal),
    (3, debugger.statusPanel terminal)]

def rightColumn (debugger : Debugger) (width height : Nat) : Column :=
  let columns := width - terminal.leftWidth width
  let rows := terminal.rest height [8, 4]
  [(rows, debugger.memoryPanel terminal rows), (8, debugger.outputPanel terminal columns 8),
    (4, helpPanel terminal)]

def drawOn (debugger : Debugger) (width height : Nat) : List Row :=
  terminal.draw width (debugger.leftColumn terminal width height)
    (debugger.rightColumn terminal width height)

end

def draw (debugger : Debugger) (width height : Nat) : List Row :=
  debugger.drawOn .standard width height

end WordMachine.Debugger
