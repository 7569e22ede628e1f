import WordMachine.Assembly.Operand

/-!
The layout of a program: which address each label stands for and where each statement goes. It is
found in one pass over the lines, so an origin may name only labels above it.
-/

set_option autoImplicit false

namespace WordMachine.Assembly

structure Placed where
  line : Nat
  statement : Statement Nat

/-- What is known after the lines read so far. -/
structure Layout where
  address : Nat
  symbols : Symbols
  placed : Array Placed

/-- One past the last address that a word can hold. -/
def addressLimit : Nat := 0x10000

/-- The address that an origin goes on at. It lies at or after the address reached. -/
def originTarget (symbols : Symbols) (address : Nat) (operand : Text) : Except Cause Nat := do
  let number? ← number? operand
  if number?.isNone && isName operand && (symbols.address? operand).isNone then
    .error (.malformed (.originTarget operand))
  else do
    let value ← operandValue symbols operand
    if value < 0 ∨ (addressLimit : Int) < value then .error (.valueOutOfRange value)
    else if value.toNat < address then .error (.malformed (.originBackwards value.toNat address))
    else .ok value.toNat

namespace Layout

def empty : Layout := ⟨0, .empty, #[]⟩

def addLabel (layout : Layout) (label : Text) : Except Cause Layout :=
  if isName label then
    match layout.symbols.define? label layout.address with
    | some symbols => .ok { layout with symbols }
    | none => .error (.duplicateLabel label)
  else .error (.malformed (.labelName label))

/-- A statement whose origin has been found, and the address after it. -/
def locate (layout : Layout) : Statement Text → Except Cause (Statement Nat × Nat)
  | .instruction opcode operands => .ok (.instruction opcode operands, layout.address + 1)
  | .data operand => .ok (.data operand, layout.address + 1)
  | .halt => .ok (.halt, layout.address + 1)
  | .exit operand => .ok (.exit operand, layout.address + 1)
  | .origin operand => do
    let target ← originTarget layout.symbols layout.address operand
    .ok (.origin target, target)

def addStatement (layout : Layout) (line : Nat) (text : Text) : Except Cause Layout :=
  if text.isEmpty then .ok layout
  else do
    let statement ← Statement.parse text
    let (statement, address) ← layout.locate statement
    .ok { layout with address, placed := layout.placed.push ⟨line, statement⟩ }

def addText (layout : Layout) (line : Nat) (text : Text) : Except Cause Layout :=
  match splitLabel (stripComment text) with
  | (none, rest) => layout.addStatement line rest
  | (some label, rest) => do
    let labelled ← layout.addLabel label
    labelled.addStatement line rest

def addLine (layout : Layout) (line : Text × Nat) : Except Error Layout :=
  (layout.addText line.2 line.1).mapError fun cause => ⟨line.2, cause⟩

def addLines (layout : Layout) (lines : List (Text × Nat)) : Except Error Layout :=
  lines.foldlM addLine layout

theorem addLines_append (layout : Layout) (before after : List (Text × Nat)) :
    layout.addLines (before ++ after) = layout.addLines before >>= fun middle =>
      middle.addLines after := by
  simp [addLines]

end Layout

end WordMachine.Assembly
