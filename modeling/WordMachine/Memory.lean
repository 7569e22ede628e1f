import WordMachine.Counter
import WordMachine.Image

/-!
Main memory: an array of words, the program counter and the memory counter. Its size is given in
bytes and fixed from then on. Main statement: a memory of a valid size is well formed, and storing
keeps its size.
-/

set_option autoImplicit false

namespace WordMachine

inductive MemoryError where
  | invalidSize (bytes : Nat)
  | outOfRange (address capacity : Nat)
  | overflow (size available : Nat)
deriving DecidableEq

def MemoryError.message : MemoryError → String
  | invalidSize bytes =>
    s!"{bytes} bytes is not a valid memory size (must be even and non-zero)"
  | outOfRange address capacity =>
    s!"word address {address} doesn't exist inside {capacity} words long memory"
  | overflow size available =>
    s!"program of {size} bytes doesn't fit inside {available} bytes of memory"

/-- The cells with the address of the next instruction and the base address of data accesses. -/
structure Memory where
  cells : Array Word
  programCounter : Counter
  memoryCounter : Counter

namespace Memory

def capacity (memory : Memory) : Nat := memory.cells.size

structure WellFormed (memory : Memory) : Prop where
  program_capacity : memory.programCounter.capacity = memory.capacity
  memory_capacity : memory.memoryCounter.capacity = memory.capacity

/-- A memory of zeros with the program counter at the start and the memory counter in the middle.
The size must be even and not zero. -/
def ofSize (bytes : Nat) : Except MemoryError Memory :=
  let capacity := bytes / 2
  if valid : bytes % 2 = 0 ∧ 0 < capacity then
    .ok
      { cells := Array.replicate capacity Word.zero
        programCounter := Counter.ofNat capacity 0 valid.2
        memoryCounter := Counter.ofNat capacity (capacity / 2) valid.2 }
  else .error (.invalidSize bytes)

def load (memory : Memory) (address : Nat) : Except MemoryError Word :=
  match memory.cells[address]? with
  | some word => .ok word
  | none => .error (.outOfRange address memory.capacity)

def fault? (memory : Memory) (address : Nat) : Option MemoryError :=
  if address < memory.capacity then none else some (.outOfRange address memory.capacity)

/-- The memory with a word put at an address that can be used. -/
def put (memory : Memory) (address : Nat) (word : Word) : Memory :=
  { memory with cells := memory.cells.setIfInBounds address word }

def store (memory : Memory) (address : Nat) (word : Word) : Except MemoryError Memory :=
  match memory.fault? address with
  | none => .ok (memory.put address word)
  | some fault => .error fault

def storeImage (memory : Memory) (address : Nat) : List UInt8 → Except MemoryError Memory
  | [] => .ok memory
  | [high] => memory.store address (Word.ofBytes high 0)
  | high :: low :: rest =>
    match memory.store address (Word.ofBytes high low) with
    | .ok stored => stored.storeImage (address + 1) rest
    | .error error => .error error

/-- Puts a program at the start of the memory. The cells after it keep their words. -/
def loadProgram (memory : Memory) (bytes : List UInt8) : Except MemoryError Memory :=
  let available := memory.capacity * 2
  if bytes.length ≤ available then memory.storeImage 0 bytes
  else .error (.overflow bytes.length available)

def words (memory : Memory) : List Word := memory.cells.toList

def dump (memory : Memory) : List UInt8 := Image.ofWords memory.words

def rowWidth : Nat := 8

/-- The number of rows that show the whole memory; the last one may be short. -/
def rowCount (memory : Memory) : Nat := (memory.capacity + (rowWidth - 1)) / rowWidth

def rowAddress (row : Nat) : Nat := row * rowWidth

def rowWords (memory : Memory) (row : Nat) : List Word :=
  (memory.cells.extract (rowAddress row) (rowAddress row + rowWidth)).toList

def rowText (memory : Memory) (radix : Radix) (row : Nat) : Text :=
  Numeral.hex4 (rowAddress row) ++ [':', ' ']
    ++ Text.joinWith [' '] ((memory.rowWords row).map fun word => word.field radix)

def render (memory : Memory) (radix : Radix) : Text :=
  Text.joinWith ['\n'] ((List.range memory.rowCount).map (memory.rowText radix))

/-- The number of cells that are not zero, the size and the counters, between braces. -/
def inspect (memory : Memory) : String :=
  let nonZero := memory.cells.countP fun word => !word.isZero
  s!"Memory \x7b non_zero_cells: {nonZero}, total_cells: {memory.capacity}, "
    ++ s!"program_counter: {memory.programCounter.inspect}, "
    ++ s!"memory_counter: {memory.memoryCounter.inspect} \x7d"

theorem wellFormed_of_ofSize {bytes : Nat} {memory : Memory} (made : ofSize bytes = .ok memory) :
    memory.WellFormed := by
  simp only [ofSize] at made
  split at made
  · cases made
    constructor <;> simp [Counter.ofNat, capacity]
  · cases made

theorem fault?_eq_none {memory : Memory} {address : Nat} :
    memory.fault? address = none ↔ address < memory.capacity := by
  unfold fault?
  split
  next inRange => exact ⟨fun _ => inRange, fun _ => rfl⟩
  next outside => exact ⟨nofun, fun inRange => absurd inRange outside⟩

theorem capacity_of_store {memory stored : Memory} {address : Nat} {word : Word}
    (done : memory.store address word = .ok stored) : stored.capacity = memory.capacity := by
  unfold store at done
  split at done
  · cases done
    simp [capacity, put]
  · cases done

end Memory

end WordMachine
