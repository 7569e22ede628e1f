import Mathlib
import WordMachine.Machine.Step

/-! What a step can do. Instructions are put together by what they change, so that a property of
machines is checked once for each kind of change and not once for each operation. -/

set_option autoImplicit false

namespace WordMachine

theorem Memory.fault?_of_load {memory : Memory} {address : Nat} {error : MemoryError}
    (failed : memory.load address = .error error) : memory.fault? address = some error := by
  rw [load] at failed
  cases found : memory.cells[address]? with
  | some word =>
    rw [found] at failed
    cases failed
  | none =>
    rw [found] at failed
    cases failed
    have outside : ¬address < memory.capacity := by simpa [capacity] using found
    rw [fault?, if_neg outside]

namespace Machine

variable {Device : Type}

def answer (machine : Machine Device) (reply : Reply Device) : Machine Device :=
  { machine with registers := reply.registers, device := reply.device }

/-- The address of a data access. -/
def target (machine : Machine Device) (instruction : Instruction) : Nat :=
  machine.memory.memoryCounter.offset instruction.immediate.toInt

def put (machine : Machine Device) (address : Nat) (word : Word) : Machine Device :=
  { machine with memory := machine.memory.put address word }

def count (machine : Machine Device) (instruction : Instruction) : Machine Device :=
  { machine with cycles := machine.cycles + 1, last? := some instruction }

/-- The machine runs and the word at its program counter stands for the instruction. -/
structure Executes (machine : Machine Device) (instruction : Instruction) : Prop where
  running : machine.status = .running
  fetched : ∃ word, machine.memory.load machine.memory.programCounter.value = .ok word ∧
    ExitCode.ofWord? word = none ∧ Instruction.decode word = instruction

/-- The machine runs and the word at its program counter is an exit code. -/
structure Exits (machine : Machine Device) (code : ExitCode) : Prop where
  running : machine.status = .running
  fetched : ∃ word, machine.memory.load machine.memory.programCounter.value = .ok word ∧
    ExitCode.ofWord? word = some code

variable [Peripheral Device]

/-! ## Instructions -/

def reply (machine : Machine Device) (instruction : Instruction) : Reply Device :=
  Peripheral.perform instruction.immediate instruction.r2 machine.registers machine.device

inductive Effect (machine : Machine Device) (instruction : Instruction) :
    Executed Device → Prop where
  | write (register : Register) (word : Word) :
      Effect machine instruction ⟨(machine.writeRegister register word).advance, none⟩
  | moveBase (delta : Int) :
      Effect machine instruction ⟨(machine.moveMemoryCounter delta).advance, none⟩
  | jump (delta : Int) : Effect machine instruction ⟨machine.moveProgramCounter delta, none⟩
  | store (word : Word) :
      Effect machine instruction ⟨(machine.put (machine.target instruction) word).advance, none⟩
  | outside {error : MemoryError} :
      machine.memory.fault? (machine.target instruction) = some error →
      Effect machine instruction ⟨machine, some (.memory error)⟩
  | divideByZero :
      instruction.opcode = .div → Effect machine instruction ⟨machine.halt .divisionByZero, none⟩
  | answered :
      instruction.opcode = .piu → (machine.reply instruction).result = .ok none →
      Effect machine instruction ⟨(machine.answer (machine.reply instruction)).advance, none⟩
  | requested {code : ExitCode} :
      instruction.opcode = .piu → (machine.reply instruction).result = .ok (some code) →
      Effect machine instruction
        ⟨(machine.answer (machine.reply instruction)).advance.halt code, none⟩
  | refused {error : PeripheralError} :
      instruction.opcode = .piu → (machine.reply instruction).result = .error error →
      Effect machine instruction
        ⟨machine.answer (machine.reply instruction), some (.peripheral error)⟩

theorem effect_execute (machine : Machine Device) (instruction : Instruction) :
    Effect machine instruction (machine.execute instruction) := by
  obtain ⟨opcode, r1, r2, r3, immediate⟩ := instruction
  cases opcode with
  | and | or | xor | not | sh | add | sub | mul | comp | li => exact .write _ _
  | amc => exact .moveBase _
  | div =>
    simp only [execute]
    split
    next quotient _ => exact .write r1 quotient
    next => exact .divideByZero rfl
  | lwmc =>
    simp only [execute]
    split
    next word _ => exact .write r2 word
    next failed => exact .outside (Memory.fault?_of_load failed)
  | swmc =>
    simp only [execute]
    split
    next => exact .store _
    next failed => exact .outside failed
  | piu =>
    simp only [execute]
    split
    next replied => exact .answered rfl replied
    next replied => exact .requested rfl replied
    next replied => exact .refused rfl replied
  | apceq =>
    simp only [execute]
    split
    next => exact .jump _
    next => exact .jump 1

/-- Only a division and a request to the device can halt the machine. -/
theorem opcode_of_halts {machine : Machine Device} {instruction : Instruction}
    (running : machine.isRunning = true)
    (halted : (machine.execute instruction).machine.isRunning = false) :
    instruction.opcode = .div ∨ instruction.opcode = .piu := by
  have effect := effect_execute machine instruction
  generalize machine.execute instruction = executed at effect halted
  cases effect with
  | write | moveBase | jump | store | outside =>
    have still : machine.isRunning = false := halted
    rw [running] at still
    cases still
  | divideByZero division => exact .inl division
  | answered request | requested request | refused request => exact .inr request

/-! ## Steps -/

inductive StepsTo (machine : Machine Device) : Stepped Device → Prop where
  | halted {code : ExitCode} :
      machine.status = .halted code → StepsTo machine ⟨machine, .error (.notRunning code)⟩
  | outside {error : MemoryError} :
      machine.status = .running →
      machine.memory.fault? machine.memory.programCounter.value = some error →
      StepsTo machine ⟨machine, .error (.memory error)⟩
  | exit {code : ExitCode} : machine.Exits code → StepsTo machine ⟨machine.halt code, .ok none⟩
  | fault {instruction : Instruction} {fault : Fault} :
      machine.Executes instruction → (machine.execute instruction).fault? = some fault →
      StepsTo machine ⟨(machine.execute instruction).machine, .error fault⟩
  | complete {instruction : Instruction} :
      machine.Executes instruction → (machine.execute instruction).fault? = none →
      StepsTo machine
        ⟨(machine.execute instruction).machine.count instruction, .ok (some instruction)⟩

theorem stepsTo_step (machine : Machine Device) : StepsTo machine machine.step := by
  rw [step]
  cases status : machine.status with
  | halted code => exact .halted status
  | running =>
    cases loaded : machine.memory.load machine.memory.programCounter.value with
    | error error => exact .outside status (Memory.fault?_of_load loaded)
    | ok word =>
      cases exits : ExitCode.ofWord? word with
      | some code =>
        simp only [exits]
        exact .exit ⟨status, word, loaded, exits⟩
      | none =>
        have executes : machine.Executes (Instruction.decode word) :=
          ⟨status, word, loaded, exits, rfl⟩
        simp only [exits]
        cases ended : (machine.execute (Instruction.decode word)).fault? with
        | some fault => exact .fault executes ended
        | none => exact .complete executes ended

theorem Executes.step_eq {machine : Machine Device} {instruction : Instruction}
    (executes : machine.Executes instruction) :
    machine.step = match (machine.execute instruction).fault? with
      | some fault => ⟨(machine.execute instruction).machine, .error fault⟩
      | none =>
        ⟨(machine.execute instruction).machine.count instruction, .ok (some instruction)⟩ := by
  obtain ⟨running, word, loaded, runs, rfl⟩ := executes
  simp only [step, running, loaded, runs]
  rfl

theorem Executes.result_step {machine : Machine Device} {instruction : Instruction}
    (executes : machine.Executes instruction) (request : instruction.opcode = .piu) :
    machine.step.result = match (machine.reply instruction).result with
      | .ok _ => .ok (some instruction)
      | .error error => .error (.peripheral error) := by
  rw [executes.step_eq, execute, request]
  simp only [reply]
  generalize Peripheral.perform instruction.immediate instruction.r2 machine.registers
    machine.device = reply
  obtain ⟨device, registers, result⟩ := reply
  rcases result with error | _ | code <;> rfl

end Machine

end WordMachine
