import WordMachine.Machine

/-!
One cycle of the machine: fetch the word at the program counter, halt if it is an exit code, and
otherwise execute the instruction it stands for.
-/

set_option autoImplicit false

namespace WordMachine.Machine

variable {Device : Type}

/-- What a step leaves behind: the machine, and the executed instruction, none for an exit code. -/
structure Stepped (Device : Type) where
  machine : Machine Device
  result : Except Fault (Option Instruction)

/-- What an instruction leaves behind: the machine, and the fault if it could not be completed. -/
structure Executed (Device : Type) where
  machine : Machine Device
  fault? : Option Fault

def combine (machine : Machine Device) (instruction : Instruction)
    (operation : Word → Word → Word) : Executed Device :=
  let result := operation (machine.registers.read instruction.r2)
    (machine.registers.read instruction.r3)
  ⟨(machine.writeRegister instruction.r1 result).advance, none⟩

/-- Executes an instruction. A division by zero halts where it stands; a branch that is taken moves
the program counter by itself. -/
def execute [Peripheral Device] (machine : Machine Device) (instruction : Instruction) :
    Executed Device :=
  match instruction.opcode with
  | .and => machine.combine instruction (· &&& ·)
  | .or => machine.combine instruction (· ||| ·)
  | .xor => machine.combine instruction (· ^^^ ·)
  | .not =>
    let complement := ~~~machine.registers.read instruction.r2
    ⟨(machine.writeRegister instruction.r1 complement).advance, none⟩
  | .sh => machine.combine instruction Word.shift
  | .add => machine.combine instruction (· + ·)
  | .sub => machine.combine instruction (· - ·)
  | .mul => machine.combine instruction (· * ·)
  | .div =>
    match (machine.registers.read instruction.r2).div? (machine.registers.read instruction.r3) with
    | some quotient => ⟨(machine.writeRegister instruction.r1 quotient).advance, none⟩
    | none => ⟨machine.halt .divisionByZero, none⟩
  | .comp => machine.combine instruction Word.comparison
  | .li => ⟨(machine.writeRegister instruction.r2 instruction.immediate).advance, none⟩
  | .amc =>
    let delta := machine.registers.read instruction.r2 + instruction.immediate
    ⟨(machine.moveMemoryCounter delta.toInt).advance, none⟩
  | .lwmc =>
    match machine.memory.load (machine.memory.memoryCounter.offset instruction.immediate.toInt) with
    | .ok word => ⟨(machine.writeRegister instruction.r2 word).advance, none⟩
    | .error error => ⟨machine, some (.memory error)⟩
  | .swmc =>
    let address := machine.memory.memoryCounter.offset instruction.immediate.toInt
    let word := machine.registers.read instruction.r2
    match machine.memory.fault? address with
    | none => ⟨{ machine with memory := machine.memory.put address word }.advance, none⟩
    | some error => ⟨machine, some (.memory error)⟩
  | .piu =>
    let reply := Peripheral.perform instruction.immediate instruction.r2 machine.registers
      machine.device
    let answered := { machine with registers := reply.registers, device := reply.device }
    match reply.result with
    | .ok none => ⟨answered.advance, none⟩
    | .ok (some code) => ⟨answered.advance.halt code, none⟩
    | .error error => ⟨answered, some (.peripheral error)⟩
  | .apceq =>
    if (machine.registers.read Register.flag).isZero then
      let delta := instruction.immediate + machine.registers.read instruction.r2
      ⟨machine.moveProgramCounter delta.toInt, none⟩
    else ⟨machine.advance, none⟩

/-- Executes one cycle. An exit code in place of an instruction halts the machine and counts as no
cycle. -/
def step [Peripheral Device] (machine : Machine Device) : Stepped Device :=
  match machine.status with
  | .halted code => ⟨machine, .error (.notRunning code)⟩
  | .running =>
    match machine.memory.load machine.memory.programCounter.value with
    | .error error => ⟨machine, .error (.memory error)⟩
    | .ok word =>
      match ExitCode.ofWord? word with
      | some code => ⟨machine.halt code, .ok none⟩
      | none =>
        let instruction := Instruction.decode word
        let executed := machine.execute instruction
        match executed.fault? with
        | some fault => ⟨executed.machine, .error fault⟩
        | none =>
          let counted :=
            { executed.machine with
              cycles := executed.machine.cycles + 1
              last? := some instruction }
          ⟨counted, .ok (some instruction)⟩

end WordMachine.Machine
