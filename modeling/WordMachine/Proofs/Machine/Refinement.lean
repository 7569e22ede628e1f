import WordMachine.Console
import WordMachine.Proofs.Machine.Arithmetic
import WordMachine.Proofs.Machine.Run

/-! Every step of the machine is the one that the table of instructions gives. -/

set_option autoImplicit false

namespace WordMachine

open Table

variable {Device : Type}

/-- The machine without what only the implementation needs: two copies of the memory's size. -/
def Machine.state (machine : Machine Device) : State Device where
  registers := machine.registers
  cells := machine.memory.words
  programCounter := machine.memory.programCounter.value
  memoryCounter := machine.memory.memoryCounter.value
  device := machine.device
  status := machine.status
  cycles := machine.cycles
  last? := machine.last?

namespace Table

/-! ## Decoding -/

private theorem ofBits_eq_selected (word : Word) (position : Nat) :
    Register.ofBits (word.bits.extractLsb' (4 * position) 4) = selected word position := by
  apply Fin.ext
  show (word.bits.extractLsb' (4 * position) 4).toNat = nibble word position
  rw [word.toNat_extractLsb', Nat.pow_mul]
  rfl

private theorem ofInt_immediate (word : Word) :
    Word.mk ((word.bits.extractLsb' 8 8).signExtend 16) = Word.ofInt (immediate word) := by
  have byte : ((word.bits.extractLsb' 8 8).signExtend 16).toInt = immediate word := by
    have bound := word.toNat_lt
    rw [BitVec.toInt_signExtend_of_le (by decide), BitVec.toInt_eq_toNat_bmod,
      word.toNat_extractLsb', immediate, signed, Int.bmod]
    omega
  rw [← byte]
  exact (Word.ofInt_toInt _).symm

private theorem decode_eq_instruction (word : Word) :
    Instruction.decode word = instruction word := by
  have operations : ∀ code : BitVec 4, Opcode.ofCode code = operation code.toNat := by decide
  have forms : ∀ code : BitVec 4,
      (operation code.toNat).form = if code.toNat < 10 then .registers else .immediate := by decide
  have code : (word.bits.extractLsb' 0 4).toNat = nibble word 0 := word.toNat_extractLsb' 0 4
  have form := forms (word.bits.extractLsb' 0 4)
  rw [code] at form
  simp only [Instruction.decode, operations, code, form, instruction]
  by_cases registers : nibble word 0 < 10
  · simp only [if_pos registers, Instruction.ofRegisters, ← ofBits_eq_selected]
    rfl
  · simp only [if_neg registers, Instruction.ofImmediate, ← ofBits_eq_selected, ofInt_immediate]

private theorem instruction_of_registers {word : Word} {code : Nat} (found : nibble word 0 = code)
    (small : code < 10) : instruction word =
      ⟨operation code, selected word 1, selected word 2, selected word 3, Word.ofInt 0⟩ := by
  rw [instruction, found, if_pos small]

private theorem instruction_of_immediate {word : Word} {code : Nat} (found : nibble word 0 = code)
    (large : ¬code < 10) : instruction word =
      ⟨operation code, Register.first, selected word 1, Register.first,
        Word.ofInt (immediate word)⟩ := by
  rw [instruction, found, if_neg large]

private theorem toInt_immediate (word : Word) :
    (Word.ofInt (immediate word)).toInt = immediate word := by
  rw [toInt_ofInt_eq_signed, immediate, signed, signed]
  omega

private theorem ofWord?_eq_exitCode? (word : Word) : ExitCode.ofWord? word = exitCode? word := by
  rw [ExitCode.ofWord?_eq, exitCode?]
  split
  · generalize word.toNat / 0x1000 = high
    rcases high with _ | _ | high
    · rfl
    · rfl
    · show ExitCode.custom? (high + 2) =
        if high + 2 ≤ 9 then some (.custom (UInt8.ofNat (high + 2))) else none
      have least : 2 ≤ high + 2 := Nat.le_add_left 2 high
      simp only [ExitCode.custom?, least, true_and]
  · rfl

/-! ## Parts of a machine -/

/-- The memory is well formed, and the machine is in the state. -/
structure Refines (machine : Machine Device) (state : State Device) : Prop where
  formed : machine.memory.WellFormed
  same : machine.state = state

private theorem length_cells (machine : Machine Device) :
    machine.state.cells.length = machine.memory.capacity := Array.length_toList

private theorem Refines.moveProgramCounter {machine : Machine Device} {state : State Device}
    (refines : Refines machine state) (delta : Int) :
    Refines (machine.moveProgramCounter delta) (state.jump delta) := by
  obtain ⟨formed, rfl⟩ := refines
  refine ⟨⟨formed.program_capacity, formed.memory_capacity⟩, ?_⟩
  have position : machine.memory.programCounter.offset delta =
      machine.state.wrap (machine.state.programCounter + delta) := by
    rw [State.wrap, length_cells, ← formed.program_capacity]
    rfl
  rw [State.jump, ← position]
  rfl

private theorem Refines.advance {machine : Machine Device} {state : State Device}
    (refines : Refines machine state) : Refines machine.advance state.next :=
  refines.moveProgramCounter 1

private theorem offset_memoryCounter {machine : Machine Device} (formed : machine.memory.WellFormed)
    (delta : Int) : machine.memory.memoryCounter.offset delta =
      machine.state.wrap (machine.state.memoryCounter + delta) := by
  rw [State.wrap, length_cells, ← formed.memory_capacity]
  rfl

private theorem Refines.moveMemoryCounter {machine : Machine Device} {state : State Device}
    (refines : Refines machine state) (delta : Int) :
    Refines (machine.moveMemoryCounter delta)
      { state with memoryCounter := state.wrap (state.memoryCounter + delta) } := by
  obtain ⟨formed, rfl⟩ := refines
  refine ⟨⟨formed.program_capacity, formed.memory_capacity⟩, ?_⟩
  rw [← offset_memoryCounter formed]
  rfl

private theorem Refines.writeRegister {machine : Machine Device} {state : State Device}
    (refines : Refines machine state) (register : Register) {word : Word} {value : Int}
    (reduced : Word.ofInt value = word) :
    Refines (machine.writeRegister register word) (state.write register value) := by
  obtain ⟨formed, rfl⟩ := refines
  refine ⟨formed, ?_⟩
  rw [State.write, reduced]
  rfl

private theorem Refines.halt {machine : Machine Device} {state : State Device}
    (refines : Refines machine state) (code : ExitCode) :
    Refines (machine.halt code) (state.halt code) := by
  obtain ⟨formed, rfl⟩ := refines
  exact ⟨formed, rfl⟩

private theorem Refines.answer {machine : Machine Device} {state : State Device}
    (refines : Refines machine state) (registers : RegisterBank) (device : Device) :
    Refines { machine with registers, device } { state with registers, device } := by
  obtain ⟨formed, rfl⟩ := refines
  exact ⟨formed, rfl⟩

private theorem Refines.put {machine : Machine Device} {state : State Device}
    (refines : Refines machine state) (address : Nat) {word : Word} {value : Int}
    (reduced : Word.ofInt value = word) :
    Refines { machine with memory := machine.memory.put address word }
      { state with cells := state.cells.set address (Word.ofInt value) } := by
  obtain ⟨formed, rfl⟩ := refines
  have size : (machine.memory.put address word).capacity = machine.memory.capacity :=
    Array.size_setIfInBounds
  refine ⟨⟨?_, ?_⟩, ?_⟩
  · rw [size]
    exact formed.program_capacity
  · rw [size]
    exact formed.memory_capacity
  · have cells : (machine.memory.put address word).words = machine.memory.words.set address word :=
      Array.toList_setIfInBounds
    rw [reduced, Machine.state, cells]
    rfl

private theorem load_eq {machine : Machine Device} {address : Nat}
    (inside : address < machine.memory.capacity) :
    machine.memory.load address = .ok (machine.state.cells.getD address (Word.ofInt 0)) := by
  have cell : machine.memory.cells[address]? = machine.state.cells[address]? :=
    Array.getElem?_toList.symm
  have found : machine.state.cells[address]? =
      some (machine.state.cells.getD address (Word.ofInt 0)) := by
    have below : address < machine.state.cells.length := by
      rw [length_cells]
      exact inside
    rw [List.getD_eq_getElem?_getD, List.getElem?_eq_getElem below, Option.getD_some]
  rw [Memory.load, cell, found]

/-! ## Rows of the table -/

/-- The machine after an instruction is in the state that the table gives, with the same fault. -/
structure Performs (executed : Machine.Executed Device) (outcome : State Device × Option Fault) :
    Prop where
  refines : Refines executed.machine outcome.1
  fault : executed.fault? = outcome.2

section Rows

variable {machine : Machine Device} {state : State Device} (refines : Refines machine state)

include refines

private theorem toInt_read (register : Register) :
    (machine.registers.read register).toInt = state.read register := by
  obtain ⟨formed, rfl⟩ := refines
  rfl

private theorem combine_performs {word : Word} {opcode : Opcode} {immediate : Word}
    {operation : Word → Word → Word} {row : Int → Int → Int}
    (reduced : ∀ left right : Word,
      Word.ofInt (row left.toInt right.toInt) = operation left right) :
    Performs (machine.combine
      ⟨opcode, selected word 1, selected word 2, selected word 3, immediate⟩ operation)
      (state.operate word row, none) := by
  refine ⟨(refines.writeRegister _ ?_).advance, rfl⟩
  rw [← toInt_read refines, ← toInt_read refines]
  exact reduced _ _

variable [Peripheral Device] {word : Word}

private theorem execute_not (found : nibble word 0 = 3) :
    Performs (machine.execute (instruction word)) (state.execute word) := by
  rw [instruction_of_registers found (by decide), State.execute, found]
  refine ⟨(refines.writeRegister _ ?_).advance, rfl⟩
  rw [← toInt_read refines]
  exact ofInt_complement _

private theorem execute_div (found : nibble word 0 = 8) :
    Performs (machine.execute (instruction word)) (state.execute word) := by
  rw [instruction_of_registers found (by decide), State.execute, found]
  have divisor := toInt_read refines (selected word 3)
  have zero := isZero_iff (machine.registers.read (selected word 3))
  rw [divisor] at zero
  simp only [Machine.execute, operation, Word.div?]
  by_cases none : state.read (selected word 3) = 0
  · rw [if_pos (zero.mpr none), if_pos none]
    exact ⟨refines.halt _, rfl⟩
  · rw [if_neg (fun isZero => none (zero.mp isZero)), if_neg none]
    refine ⟨(refines.writeRegister _ ?_).advance, rfl⟩
    rw [toInt_read refines, toInt_read refines]

private theorem execute_li (found : nibble word 0 = 10) :
    Performs (machine.execute (instruction word)) (state.execute word) := by
  rw [instruction_of_immediate found (by decide), State.execute, found]
  exact ⟨(refines.writeRegister _ rfl).advance, rfl⟩

private theorem execute_amc (found : nibble word 0 = 11) :
    Performs (machine.execute (instruction word)) (state.execute word) := by
  rw [instruction_of_immediate found (by decide), State.execute, found]
  have delta : (machine.registers.read (selected word 1) + Word.ofInt (immediate word)).toInt =
      signed 0x10000 (state.read (selected word 1) + immediate word) := by
    rw [← ofInt_add_toInt, toInt_ofInt_eq_signed, toInt_immediate, toInt_read refines]
  simp only [Machine.execute, operation, delta]
  exact ⟨(refines.moveMemoryCounter _).advance, rfl⟩

private theorem execute_lwmc (found : nibble word 0 = 12) :
    Performs (machine.execute (instruction word)) (state.execute word) := by
  rw [instruction_of_immediate found (by decide), State.execute, found]
  have address := offset_memoryCounter refines.formed (immediate word)
  have inside := machine.memory.memoryCounter.offset_lt (immediate word)
  rw [refines.formed.memory_capacity] at inside
  have loaded := load_eq inside
  rw [address, refines.same] at loaded
  simp only [Machine.execute, operation, toInt_immediate, address, refines.same, loaded]
  exact ⟨(refines.writeRegister _ (Word.ofInt_toInt _)).advance, rfl⟩

private theorem execute_swmc (found : nibble word 0 = 13) :
    Performs (machine.execute (instruction word)) (state.execute word) := by
  rw [instruction_of_immediate found (by decide), State.execute, found]
  have address := offset_memoryCounter refines.formed (immediate word)
  have inside := machine.memory.memoryCounter.offset_lt (immediate word)
  rw [refines.formed.memory_capacity] at inside
  have usable := Memory.fault?_eq_none.mpr inside
  rw [address, refines.same] at usable
  simp only [Machine.execute, operation, toInt_immediate, address, refines.same, usable]
  refine ⟨(refines.put _ ?_).advance, rfl⟩
  rw [← toInt_read refines]
  exact Word.ofInt_toInt _

private theorem execute_piu (found : nibble word 0 = 14) :
    Performs (machine.execute (instruction word)) (state.execute word) := by
  rw [instruction_of_immediate found (by decide), State.execute, found]
  have registers : machine.registers = state.registers := congrArg State.registers refines.same
  have device : machine.device = state.device := congrArg State.device refines.same
  simp only [Machine.execute, operation, State.perform, registers, device]
  generalize Peripheral.perform (Word.ofInt (immediate word)) (selected word 1) state.registers
    state.device = reply
  have answered := refines.answer reply.registers reply.device
  cases reply.result with
  | error error => exact ⟨answered, rfl⟩
  | ok request =>
    cases request with
    | none => exact ⟨answered.advance, rfl⟩
    | some code => exact ⟨answered.advance.halt code, rfl⟩

private theorem execute_apceq (found : nibble word 0 = 15) :
    Performs (machine.execute (instruction word)) (state.execute word) := by
  rw [instruction_of_immediate found (by decide), State.execute, found]
  have zero := isZero_iff (machine.registers.read Register.flag)
  rw [toInt_read refines Register.flag] at zero
  have delta : (Word.ofInt (immediate word) + machine.registers.read (selected word 1)).toInt =
      signed 0x10000 (immediate word + state.read (selected word 1)) := by
    rw [← ofInt_add_toInt, toInt_ofInt_eq_signed, toInt_immediate, toInt_read refines]
  simp only [Machine.execute, operation, delta]
  by_cases clear : state.read Register.flag = 0
  · rw [if_pos (zero.mpr clear)]
    rw [if_pos clear]
    exact ⟨refines.moveProgramCounter _, rfl⟩
  · rw [if_neg (fun isZero => clear (zero.mp isZero))]
    rw [if_neg clear]
    exact ⟨refines.advance, rfl⟩

private theorem execute_performs (word : Word) :
    Performs (machine.execute (instruction word)) (state.execute word) := by
  match found : nibble word 0, nibble_lt word 0 with
  | 0, _ =>
    rw [instruction_of_registers found (by decide), State.execute, found]
    exact combine_performs refines ofInt_land
  | 1, _ =>
    rw [instruction_of_registers found (by decide), State.execute, found]
    exact combine_performs refines ofInt_lor
  | 2, _ =>
    rw [instruction_of_registers found (by decide), State.execute, found]
    exact combine_performs refines ofInt_xor
  | 3, _ => exact execute_not refines found
  | 4, _ =>
    rw [instruction_of_registers found (by decide), State.execute, found]
    exact combine_performs refines ofInt_shifted
  | 5, _ =>
    rw [instruction_of_registers found (by decide), State.execute, found]
    exact combine_performs refines ofInt_add_toInt
  | 6, _ =>
    rw [instruction_of_registers found (by decide), State.execute, found]
    exact combine_performs refines ofInt_sub_toInt
  | 7, _ =>
    rw [instruction_of_registers found (by decide), State.execute, found]
    exact combine_performs refines ofInt_mul_toInt
  | 8, _ => exact execute_div refines found
  | 9, _ =>
    rw [instruction_of_registers found (by decide), State.execute, found]
    exact combine_performs refines ofInt_sign
  | 10, _ => exact execute_li refines found
  | 11, _ => exact execute_amc refines found
  | 12, _ => exact execute_lwmc refines found
  | 13, _ => exact execute_swmc refines found
  | 14, _ => exact execute_piu refines found
  | 15, _ => exact execute_apceq refines found
  | code + 16, bound => omega

end Rows

/-! ## Steps -/

private theorem Refines.count {machine : Machine Device} {state : State Device}
    (refines : Refines machine state) (instruction : Instruction) :
    Refines { machine with cycles := machine.cycles + 1, last? := some instruction }
      { state with cycles := state.cycles + 1, last? := some instruction } := by
  obtain ⟨formed, rfl⟩ := refines
  exact ⟨formed, rfl⟩

private theorem Refines.step [Peripheral Device] {machine : Machine Device} {state : State Device}
    (refines : Refines machine state) :
    Refines machine.step.machine state.step.1 ∧ machine.step.result = state.step.2 := by
  have status : machine.status = state.status := congrArg State.status refines.same
  have position : machine.memory.programCounter.value = state.programCounter :=
    congrArg State.programCounter refines.same
  have inside := machine.memory.programCounter.value_lt
  rw [refines.formed.program_capacity] at inside
  have loaded := load_eq inside
  rw [position, refines.same] at loaded
  cases running : state.status with
  | halted code =>
    simp only [Machine.step, State.step, status, running]
    exact ⟨refines, trivial⟩
  | running =>
    simp only [Machine.step, State.step, status, running, position, loaded, ofWord?_eq_exitCode?,
      decode_eq_instruction]
    generalize state.cells.getD state.programCounter (Word.ofInt 0) = word
    cases exitCode? word with
    | some code => exact ⟨refines.halt code, rfl⟩
    | none =>
      obtain ⟨done, fault⟩ := execute_performs refines word
      generalize state.execute word = outcome at done fault
      obtain ⟨after, fault?⟩ := outcome
      cases fault? with
      | some failure =>
        simp only [fault]
        exact ⟨done, trivial⟩
      | none =>
        simp only [fault]
        exact ⟨done.count (instruction word), trivial⟩

/-- Whatever the machine holds, a step leaves it as the table says, with the same result. The cycle
count keeps its width as long as it has room for one more cycle. -/
theorem step_eq_table [Peripheral Device] (machine : Machine Device)
    (formed : machine.memory.WellFormed) :
    machine.step.machine.state = machine.state.step.1 ∧
      machine.step.result = machine.state.step.2 ∧ machine.step.machine.memory.WellFormed ∧
      (machine.cycles + 1 < Machine.cycleSpan →
        machine.step.machine.cycles < Machine.cycleSpan) := by
  obtain ⟨refines, result⟩ := Refines.step ⟨formed, rfl⟩
  exact ⟨refines.same, result, refines.formed, Machine.cycles_step_lt⟩

/-- A branch two cells back from the first of three cells. -/
def branching : Machine Console where
  registers := RegisterBank.zeroed
  memory :=
    { cells := #[Word.ofNat 0xFE0F, Word.ofNat 0, Word.ofNat 0]
      programCounter := Counter.ofNat 3 0 (by decide)
      memoryCounter := Counter.ofNat 3 1 (by decide) }
  device := Console.silent
  status := .running
  cycles := 7
  last? := none

theorem programCounter_step_branching : branching.memory.WellFormed ∧
    branching.step.machine.memory.programCounter.value = 1 := by
  have formed : branching.memory.WellFormed := ⟨rfl, rfl⟩
  obtain ⟨state, -, -⟩ := step_eq_table branching formed
  refine ⟨formed, (congrArg State.programCounter state).trans ?_⟩
  decide

end Table

end WordMachine
