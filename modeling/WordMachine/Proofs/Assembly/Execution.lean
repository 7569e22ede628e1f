import WordMachine.Proofs.Assembly.Refusals
import WordMachine.Proofs.Machine.Loading
import WordMachine.Proofs.Machine.Refinement

/-! Assembled programs on a machine. Where an instruction statement has put its word, a machine that
holds the program executes the instruction of the statement, and a branch goes to its label. -/

set_option autoImplicit false

namespace WordMachine

/-! ## Machines that come to a word of a program -/

namespace Machine

variable {Device : Type}

/-- The machine is about to execute the cell at an address, and the cell is as it was loaded. -/
structure ComesTo (machine loaded : Machine Device) (address : Nat) : Prop where
  running : machine.isRunning = true
  position : machine.memory.programCounter.value = address
  kept : machine.memory.load address = loaded.memory.load address

private theorem Holds.executes {machine loaded later : Machine Device} {words : List Word}
    {address : Nat} {instruction : Instruction} (holds : machine.Holds words loaded)
    (placed : words[address]? = some instruction.encode)
    (runs : ExitCode.ofWord? instruction.encode = none)
    (decoded : Instruction.decode instruction.encode = instruction)
    (comes : later.ComesTo loaded address) : later.Executes instruction := by
  refine ⟨of_decide_eq_true comes.running, instruction.encode, ?_, runs, decoded⟩
  rw [comes.position, comes.kept, holds.load placed]

variable [Peripheral Device]

private theorem Executes.executed_eq {machine : Machine Device} {instruction : Instruction}
    {executed? : Option Instruction} (executes : machine.Executes instruction)
    (done : machine.step.result = .ok executed?) : executed? = some instruction := by
  rw [executes.step_eq] at done
  split at done
  next => cases done
  next =>
    cases done
    rfl

end Machine

namespace Assembly

/-- Every instruction statement of a program has a word that is decoded as what the statement says,
and a machine that comes to this word executes it. Only a conjunction whose word would be an exit
code is refused. -/
theorem instructions_run_as_written {Device : Type} [Peripheral Device] (source : Text) :
    (∀ words, assemble source = .ok words → ∃ layout,
      Layout.empty.addLines (numberedLines source) = .ok layout ∧
      ∀ before line after opcode operands, numberedLines source = before ++ line :: after →
        Carries line.1 (.instruction opcode operands) →
        ∃ earlier instruction, Layout.empty.addLines before = .ok earlier ∧
          Denotes layout.symbols earlier.address opcode operands instruction ∧
          words[earlier.address]? = some instruction.encode ∧
          ExitCode.ofWord? instruction.encode = none ∧
          Instruction.decode instruction.encode = instruction ∧
          ∀ machine : Machine Device, words.length ≤ machine.memory.capacity →
            ∃ loaded, machine.loadProgram (Image.ofWords words) = .ok loaded ∧
              ∀ later : Machine Device, later.ComesTo loaded earlier.address →
                later.Executes instruction ∧
                ∀ executed?, later.step.result = .ok executed? → executed? = some instruction) ∧
    ∀ number word, assemble source = .error ⟨number, .reservedEncoding word⟩ →
      ∃ line ∈ numberedLines source, line.2 = number ∧ ∃ first second third register,
        Carries line.1 (.instruction .and [first, second, third]) ∧
        Register.ofName first = .ok Register.first ∧
        Register.ofName second = .ok Register.first ∧ Register.ofName third = .ok register ∧
        register.val ≤ 9 ∧ word = Word.ofNat (0x1000 * register.val) := by
  constructor
  · intro words assembled
    obtain ⟨layout, output, passes, rfl⟩ := assemble_eq_ok_iff.mp assembled
    refine ⟨layout, passes.first, ?_⟩
    intro before line after opcode operands split carries
    obtain ⟨earlier, instruction, reached, denotes, placed, runs⟩ :=
      passes.instruction split carries
    refine ⟨earlier, instruction, reached, denotes, placed, runs, denotes.decode_encode, ?_⟩
    intro machine fits
    obtain ⟨loaded, holds⟩ := Machine.exists_holds fits
    refine ⟨loaded, holds.loads, ?_⟩
    intro later comes
    have executes := holds.executes placed runs denotes.decode_encode comes
    exact ⟨executes, fun executed? done => executes.executed_eq done⟩
  · intro number word failed
    obtain ⟨line, listed, here, opcode, operands, carries, reserved⟩ :=
      (assemble_plain source _ failed).2 word rfl
    cases reserved with
    | @and first second third register one two three most =>
      exact ⟨line, listed, here, first, second, third, register, carries, one, two, three, most,
        rfl⟩

/-- A branch back over a gap. -/
def looping : Text := "li r1, 2\nBack: not r2, r1\n.org 4\napceq r3, back".toList

def loopingWords : List Word :=
  [Word.ofNat 0x021A, Word.ofNat 0x0123, Word.ofNat 0, Word.ofNat 0, Word.ofNat 0xFD3F]

/-- A machine with its program counter at the branch. -/
def waiting : Machine Console where
  registers := RegisterBank.zeroed
  memory :=
    { cells := Array.replicate 6 Word.zero
      programCounter := Counter.ofNat 6 4 (by decide)
      memoryCounter := Counter.ofNat 6 3 (by decide) }
  device := Console.silent
  status := .running
  cycles := 0
  last? := none

theorem looping_runs_as_written :
    (∃ loaded, waiting.loadProgram (Image.ofWords loopingWords) = .ok loaded ∧
      loaded.Executes ⟨.apceq, Register.first, 3, Register.first, Word.ofInt (-3)⟩) ∧
    ∃ line ∈ numberedLines "and r0, R0, r9".toList, line.2 = 1 ∧ ∃ first second third register,
      Carries line.1 (.instruction .and [first, second, third]) ∧
      Register.ofName third = .ok register ∧
      Word.ofNat 0x9000 = Word.ofNat (0x1000 * register.val) := by
  constructor
  · obtain ⟨layout, -, each⟩ :=
      (@instructions_run_as_written Console _ looping).1 loopingWords (by decide +kernel)
    obtain ⟨earlier, instruction, reached, -, placed, -, decoded, runs⟩ :=
      each [("li r1, 2".toList, 1), ("Back: not r2, r1".toList, 2), (".org 4".toList, 3)]
        ("apceq r3, back".toList, 4) [] .apceq ["r3".toList, "back".toList] rfl rfl
    cases reached
    obtain ⟨loaded, loads, executes⟩ := runs waiting (by decide)
    refine ⟨loaded, loads, ?_⟩
    cases loads
    obtain ⟨executed, -⟩ := executes _ ⟨rfl, rfl, rfl⟩
    have written : instruction.encode = Word.ofNat 0xFD3F := (Option.some.inj placed).symm
    rw [written] at decoded
    rwa [← decoded] at executed
  · obtain ⟨line, listed, number, first, second, third, register, carries, -, -, named, -, word⟩ :=
      (@instructions_run_as_written Console _ "and r0, R0, r9".toList).2 1 (Word.ofNat 0x9000)
        (by decide +kernel)
    exact ⟨line, listed, number, first, second, third, register, carries, named, word⟩

end Assembly

/-! ## Branches -/

namespace Machine

open Table

variable {Device : Type} [Peripheral Device]

/-- What a branch at an address to a target does with a value that is added to its distance. It
moves the program counter and nothing else. -/
structure Branches (machine landed : Machine Device) (address target : Nat) (value : Int) :
    Prop where
  registers : landed.registers = machine.registers
  cells : landed.memory.cells = machine.memory.cells
  memoryCounter : landed.memory.memoryCounter = machine.memory.memoryCounter
  taken : (machine.registers.read Register.flag).toInt = 0 →
    -0x8000 ≤ (target : Int) - address + value → (target : Int) - address + value ≤ 0x7FFF →
    (landed.memory.programCounter.value : Int) = (target + value) % machine.memory.capacity
  direct : (machine.registers.read Register.flag).toInt = 0 → value = 0 →
    target < machine.memory.capacity → landed.memory.programCounter.value = target
  reduced : (machine.registers.read Register.flag).toInt = 0 →
    (landed.memory.programCounter.value : Int) =
      (address + signed 0x10000 (target - address + value)) % machine.memory.capacity
  passed : (machine.registers.read Register.flag).toInt ≠ 0 →
    landed.memory.programCounter.value = (address + 1) % machine.memory.capacity

private theorem signed_of_fits {value : Int} (least : -0x8000 ≤ value) (most : value ≤ 0x7FFF) :
    signed 0x10000 value = value :=
  signed_eq_iff.mpr ⟨least, Int.lt_add_one_of_le most, .refl value⟩

/-- How far a branch moves the program counter. -/
def branchDelta (machine : Machine Device) (instruction : Instruction) : Int :=
  if (machine.registers.read Register.flag).toInt = 0 then
    signed 0x10000 (instruction.immediate.toInt + (machine.registers.read instruction.r2).toInt)
  else 1

private theorem execute_branch (machine : Machine Device) {instruction : Instruction}
    (branch : instruction.opcode = .apceq) :
    machine.execute instruction =
      ⟨machine.moveProgramCounter (machine.branchDelta instruction), none⟩ := by
  have zero := isZero_iff (machine.registers.read Register.flag)
  rw [execute, branch, branchDelta]
  by_cases clear : (machine.registers.read Register.flag).toInt = 0
  · rw [if_pos clear]
    simp only [zero.mpr clear, if_true, ← ofInt_add_toInt, toInt_ofInt_eq_signed]
  · rw [if_neg clear]
    have taken : ¬(machine.registers.read Register.flag).isZero = true := fun isZero =>
      clear (zero.mp isZero)
    simp only [if_neg taken]
    rfl

private theorem Executes.step_branch {machine : Machine Device} {instruction : Instruction}
    (executes : machine.Executes instruction) (branch : instruction.opcode = .apceq) :
    machine.step =
      ⟨(machine.moveProgramCounter (machine.branchDelta instruction)).count instruction,
        .ok (some instruction)⟩ := by
  rw [executes.step_eq, machine.execute_branch branch]

omit [Peripheral Device] in
private theorem programCounter_branch {machine : Machine Device}
    (formed : machine.memory.WellFormed) (instruction : Instruction) :
    ((machine.moveProgramCounter (machine.branchDelta instruction)).memory.programCounter.value :
        Int) =
      (machine.memory.programCounter.value + machine.branchDelta instruction) %
        machine.memory.capacity := by
  rw [← formed.program_capacity]
  exact machine.memory.programCounter.value_move _

private theorem Executes.branches {machine : Machine Device} {instruction : Instruction}
    {address target : Nat} (executes : machine.Executes instruction)
    (formed : machine.memory.WellFormed) (branch : instruction.opcode = .apceq)
    (position : machine.memory.programCounter.value = address)
    (distance : instruction.immediate.toInt = (target : Int) - address)
    (near : -128 ≤ instruction.immediate.toInt ∧ instruction.immediate.toInt ≤ 127) :
    machine.Branches machine.step.machine address target
      (machine.registers.read instruction.r2).toInt := by
  have moved := programCounter_branch formed instruction
  have moves : machine.branchDelta instruction = if (machine.registers.read Register.flag).toInt = 0
      then signed 0x10000 (target - address + (machine.registers.read instruction.r2).toInt)
      else 1 := by
    rw [branchDelta, distance]
  rw [position] at moved
  rw [distance] at near
  rw [executes.step_branch branch]
  generalize machine.branchDelta instruction = delta at moved moves
  generalize (machine.registers.read instruction.r2).toInt = value at moves
  have taken : (machine.registers.read Register.flag).toInt = 0 →
      -0x8000 ≤ (target : Int) - address + value → (target : Int) - address + value ≤ 0x7FFF →
      ((machine.moveProgramCounter delta).memory.programCounter.value : Int) =
        (target + value) % machine.memory.capacity := by
    intro clear least most
    have sum : (address : Int) + (target - address + value) = target + value := by omega
    rw [moved, moves, if_pos clear, signed_of_fits least most, sum]
  constructor
  · rfl
  · rfl
  · rfl
  · exact taken
  · intro clear zero inside
    have landed := taken clear (by omega) (by omega)
    rw [zero, Int.add_zero, Int.emod_eq_of_lt (by omega) (by omega)] at landed
    exact Int.natCast_inj.mp landed
  · intro clear
    rw [if_pos clear] at moves
    subst moves
    exact moved
  · intro set
    rw [if_neg set] at moves
    subst moves
    exact_mod_cast moved

end Machine

namespace Assembly

/-- A line of the source defines the label, at the address that the lines before it reach. -/
def DefinedAt (source name : Text) (address : Nat) : Prop :=
  ∃ before line after earlier label, numberedLines source = before ++ line :: after ∧
    labelOf line.1 = some label ∧ label.upper = name.upper ∧
    Layout.empty.addLines before = .ok earlier ∧ earlier.address = address

private theorem Symbols.address?_congr (symbols : Symbols) {label name : Text}
    (same : label.upper = name.upper) : symbols.address? label = symbols.address? name := by
  rw [address?, address?, same]

private theorem Passes.definedAt_iff {source name : Text} {layout : Layout} {output : Array Word}
    {address : Nat} (passes : Passes layout.symbols (numberedLines source) layout output) :
    DefinedAt source name address ↔ layout.symbols.address? name = some address := by
  constructor
  · rintro ⟨before, line, after, earlier, label, split, marked, same, reached, rfl⟩
    obtain ⟨found, later, here, next, before, -, agrees⟩ := passes.agrees split
    cases reached.symm.trans before.first
    rw [← layout.symbols.address?_congr same, agrees.label label marked, agrees.start]
  · intro known
    rcases Layout.exists_labelOf passes.first known with ⟨line, listed, label, marked, same⟩ | none
    · obtain ⟨before, after, split⟩ := List.append_of_mem listed
      obtain ⟨earlier, later, here, next, reached, -, agrees⟩ := passes.agrees split
      have found := agrees.label label marked
      rw [layout.symbols.address?_congr same, known, Option.some.injEq, agrees.start] at found
      exact ⟨before, line, after, earlier, label, split, marked, same, reached.first, found.symm⟩
    · cases none

private theorem Amounts.of_isName {symbols : Symbols} {address : Nat} {opcode : Opcode}
    {operand : Text} {value : Int} (amounts : Amounts symbols address opcode operand value)
    (named : isName operand = true) :
    ∃ target : Nat, symbols.address? operand = some target ∧ value = (target : Int) - address := by
  cases amounts with
  | number number =>
    rw [Program.number?_of_isName named] at number
    cases number
  | distance _ _ known => exact ⟨_, known, rfl⟩

private theorem Denotes.of_branch {symbols : Symbols} {address : Nat} {first second : Text}
    {instruction : Instruction} (named : isName second = true)
    (denotes : Denotes symbols address .apceq [first, second] instruction) :
    ∃ target : Nat, symbols.address? second = some target ∧
      Register.ofName first = .ok instruction.r2 ∧ instruction.opcode = .apceq ∧
      instruction.immediate.toInt = (target : Int) - address ∧
      -128 ≤ instruction.immediate.toInt ∧ instruction.immediate.toInt ≤ 127 := by
  cases denotes with
  | immediate _ one amounts least most =>
    obtain ⟨target, known, distance⟩ := amounts.of_isName named
    exact ⟨target, known, one, rfl, distance, least, most⟩

/-- A branch goes to the address of its label plus the value of its register, around the memory; if
this is too far for a word then the distance is reduced, and a branch that is not taken goes on. The
cycle count keeps its width as long as it has room for one more cycle. -/
theorem branches_reach_their_labels {Device : Type} [Peripheral Device] {source : Text}
    {words : List Word} (assembled : assemble source = .ok words) {before after : List (Text × Nat)}
    {line : Text × Nat} {register label : Text}
    (split : numberedLines source = before ++ line :: after)
    (carries : Carries line.1 (.instruction .apceq [register, label]))
    (named : isName label = true) :
    ∃ earlier selected target, Layout.empty.addLines before = .ok earlier ∧
      Register.ofName register = .ok selected ∧
      (∀ address, DefinedAt source label address ↔ address = target) ∧
      ∀ machine : Machine Device, words.length ≤ machine.memory.capacity →
        ∃ loaded, machine.loadProgram (Image.ofWords words) = .ok loaded ∧
          ∀ later : Machine Device, later.memory.WellFormed →
            later.ComesTo loaded earlier.address →
            (∃ instruction, later.step.result = .ok (some instruction)) ∧
            later.Branches later.step.machine earlier.address target
              (later.registers.read selected).toInt ∧
            (later.cycles + 1 < Machine.cycleSpan →
              later.step.machine.cycles < Machine.cycleSpan) := by
  obtain ⟨layout, output, passes, rfl⟩ := assemble_eq_ok_iff.mp assembled
  obtain ⟨earlier, instruction, reached, denotes, placed, runs⟩ := passes.instruction split carries
  obtain ⟨target, known, selected, branch, distance, near⟩ := denotes.of_branch named
  refine ⟨earlier, instruction.r2, target, reached, selected, ?_, ?_⟩
  · intro address
    rw [passes.definedAt_iff, known, Option.some.injEq, eq_comm]
  intro machine fits
  obtain ⟨loaded, holds⟩ := Machine.exists_holds fits
  refine ⟨loaded, holds.loads, ?_⟩
  intro later formed comes
  have executes := holds.executes placed runs denotes.decode_encode comes
  refine ⟨⟨instruction, ?_⟩, executes.branches formed branch comes.position distance near,
    Machine.cycles_step_lt⟩
  rw [executes.step_branch branch]

theorem looping_branches_back :
    ∃ loaded, waiting.loadProgram (Image.ofWords loopingWords) = .ok loaded ∧
      loaded.step.machine.memory.programCounter.value = 1 := by
  obtain ⟨earlier, selected, target, reached, named, marked, lands⟩ :=
    @branches_reach_their_labels Console _ looping loopingWords (by decide +kernel)
      [("li r1, 2".toList, 1), ("Back: not r2, r1".toList, 2), (".org 4".toList, 3)] []
      ("apceq r3, back".toList, 4) "r3".toList "back".toList rfl rfl (by decide)
  cases reached
  cases named
  have back : 1 = target := (marked 1).mp
    ⟨[("li r1, 2".toList, 1)], ("Back: not r2, r1".toList, 2),
      [(".org 4".toList, 3), ("apceq r3, back".toList, 4)], _, "Back".toList, rfl, rfl, by decide,
      rfl, rfl⟩
  subst back
  obtain ⟨loaded, loads, branches⟩ := lands waiting (by decide)
  refine ⟨loaded, loads, ?_⟩
  cases loads
  obtain ⟨-, branched, -⟩ := branches _ ⟨rfl, rfl⟩ ⟨rfl, rfl, rfl⟩
  exact branched.direct (by decide) (by decide) (by decide)

end Assembly

end WordMachine
