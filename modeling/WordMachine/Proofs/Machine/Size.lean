import WordMachine.Console
import WordMachine.Proofs.Machine.Budget

/-! The size of a machine's memory is stored three times: as the number of cells and as the capacity
of each counter. No operation lets the three differ, so no access of a step misses the memory. -/

set_option autoImplicit false

namespace WordMachine

/-! ## Memories of a size -/

structure Memory.Sized (memory : Memory) (size : Nat) : Prop extends memory.WellFormed where
  capacity : memory.capacity = size

private theorem Memory.exists_load {memory : Memory} {address : Nat}
    (usable : memory.fault? address = none) : ∃ word, memory.load address = .ok word := by
  cases loaded : memory.load address with
  | ok word => exact ⟨word, rfl⟩
  | error error =>
    rw [fault?_of_load loaded] at usable
    cases usable

namespace Memory.Sized

variable {memory : Memory} {size : Nat} (sized : memory.Sized size)

include sized

private theorem moveProgramCounter (delta : Int) :
    Sized { memory with programCounter := memory.programCounter.move delta } size :=
  ⟨⟨sized.program_capacity, sized.memory_capacity⟩, sized.capacity⟩

private theorem moveMemoryCounter (delta : Int) :
    Sized { memory with memoryCounter := memory.memoryCounter.move delta } size :=
  ⟨⟨sized.program_capacity, sized.memory_capacity⟩, sized.capacity⟩

private theorem put (address : Nat) (word : Word) : (memory.put address word).Sized size := by
  have same : (memory.put address word).capacity = memory.capacity := Array.size_setIfInBounds
  constructor
  · constructor
    · rw [same]
      exact sized.program_capacity
    · rw [same]
      exact sized.memory_capacity
  · rw [same]
    exact sized.capacity

private theorem store {address : Nat} {word : Word} {stored : Memory}
    (done : memory.store address word = .ok stored) : stored.Sized size := by
  rw [Memory.store] at done
  split at done
  next =>
    cases done
    exact sized.put address word
  next => cases done

theorem programCounter_lt : memory.programCounter.value < size := by
  rw [← sized.capacity, ← sized.program_capacity]
  exact memory.programCounter.value_lt

private theorem memoryCounter_lt : memory.memoryCounter.value < size := by
  rw [← sized.capacity, ← sized.memory_capacity]
  exact memory.memoryCounter.value_lt

private theorem fault?_programCounter : memory.fault? memory.programCounter.value = none := by
  rw [fault?_eq_none, sized.capacity]
  exact sized.programCounter_lt

private theorem fault?_offset (delta : Int) :
    memory.fault? (memory.memoryCounter.offset delta) = none := by
  rw [fault?_eq_none, ← sized.memory_capacity]
  exact memory.memoryCounter.offset_lt delta

end Memory.Sized

/-- Bytes are stored two by two, as words; after an odd number of them, the last word ends in
zeros. -/
inductive Memory.Stores : Memory → Nat → List UInt8 → Memory → Prop where
  | nil {memory : Memory} {address : Nat} : Stores memory address [] memory
  | last {memory stored : Memory} {address : Nat} {high : UInt8} :
      memory.store address (Word.ofBytes high 0) = .ok stored →
      Stores memory address [high] stored
  | pair {memory middle stored : Memory} {address : Nat} {high low : UInt8} {rest : List UInt8} :
      memory.store address (Word.ofBytes high low) = .ok middle →
      Stores middle (address + 1) rest stored → Stores memory address (high :: low :: rest) stored

theorem Memory.stores_of_ok {memory stored : Memory} {address : Nat} {bytes : List UInt8}
    (done : memory.storeImage address bytes = .ok stored) :
    memory.Stores address bytes stored := by
  induction memory, address, bytes using Memory.storeImage.induct with
  | case1 memory address =>
    cases done
    exact .nil
  | case2 memory address high => exact .last done
  | case3 memory address high low rest middle first ih =>
    rw [Memory.storeImage, first] at done
    exact .pair first (ih done)
  | case4 memory address high low rest error first =>
    rw [Memory.storeImage, first] at done
    cases done

private theorem Memory.Sized.storeImage {memory stored : Memory} {size address : Nat}
    {bytes : List UInt8} (sized : memory.Sized size)
    (done : memory.storeImage address bytes = .ok stored) :
    stored.Sized size := by
  have stores := Memory.stores_of_ok done
  clear done
  induction stores with
  | nil => exact sized
  | last only => exact sized.store only
  | pair first _ ih => exact ih (sized.store first)

private theorem Memory.store_of_lt {memory : Memory} {address : Nat} (word : Word)
    (inside : address < memory.capacity) :
    memory.store address word = .ok (memory.put address word) := by
  rw [store, fault?_eq_none.mpr inside]

theorem Memory.exists_storeImage {memory : Memory} {address : Nat} {bytes : List UInt8}
    (fits : address * 2 + bytes.length ≤ memory.capacity * 2) :
    ∃ stored, memory.storeImage address bytes = .ok stored := by
  induction memory, address, bytes using Memory.storeImage.induct with
  | case1 memory address => exact ⟨memory, rfl⟩
  | case2 memory address high =>
    simp only [List.length_singleton] at fits
    exact ⟨_, store_of_lt _ (by omega)⟩
  | case3 memory address high low rest middle first ih =>
    simp only [List.length_cons] at fits
    rw [storeImage, first]
    have same := capacity_of_store first
    exact ih (by omega)
  | case4 memory address high low rest error first =>
    simp only [List.length_cons] at fits
    rw [store_of_lt _ (by omega)] at first
    cases first

theorem Memory.Sized.loadProgram {memory loaded : Memory} {size : Nat} {bytes : List UInt8}
    (sized : memory.Sized size) (done : memory.loadProgram bytes = .ok loaded) :
    loaded.Sized size := by
  rw [Memory.loadProgram] at done
  split at done
  next => exact sized.storeImage done
  next => cases done

/-- Loading a program fails only before anything has been stored. -/
theorem Memory.Sized.loadProgram_error {memory : Memory} {size : Nat} {bytes : List UInt8}
    {error : MemoryError} (sized : memory.Sized size)
    (failed : memory.loadProgram bytes = .error error) :
    error = .overflow bytes.length (size * 2) := by
  rw [Memory.loadProgram, sized.capacity] at failed
  split at failed
  next fits =>
    have inside : 0 * 2 + bytes.length ≤ memory.capacity * 2 := by
      rw [sized.capacity]
      omega
    obtain ⟨stored, done⟩ := exists_storeImage inside
    rw [done] at failed
    cases failed
  next =>
    cases failed
    rfl

theorem Memory.sized_ofSize {bytes : Nat} (even : bytes % 2 = 0) (positive : bytes ≠ 0) :
    ∃ memory, Memory.ofSize bytes = .ok memory ∧ memory.Sized (bytes / 2) := by
  have valid : bytes % 2 = 0 ∧ 0 < bytes / 2 := ⟨even, by omega⟩
  refine ⟨_, dif_pos valid, ⟨?_, ?_⟩⟩
  · exact Memory.wellFormed_of_ofSize (dif_pos valid)
  · simp [Memory.capacity]

def Fault.OfMemory (fault : Fault) : Prop := ∃ error, fault = .memory error

namespace Machine

variable {Device : Type} [Peripheral Device]

/-! ## Steps and runs -/

private theorem sized_execute {machine : Machine Device} {size : Nat}
    (sized : machine.memory.Sized size) (instruction : Instruction) :
    (machine.execute instruction).machine.memory.Sized size ∧
      ∀ fault, (machine.execute instruction).fault? = some fault → ¬fault.OfMemory := by
  have effect := effect_execute machine instruction
  generalize machine.execute instruction = executed at effect
  cases effect with
  | write register word => exact ⟨sized.moveProgramCounter 1, nofun⟩
  | moveBase delta => exact ⟨(sized.moveMemoryCounter delta).moveProgramCounter 1, nofun⟩
  | jump delta => exact ⟨sized.moveProgramCounter delta, nofun⟩
  | store word => exact ⟨(sized.put _ word).moveProgramCounter 1, nofun⟩
  | outside missed =>
    -- An offset is taken at the capacity of its counter, which is the size of the memory.
    rw [target, sized.fault?_offset] at missed
    cases missed
  | divideByZero => exact ⟨sized, nofun⟩
  | answered | requested => exact ⟨sized.moveProgramCounter 1, nofun⟩
  | refused =>
    refine ⟨sized, ?_⟩
    rintro fault same ⟨error, rfl⟩
    cases same

theorem sized_step {machine : Machine Device} {size : Nat} (sized : machine.memory.Sized size) :
    machine.step.machine.memory.Sized size ∧
      ∀ fault, machine.step.result = .error fault → ¬fault.OfMemory := by
  have shape := stepsTo_step machine
  generalize machine.step = stepped at shape
  cases shape with
  | halted =>
    refine ⟨sized, ?_⟩
    rintro fault same ⟨error, rfl⟩
    cases same
  | outside _ missed =>
    rw [sized.fault?_programCounter] at missed
    cases missed
  | exit => exact ⟨sized, nofun⟩
  | @fault instruction fault _ failed =>
    obtain ⟨kept, faults⟩ := sized_execute sized instruction
    refine ⟨kept, ?_⟩
    intro other same
    cases same
    exact faults fault failed
  | @complete instruction => exact ⟨(sized_execute sized instruction).1, nofun⟩

theorem sized_runFor {machine : Machine Device} {size : Nat} (sized : machine.memory.Sized size)
    (budget : Nat) : (machine.runFor budget).machine.memory.Sized size ∧
      ∀ fault, (machine.runFor budget).fault? = some fault → ¬fault.OfMemory :=
  runFor_keeps (fun machine => machine.memory.Sized size) (fun fault => ¬fault.OfMemory)
    (fun _ holds => sized_step holds) sized budget

private theorem sized_run? {machine : Machine Device} {run : Run Device} {size : Nat}
    (sized : machine.memory.Sized size) (ended : machine.run? = some run) :
    run.machine.memory.Sized size ∧ ∀ fault, run.fault? = some fault → ¬fault.OfMemory := by
  obtain ⟨rfl, -⟩ := runWithin?_eq_some_iff.mp ended
  exact sized_runFor sized cycleSpan

private theorem sized_runLimited? {machine : Machine Device} {budget : Nat} {run : Run Device}
    {size : Nat} (sized : machine.memory.Sized size)
    (limited : machine.runLimited? budget = some run) :
    run.machine.memory.Sized size ∧ ∀ fault, run.fault? = some fault → ¬fault.OfMemory := by
  obtain ⟨-, rfl⟩ := runLimited?_eq_some_iff.mp limited
  exact sized_runFor sized budget

/-! ## Operations -/

inductive Operation where
  | loadProgram (bytes : List UInt8)
  | store (address : Nat) (word : Word)
  | writeRegister (register : Register) (word : Word)
  | moveProgramCounter (delta : Int)
  | moveMemoryCounter (delta : Int)
  | step
  | run
  | runLimited (budget : Nat)

/-- The machine that an operation leaves behind, whether or not it fails. A run without an end, or
with one that the cycle count cannot hold, leaves none. -/
def leave? (machine : Machine Device) : Operation → Option (Machine Device)
  | .loadProgram bytes =>
    match machine.loadProgram bytes with
    | .ok loaded => some loaded
    | .error _ => some machine
  | .store address word =>
    match machine.memory.store address word with
    | .ok memory => some { machine with memory }
    | .error _ => some machine
  | .writeRegister register word => some (machine.writeRegister register word)
  | .moveProgramCounter delta => some (machine.moveProgramCounter delta)
  | .moveMemoryCounter delta => some (machine.moveMemoryCounter delta)
  | .step => some machine.step.machine
  | .run => machine.run?.map Run.machine
  | .runLimited budget => (machine.runLimited? budget).map Run.machine

def leaveAll? (machine : Machine Device) (operations : List Operation) : Option (Machine Device) :=
  operations.foldlM leave? machine

private theorem sized_leave? {machine after : Machine Device} {operation : Operation} {size : Nat}
    (sized : machine.memory.Sized size) (left : machine.leave? operation = some after) :
    after.memory.Sized size := by
  cases operation with
  | loadProgram bytes =>
    simp only [leave?, Machine.loadProgram] at left
    cases loaded : machine.memory.loadProgram bytes with
    | ok memory =>
      simp only [loaded, Except.map, Option.some.injEq] at left
      subst left
      exact sized.loadProgram loaded
    | error error =>
      simp only [loaded, Except.map, Option.some.injEq] at left
      exact left ▸ sized
  | store address word =>
    simp only [leave?] at left
    cases stored : machine.memory.store address word with
    | ok memory =>
      simp only [stored, Option.some.injEq] at left
      subst left
      exact sized.store stored
    | error error =>
      simp only [stored, Option.some.injEq] at left
      exact left ▸ sized
  | writeRegister register word =>
    cases left
    exact sized
  | moveProgramCounter delta =>
    cases left
    exact sized.moveProgramCounter delta
  | moveMemoryCounter delta =>
    cases left
    exact sized.moveMemoryCounter delta
  | step =>
    cases left
    exact (sized_step sized).1
  | run =>
    obtain ⟨run, ended, rfl⟩ := Option.map_eq_some_iff.mp left
    exact (sized_run? sized ended).1
  | runLimited budget =>
    obtain ⟨run, limited, rfl⟩ := Option.map_eq_some_iff.mp left
    exact (sized_runLimited? sized limited).1

/-- What every operation keeps, all of them keep one after another. -/
theorem leaveAll?_keeps (kept : Machine Device → Prop)
    (each : ∀ {machine after : Machine Device} {operation : Operation}, kept machine →
      machine.leave? operation = some after → kept after)
    {machine final : Machine Device} {operations : List Operation} (holds : kept machine)
    (left : machine.leaveAll? operations = some final) : kept final := by
  induction operations generalizing machine with
  | nil =>
    cases left
    exact holds
  | cons operation rest ih =>
    rw [leaveAll?, List.foldlM_cons] at left
    obtain ⟨next, first, others⟩ := Option.bind_eq_some_iff.mp left
    exact ih (each holds first) others

private theorem sized_leaveAll? {machine final : Machine Device} {operations : List Operation}
    {size : Nat} (sized : machine.memory.Sized size)
    (left : machine.leaveAll? operations = some final) :
    final.memory.Sized size :=
  leaveAll?_keeps (fun machine => machine.memory.Sized size) sized_leave? sized left

/-- Whatever is done to a new machine, its memory keeps its size, both counters go around at that
size, and no access of a step misses the memory. -/
theorem size_kept_by_operations {bytes : Nat} (even : bytes % 2 = 0) (positive : bytes ≠ 0)
    (device : Device) :
    ∃ machine, ofSize bytes device = .ok machine ∧
      ∀ operations final, machine.leaveAll? operations = some final →
        final.memory.capacity = bytes / 2 ∧
        final.memory.programCounter.capacity = bytes / 2 ∧
        final.memory.programCounter.value < bytes / 2 ∧
        final.memory.memoryCounter.capacity = bytes / 2 ∧
        final.memory.memoryCounter.value < bytes / 2 ∧
        (∀ program error, final.loadProgram program = .error error →
          error = .overflow program.length bytes) ∧
        (∃ word, final.memory.load final.memory.programCounter.value = .ok word) ∧
        (∀ delta, ∃ word,
          final.memory.load (final.memory.memoryCounter.offset delta) = .ok word) ∧
        (∀ delta word, ∃ stored,
          final.memory.store (final.memory.memoryCounter.offset delta) word = .ok stored) ∧
        (∀ error, final.step.result ≠ .error (.memory error)) ∧
        (∀ run error, final.run? = some run → run.fault? ≠ some (.memory error)) ∧
        ∀ budget run error, final.runLimited? budget = some run →
          run.fault? ≠ some (.memory error) := by
  obtain ⟨memory, made, new⟩ := Memory.sized_ofSize even positive
  refine ⟨_, by rw [ofSize, made]; rfl, ?_⟩
  intro operations final left
  have sized : final.memory.Sized (bytes / 2) := sized_leaveAll? new left
  refine ⟨sized.capacity, sized.program_capacity.trans sized.capacity, sized.programCounter_lt,
    sized.memory_capacity.trans sized.capacity, sized.memoryCounter_lt, ?_, ?_, ?_, ?_, ?_, ?_, ?_⟩
  · intro program error failed
    rw [loadProgram] at failed
    cases loaded : final.memory.loadProgram program with
    | ok memory =>
      rw [loaded] at failed
      cases failed
    | error error =>
      rw [loaded] at failed
      cases failed
      rw [sized.loadProgram_error loaded, Nat.div_mul_cancel (Nat.dvd_of_mod_eq_zero even)]
  · exact Memory.exists_load sized.fault?_programCounter
  · intro delta
    exact Memory.exists_load (sized.fault?_offset delta)
  · intro delta word
    exact ⟨_, by rw [Memory.store, sized.fault?_offset delta]⟩
  · intro error failed
    exact (sized_step sized).2 _ failed ⟨error, rfl⟩
  · intro run error ended failed
    exact (sized_run? sized ended).2 _ failed ⟨error, rfl⟩
  · intro budget run error limited failed
    exact (sized_runLimited? sized limited).2 _ failed ⟨error, rfl⟩

/-- A store below the cell in the middle and a division by zero, after two operations that fail. -/
def storingAndDividing : List Operation :=
  [.store 9 Word.zero, .loadProgram (List.replicate 7 0), .loadProgram [0xFE, 0x0D, 0, 0x08],
    .moveMemoryCounter (-5), .runLimited 1, .step, .step]

theorem size_kept_by_storingAndDividing : 6 % 2 = 0 ∧ 6 ≠ 0 ∧
    ∃ machine final, ofSize 6 Console.silent = .ok machine ∧
      machine.leaveAll? storingAndDividing = some final ∧
      final.memory.capacity = 3 ∧ final.memory.memoryCounter.value < 3 ∧
      ∀ error, final.step.result ≠ .error (.memory error) := by
  obtain ⟨machine, made, kept⟩ :=
    size_kept_by_operations (show 6 % 2 = 0 by decide) (by decide) Console.silent
  have leaves : (machine.leaveAll? storingAndDividing).isSome = true := by
    cases made
    rfl
  obtain ⟨final, left⟩ := Option.isSome_iff_exists.mp leaves
  obtain ⟨capacity, -, -, -, below, -, -, -, -, faults, -⟩ := kept _ _ left
  exact ⟨by decide, by decide, machine, final, made, left, capacity, below, faults⟩

end Machine

end WordMachine
