import WordMachine.Debugger.Panels
import WordMachine.Proofs.Debugger.Operations

/-! The view of the memory. Scrolling keeps the first row shown inside the memory, but a restart
takes over the row from the machine before it. A restart with a smaller memory is the only way
out. -/

set_option autoImplicit false

namespace WordMachine

private theorem Memory.Sized.rowCount_eq {memory : Memory} {size : Nat}
    (sized : memory.Sized size) :
    memory.rowCount = (size + (rowWidth - 1)) / rowWidth := by
  rw [rowCount, sized.capacity]

private theorem Memory.Sized.rowCount_pos {memory : Memory} {size : Nat}
    (sized : memory.Sized size) :
    0 < memory.rowCount := by
  have positive := memory.programCounter.capacity_pos
  rw [sized.program_capacity, sized.capacity] at positive
  rw [sized.rowCount_eq, rowWidth]
  omega

namespace Debugger

/-- The first row shown is a row of the memory. -/
def InView (debugger : Debugger) : Prop := debugger.scroll < debugger.machine.memory.rowCount

/-- A restart makes a memory whose rows all lie before the first one shown. -/
structure Truncates (debugger : Debugger) : Prop where
  loadable : Loadable debugger.memoryBytes debugger.program
  short : (debugger.memoryBytes / 2 + (Memory.rowWidth - 1)) / Memory.rowWidth ≤ debugger.scroll

/-- The operation decides anew whether the first row shown is a row of the memory. -/
inductive Places (debugger : Debugger) : Operation → Prop where
  | scrollBy (delta : Int) : debugger.Places (.scrollBy delta)
  | restart (loadable : Loadable debugger.memoryBytes debugger.program) : debugger.Places .restart

/-! ## Single operations -/

private theorem inView_scrollBy {debugger : Debugger} {size : Nat}
    (sized : debugger.machine.memory.Sized size) (delta : Int) :
    (debugger.scrollBy delta).InView := by
  have positive := sized.rowCount_pos
  have last : debugger.machine.memory.rowCount - 1 < debugger.machine.memory.rowCount := by omega
  exact lt_of_le_of_lt (Nat.min_le_right _ _) last

private theorem sized_restart {debugger : Debugger}
    (loadable : Loadable debugger.memoryBytes debugger.program) :
    debugger.restart.machine.memory.Sized (debugger.memoryBytes / 2) := by
  obtain ⟨machine, made⟩ := Machine.exists_ofProgram loadable Console.silent
  rw [machine_restart_of_ok made]
  exact (Machine.fresh_ofProgram made).memory.toSized

private theorem machine_restart_of_not_loadable {debugger : Debugger}
    (refused : ¬Loadable debugger.memoryBytes debugger.program) :
    debugger.restart.machine = debugger.machine := by
  obtain ⟨error, failed, -⟩ := Machine.ofProgram_of_not_loadable refused Console.silent
  rw [restart_of_error failed]
  rfl

private theorem inView_restart_iff {debugger : Debugger}
    (loadable : Loadable debugger.memoryBytes debugger.program) :
    debugger.restart.InView ↔ ¬debugger.Truncates := by
  have scroll : debugger.restart.scroll = debugger.scroll :=
    congrArg Settings.scroll (settings_restart debugger)
  rw [InView, scroll, (sized_restart loadable).rowCount_eq]
  constructor
  · intro inside truncates
    exact absurd truncates.short (not_le.mpr inside)
  · intro whole
    by_contra outside
    exact whole ⟨loadable, not_lt.mp outside⟩

/-- Only scrolling changes the first row shown, and only an assignment the later memories' size. -/
theorem perform_keeps (debugger : Debugger) (operation : Operation) :
    ((∀ delta, operation ≠ .scrollBy delta) →
      (debugger.perform operation).scroll = debugger.scroll) ∧
    ((∀ memoryBytes, operation ≠ .changeMemoryBytes memoryBytes) →
      (debugger.perform operation).memoryBytes = debugger.memoryBytes) := by
  have of_settings : ∀ {first second : Prop} {other : Debugger},
      other.settings = debugger.settings → (first → other.scroll = debugger.scroll) ∧
        (second → other.memoryBytes = debugger.memoryBytes) := by
    intro first second other same
    exact ⟨fun _ => congrArg Settings.scroll same, fun _ => congrArg Settings.memoryBytes same⟩
  cases operation with
  | scrollBy delta => exact ⟨fun other => absurd rfl (other delta), fun _ => rfl⟩
  | changeMemoryBytes bytes => exact ⟨fun _ => rfl, fun other => absurd rfl (other bytes)⟩
  | step => exact of_settings (settings_step debugger)
  | tick => exact of_settings (settings_tick debugger)
  | toggleBreakpoint => exact of_settings (toggleBreakpoint_keeps debugger).2.2
  | restart => exact of_settings (settings_restart debugger)
  | run | leave | changeProgram => exact ⟨fun _ => rfl, fun _ => rfl⟩

/-- An operation keeps the size of the memory, or it makes one of the size of later memories. -/
theorem sized_perform_or {debugger : Debugger} {size : Nat}
    (sized : debugger.machine.memory.Sized size) (operation : Operation) :
    (debugger.perform operation).machine.memory.Sized size ∨
      debugger.Places operation ∧
        (debugger.perform operation).machine.memory.Sized (debugger.memoryBytes / 2) := by
  by_cases restarts : operation = .restart
  · subst restarts
    by_cases loadable : Loadable debugger.memoryBytes debugger.program
    · exact .inr ⟨.restart loadable, sized_restart loadable⟩
    · have same := machine_restart_of_not_loadable loadable
      exact .inl (same.symm ▸ sized)
  · exact .inl (sized_perform restarts sized)

/-- An operation that places nothing anew keeps the number of rows, as the sizes agree. -/
theorem inView_perform_iff_of_not_places {debugger : Debugger} {size : Nat} {operation : Operation}
    (sized : debugger.machine.memory.Sized size) (other : ¬debugger.Places operation) :
    (debugger.perform operation).InView ↔ debugger.InView := by
  have scroll : (debugger.perform operation).scroll = debugger.scroll :=
    (perform_keeps debugger operation).1 fun delta same => other (same ▸ .scrollBy delta)
  have later : (debugger.perform operation).machine.memory.Sized size := by
    rcases sized_perform_or sized operation with kept | ⟨places, -⟩
    · exact kept
    · exact absurd places other
  rw [InView, InView, scroll, later.rowCount_eq, sized.rowCount_eq]

/-- After an operation the first row shown lies outside if it did before and the operation does not
place it anew, or if the operation is a restart that makes the memory too short. -/
theorem not_inView_perform_iff {debugger : Debugger} {size : Nat}
    (sized : debugger.machine.memory.Sized size) (operation : Operation) :
    ¬(debugger.perform operation).InView ↔
      ¬debugger.InView ∧ ¬debugger.Places operation ∨
        operation = .restart ∧ debugger.Truncates := by
  by_cases places : debugger.Places operation
  · cases places with
    | scrollBy delta =>
      have inside : (debugger.perform (.scrollBy delta)).InView := inView_scrollBy sized delta
      have placed : debugger.Places (.scrollBy delta) := .scrollBy delta
      simp [inside, placed]
    | restart loadable =>
      have placed : debugger.Places .restart := .restart loadable
      have inside : (debugger.perform .restart).InView ↔ ¬debugger.Truncates :=
        inView_restart_iff loadable
      simp [inside, placed]
  · have kept : ¬(operation = .restart ∧ debugger.Truncates) := by
      rintro ⟨rfl, truncates⟩
      exact places (.restart truncates.loadable)
    rw [inView_perform_iff_of_not_places sized places]
    simp [places, kept]

private theorem exists_sized_perform {debugger : Debugger} (operation : Operation)
    (sized : ∃ size, debugger.machine.memory.Sized size) :
    ∃ size, (debugger.perform operation).machine.memory.Sized size := by
  obtain ⟨size, sized⟩ := sized
  rcases sized_perform_or sized operation with kept | ⟨-, made⟩
  · exact ⟨size, kept⟩
  · exact ⟨_, made⟩

/-! ## Sequences of operations -/

/-- No operation scrolls or makes a new memory. -/
def Undisturbed : Debugger → List Operation → Prop
  | _, [] => True
  | debugger, operation :: rest =>
    ¬debugger.Places operation ∧ (debugger.perform operation).Undisturbed rest

/-- One of the operations is a restart that makes the memory too short, and the later ones neither
scroll nor make a new memory. -/
def CutsOff (debugger : Debugger) (operations : List Operation) : Prop :=
  ∃ before after, operations = before ++ .restart :: after ∧
    (debugger.performAll before).Truncates ∧ (debugger.performAll before).restart.Undisturbed after

private theorem not_cutsOff_nil (debugger : Debugger) : ¬debugger.CutsOff [] := by
  rintro ⟨before, after, split, -⟩
  simp at split

private theorem cutsOff_cons_iff (debugger : Debugger) (operation : Operation)
    (rest : List Operation) :
    debugger.CutsOff (operation :: rest) ↔
      (operation = .restart ∧ debugger.Truncates) ∧ (debugger.perform operation).Undisturbed rest ∨
        (debugger.perform operation).CutsOff rest := by
  constructor
  · rintro ⟨before, after, split, truncates, undisturbed⟩
    cases before with
    | nil =>
      cases split
      exact .inl ⟨⟨rfl, truncates⟩, undisturbed⟩
    | cons first before =>
      cases split
      exact .inr ⟨before, after, rfl, truncates, undisturbed⟩
  · rintro (⟨⟨rfl, truncates⟩, undisturbed⟩ | ⟨before, after, rfl, truncates, undisturbed⟩)
    · exact ⟨[], rest, rfl, truncates, undisturbed⟩
    · exact ⟨operation :: before, after, rfl, truncates, undisturbed⟩

/-- The induction needs debuggers that start with the first row shown outside, as a restart in the
middle leads to them. -/
theorem not_inView_performAll_iff {debugger : Debugger}
    (sized : ∃ size, debugger.machine.memory.Sized size) (operations : List Operation) :
    ¬(debugger.performAll operations).InView ↔
      ¬debugger.InView ∧ debugger.Undisturbed operations ∨ debugger.CutsOff operations := by
  induction operations generalizing debugger with
  | nil =>
    have whole := not_cutsOff_nil debugger
    simp [performAll, Undisturbed, whole]
  | cons operation rest ih =>
    obtain ⟨size, known⟩ := sized
    have later := ih (exists_sized_perform operation ⟨size, known⟩)
    have step := not_inView_perform_iff known operation
    calc ¬((debugger.perform operation).performAll rest).InView
      _ ↔ ¬(debugger.perform operation).InView ∧ (debugger.perform operation).Undisturbed rest ∨
            (debugger.perform operation).CutsOff rest := later
      _ ↔ (¬debugger.InView ∧ ¬debugger.Places operation ∨
              operation = .restart ∧ debugger.Truncates) ∧
            (debugger.perform operation).Undisturbed rest ∨
            (debugger.perform operation).CutsOff rest := by rw [step]
      _ ↔ ¬debugger.InView ∧ debugger.Undisturbed (operation :: rest) ∨
            debugger.CutsOff (operation :: rest) := by
        rw [cutsOff_cons_iff, or_and_right, or_assoc, and_assoc, Undisturbed]

/-! ## New debuggers -/

/-- The memory has the size of the later ones, and the first row shown is one of its rows. -/
structure Settled (debugger : Debugger) (bytes : Nat) : Prop where
  memoryBytes : debugger.memoryBytes = bytes
  sized : debugger.machine.memory.Sized (bytes / 2)
  inView : debugger.InView

private theorem settled_ofProgram {configuration : Configuration} {program : List UInt8}
    {new : Debugger} (made : ofProgram configuration program = .ok new) :
    new.Settled configuration.memoryBytes := by
  obtain ⟨machine, loaded, rfl⟩ := ofProgram_eq_ok made
  have sized := (Machine.fresh_ofProgram loaded).memory.toSized
  exact ⟨rfl, sized, sized.rowCount_pos⟩

/-- Whatever is done with a new debugger, its memory has some size. -/
theorem exists_sized_performAll {configuration : Configuration} {program : List UInt8}
    {new : Debugger} (made : ofProgram configuration program = .ok new)
    (operations : List Operation) :
    ∃ size, (new.performAll operations).machine.memory.Sized size :=
  performAll_keeps (fun debugger => ∃ size, debugger.machine.memory.Sized size)
    (fun _ operation _ sized => exists_sized_perform operation sized)
    ⟨_, (settled_ofProgram made).sized⟩

private theorem Settled.perform {debugger : Debugger} {bytes : Nat}
    (settled : debugger.Settled bytes) {operation : Operation}
    (other : ∀ memoryBytes, operation ≠ .changeMemoryBytes memoryBytes) :
    (debugger.perform operation).Settled bytes := by
  obtain ⟨scroll, memoryBytes⟩ := perform_keeps debugger operation
  have sized : (debugger.perform operation).machine.memory.Sized (bytes / 2) := by
    rcases sized_perform_or settled.sized operation with kept | ⟨-, made⟩
    · exact kept
    · exact settled.memoryBytes ▸ made
  refine ⟨(memoryBytes other).trans settled.memoryBytes, sized, ?_⟩
  by_cases scrolls : ∃ delta, operation = .scrollBy delta
  · obtain ⟨delta, rfl⟩ := scrolls
    exact inView_scrollBy settled.sized delta
  · have inside := settled.inView
    rw [InView, settled.sized.rowCount_eq] at inside
    rwa [InView, scroll (not_exists.mp scrolls), sized.rowCount_eq]

private theorem rows_memoryPanel_ne_nil_iff (terminal : Screen.Terminal) (debugger : Debugger)
    {height : Nat} (high : 3 ≤ height) :
    (debugger.memoryPanel terminal height).rows ≠ [] ↔ debugger.InView := by
  have rows : (debugger.memoryPanel terminal height).rows = (List.range' debugger.scroll
      (min (height - 2) (debugger.machine.memory.rowCount - debugger.scroll))).map
        (debugger.memoryRow terminal) := rfl
  rw [rows, ne_eq, List.map_eq_nil_iff, List.range'_eq_nil_iff, InView]
  omega

/-- After any operations on a new debugger the first row shown is a row of the memory, and the panel
shows at least this row, unless the last operation that scrolled or made a memory was a restart with
a memory too short for it. -/
theorem view_is_lost_by_restart_alone {configuration : Configuration} {program : List UInt8}
    {new : Debugger} (made : ofProgram configuration program = .ok new)
    (operations : List Operation) :
    ((new.performAll operations).scroll < (new.performAll operations).machine.memory.rowCount ↔
      ¬new.CutsOff operations) ∧
    ((∀ memoryBytes, .changeMemoryBytes memoryBytes ∉ operations) → ¬new.CutsOff operations) ∧
    (∀ delta, ((new.performAll operations).scrollBy delta).InView) ∧
    ∀ (terminal : Screen.Terminal) height, 3 ≤ height →
      (((new.performAll operations).memoryPanel terminal height).rows ≠ [] ↔
        ¬new.CutsOff operations) := by
  have settled := settled_ofProgram made
  have view : (new.performAll operations).InView ↔ ¬new.CutsOff operations := by
    have lost := not_inView_performAll_iff ⟨_, settled.sized⟩ operations
    simp only [settled.inView, not_true_eq_false, false_and, false_or] at lost
    exact not_iff_not.mp (lost.trans not_not.symm)
  refine ⟨view, ?_, ?_, ?_⟩
  · intro unchanged
    have final : (new.performAll operations).Settled configuration.memoryBytes := by
      refine performAll_keeps (Settled · configuration.memoryBytes) ?_ settled
      intro debugger operation listed before
      exact before.perform fun memoryBytes same => unchanged memoryBytes (same ▸ listed)
    exact view.mp final.inView
  · intro delta
    obtain ⟨size, sized⟩ := exists_sized_performAll made operations
    exact inView_scrollBy sized delta
  · intro terminal height high
    exact (rows_memoryPanel_ne_nil_iff terminal _ high).trans view

/-- A restart with a memory of one row after scrolling down by three. -/
def shrinking : List Operation := [.scrollBy 3, .changeMemoryBytes 16, .restart]

theorem shrinking_cuts_off : ∃ new, ofProgram ⟨64, none, .decimal⟩ [] = .ok new ∧
    new.CutsOff shrinking ∧ ¬new.CutsOff (shrinking ++ [.scrollBy 0]) ∧
    ((new.performAll shrinking).scrollBy 0).InView := by
  obtain ⟨new, made⟩ : ∃ new, ofProgram ⟨64, none, .decimal⟩ [] = .ok new := ⟨_, rfl⟩
  obtain ⟨lost, -, back, -⟩ := view_is_lost_by_restart_alone made shrinking
  obtain ⟨kept, -⟩ := view_is_lost_by_restart_alone made (shrinking ++ [.scrollBy 0])
  refine ⟨new, made, ?_, ?_, back 0⟩
  · by_contra whole
    have inside := lost.mpr whole
    cases made
    exact absurd inside (by decide)
  · refine kept.mp ?_
    cases made
    decide

theorem shrinking_shows_no_row : ∃ new, ofProgram ⟨64, none, .decimal⟩ [] = .ok new ∧
    (new.performAll shrinking).scroll = 3 ∧
    (new.performAll shrinking).machine.memory.rowCount = 1 ∧
    ∀ (terminal : Screen.Terminal) height,
      ((new.performAll shrinking).memoryPanel terminal height).rows = [] := by
  refine ⟨_, rfl, by decide, by decide, ?_⟩
  intro terminal height
  exact congrArg (fun shown => (List.range' 3 shown).map _) (Nat.min_zero _)

end Debugger

end WordMachine
