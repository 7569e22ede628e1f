import WordMachine.Debugger.Panels
import WordMachine.Proofs.Screen.Terminal

/-! Where the panels stand on the screen of a documented terminal. The disassembly is at the top on
the left, the memory at the top on the right and the output below the memory; on a screen whose
width is a multiple of twenty the left panels take nine of twenty columns. -/

set_option autoImplicit false

namespace WordMachine.Debugger

open Screen

section

variable {terminal : Terminal} (documented : terminal.Documented) (debugger : Debugger)
  {height : Nat} (high : 24 ≤ height)

include documented high

private theorem rest_left : terminal.rest height [9, 3] = height - 12 :=
  documented.rest (Nat.le_trans (by decide) high)

private theorem rest_right : terminal.rest height [8, 4] = height - 12 :=
  documented.rest (Nat.le_trans (by decide) high)

private theorem fills_leftColumn (width : Nat) :
    (debugger.leftColumn terminal width height).Fills height := by
  rw [leftColumn, rest_left documented high]
  refine ⟨?_, ?_⟩
  · simp only [Column.height]
    omega
  · simp only [List.forall_mem_cons]
    exact ⟨by omega, by decide, by decide, List.forall_mem_nil _⟩

private theorem fills_rightColumn (width : Nat) :
    (debugger.rightColumn terminal width height).Fills height := by
  rw [rightColumn, rest_right documented high]
  refine ⟨?_, ?_⟩
  · simp only [Column.height]
    omega
  · simp only [List.forall_mem_cons]
    exact ⟨by omega, by decide, by decide, List.forall_mem_nil _⟩

/-- The panels on the right from the top down. -/
theorem rightColumn_eq (scale : Nat) : debugger.rightColumn terminal (20 * scale) height =
    [(height - 12, debugger.memoryPanel terminal (height - 12)),
      (8, debugger.outputPanel terminal (11 * scale) 8), (4, helpPanel terminal)] := by
  have columns : 20 * scale - 9 * scale = 11 * scale := by omega
  rw [rightColumn, rest_right documented high, documented.leftWidth, columns]

variable {scale : Nat} (wide : 0 < scale)

include wide

theorem seenAt_disassemblyPanel :
    (debugger.disassemblyPanel terminal (9 * scale) (height - 12)).SeenAt
      (debugger.drawOn terminal (20 * scale) height) 0 0 (9 * scale) (height - 12) := by
  have columns := documented.leftWidth scale
  have split : debugger.leftColumn terminal (20 * scale) height =
      [] ++ (height - 12, debugger.disassemblyPanel terminal (9 * scale) (height - 12)) ::
        [(9, debugger.registersPanel terminal), (3, debugger.statusPanel terminal)] := by
    rw [leftColumn, rest_left documented high, columns]
    rfl
  have seen := documented.left (by rw [columns]; omega)
    (fills_leftColumn documented debugger high (20 * scale))
    (fills_rightColumn documented debugger high (20 * scale)) split
  rwa [columns] at seen

private theorem seenAt_right {above below : Column} {rows : Nat} {panel : Panel}
    (split : debugger.rightColumn terminal (20 * scale) height = above ++ (rows, panel) :: below) :
    panel.SeenAt (debugger.drawOn terminal (20 * scale) height) above.height (9 * scale)
      (11 * scale) rows := by
  have columns := documented.leftWidth scale
  have others : 20 * scale - 9 * scale = 11 * scale := by omega
  have seen := documented.right (by rw [columns]; omega)
    (fills_leftColumn documented debugger high (20 * scale))
    (fills_rightColumn documented debugger high (20 * scale)) split
  rwa [columns, others] at seen

theorem seenAt_memoryPanel :
    (debugger.memoryPanel terminal (height - 12)).SeenAt
      (debugger.drawOn terminal (20 * scale) height) 0 (9 * scale) (11 * scale) (height - 12) := by
  have split : debugger.rightColumn terminal (20 * scale) height =
      [] ++ (height - 12, debugger.memoryPanel terminal (height - 12)) ::
        [(8, debugger.outputPanel terminal (11 * scale) 8), (4, helpPanel terminal)] :=
    rightColumn_eq documented debugger high scale
  exact seenAt_right documented debugger high wide split

theorem seenAt_outputPanel :
    (debugger.outputPanel terminal (11 * scale) 8).SeenAt
      (debugger.drawOn terminal (20 * scale) height) (height - 12) (9 * scale) (11 * scale) 8 := by
  have split : debugger.rightColumn terminal (20 * scale) height =
      [(height - 12, debugger.memoryPanel terminal (height - 12))] ++
        (8, debugger.outputPanel terminal (11 * scale) 8) :: [(4, helpPanel terminal)] :=
    rightColumn_eq documented debugger high scale
  exact seenAt_right documented debugger high wide split

end

end WordMachine.Debugger
