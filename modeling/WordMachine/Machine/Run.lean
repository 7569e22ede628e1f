import WordMachine.Machine.Step

/-!
Runs of the machine. A bounded run ends when the machine halts, a step fails or the budget of
instructions is used up. A run without a bound ends only in the first two ways, so it is defined
with a number of steps after which it counts as endless.
-/

set_option autoImplicit false

namespace WordMachine.Machine

variable {Device : Type}

/-- What a run leaves behind: the machine, and the fault if the run ended in a step that failed. -/
structure Run (Device : Type) where
  machine : Machine Device
  fault? : Option Fault

def runFor [Peripheral Device] : (budget : Nat) → Machine Device → Run Device
  | 0, machine => ⟨machine, none⟩
  | budget + 1, machine =>
    if machine.isRunning then
      let stepped := machine.step
      match stepped.result with
      | .ok _ => runFor budget stepped.machine
      | .error fault => ⟨stepped.machine, some fault⟩
    else ⟨machine, none⟩

/-- The number of values of the 64-bit cycle count. -/
def cycleSpan : Nat := 0x10000000000000000

/-- Runs for at most `budget` instructions, provided that the cycle count at which the budget ends
has 64 bits. -/
def runLimited? [Peripheral Device] (machine : Machine Device) (budget : Nat) :
    Option (Run Device) :=
  if machine.cycles + budget < cycleSpan then some (machine.runFor budget) else none

/-- Runs to the end, if it comes within `steps` steps. -/
def runWithin? [Peripheral Device] : (steps : Nat) → Machine Device → Option (Run Device)
  | 0, machine => if machine.isRunning then none else some ⟨machine, none⟩
  | steps + 1, machine =>
    if machine.isRunning then
      let stepped := machine.step
      match stepped.result with
      | .ok _ => runWithin? steps stepped.machine
      | .error fault => some ⟨stepped.machine, some fault⟩
    else some ⟨machine, none⟩

/-- Runs to the end. A run that has not ended when the cycle count is exhausted is endless. -/
def run? [Peripheral Device] (machine : Machine Device) : Option (Run Device) :=
  machine.runWithin? cycleSpan

end WordMachine.Machine
