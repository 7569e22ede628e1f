import WordMachine.ExitCode
import WordMachine.IoError
import WordMachine.Register
import WordMachine.Text.Quoted

/-!
Devices outside the machine. An instruction hands a device a command and a register; the device may
read and write registers and may ask the machine to halt.
-/

set_option autoImplicit false

namespace WordMachine

inductive PeripheralError where
  | unknownCommand (command : Word)
  | invalidInput (text : Text)
  | invalidExitCode (word : Word)
  | io (error : IoError)
deriving DecidableEq

def PeripheralError.message : PeripheralError → String
  | unknownCommand command => s!"unknown peripheral command: {String.ofList command.decimal}"
  | invalidInput text => s!"invalid input: {String.ofList text.quoted}"
  | invalidExitCode word => s!"0x{String.ofList word.hex} is not a custom exit code"
  | io error => s!"I/O error: {error.message}"

/-- What a command leaves behind: the device, the registers, and the exit code if the device asks
the machine to halt. -/
structure Reply (Device : Type) where
  device : Device
  registers : RegisterBank
  result : Except PeripheralError (Option ExitCode)

class Peripheral (Device : Type) where
  perform : Word → Register → RegisterBank → Device → Reply Device

end WordMachine
