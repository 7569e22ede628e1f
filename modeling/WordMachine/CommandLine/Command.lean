import WordMachine.Configuration
import WordMachine.Files.Path

/-!
The commands of the emulator.
-/

set_option autoImplicit false

namespace WordMachine.CommandLine

/-- The settings of a machine as a command gives them: a file with a configuration, and values that
take the place of those in the file. -/
structure Settings where
  file? : Option Path
  memoryBytes? : Option Nat
  base? : Option Radix
deriving DecidableEq

structure RunRequest where
  program : Path
  settings : Settings
  maxCycles? : Option Nat
  dump? : Option Path
  json : Bool
deriving DecidableEq

inductive Command where
  | welcome
  | version
  | help
  | run (request : RunRequest)
  | debug (program : Path) (settings : Settings)
  | assemble (source : Path) (output? : Option Path)
  | disassemble (image : Path)
deriving DecidableEq

/-- The configuration with the settings of a command in place of its own. -/
def Settings.override (settings : Settings) (configuration : Configuration) : Configuration :=
  { configuration with
    memoryBytes := settings.memoryBytes?.getD configuration.memoryBytes
    base := settings.base?.getD configuration.base }

def outputPath (source : Path) (output? : Option Path) : Path := output?.getD source.image

def Command.paths : Command → List Path
  | welcome => []
  | version => []
  | help => []
  | run request => request.program :: request.settings.file?.toList ++ request.dump?.toList
  | debug program settings => program :: settings.file?.toList
  | assemble source output? => [source, outputPath source output?]
  | disassemble image => [image]

def Command.readsInput : Command → Bool
  | run _ => true
  | _ => false

end WordMachine.CommandLine
