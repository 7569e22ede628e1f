import WordMachine.Configuration
import WordMachine.Files.Directory

/-!
Configurations in files.
-/

set_option autoImplicit false

namespace WordMachine.Configuration

inductive LoadError where
  | unreadable (path : Path) (cause : IoError)
  | malformed
deriving DecidableEq

def LoadError.message : LoadError → String
  | unreadable path cause =>
    s!"cannot read config {String.ofList path.text}: {cause.message}"
  | malformed => "invalid config"

def load (directory : Directory) (path : Path) : Except LoadError Configuration :=
  match directory.readText path with
  | .error cause => .error (.unreadable path cause)
  | .ok text =>
    match read? text with
    | some configuration => .ok configuration
    | none => .error .malformed

end WordMachine.Configuration
