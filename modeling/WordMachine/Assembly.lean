import WordMachine.Assembly.Emission
import WordMachine.Text.Line

/-!
Assembling a text into words, from address zero on.
-/

set_option autoImplicit false

namespace WordMachine.Assembly

def numberedLines (source : Text) : List (Text × Nat) := source.lines.zipIdx 1

/-- The words of an assembly text, or the first error in it. An error in the layout comes before
every error in the words. -/
def assemble (source : Text) : Except Error (List Word) := do
  let layout ← Layout.empty.addLines (numberedLines source)
  let words ← layout.emit
  .ok words.toList

end WordMachine.Assembly
