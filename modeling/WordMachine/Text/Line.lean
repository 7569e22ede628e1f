import WordMachine.Text

/-!
Lines of a text. A line ends at a line feed; a carriage return right before the line feed belongs to
the end. What follows the last line feed is a line only if it is not empty.
-/

set_option autoImplicit false

namespace WordMachine.Text

def dropReturn (line : Text) : Text :=
  if line.getLast? = some '\r' then line.dropLast else line

def lines (text : Text) : List Text :=
  let pieces := text.splitOn '\n'
  let unfinished := pieces.getLastD []
  pieces.dropLast.map dropReturn ++ (if unfinished.isEmpty then [] else [unfinished])

end WordMachine.Text
