import WordMachine.Assembly.Error
import WordMachine.Numeral
import WordMachine.Text.Blank

/-!
Numbers and names in assembly text. A number is decimal, or hexadecimal after `0x`, or binary
after `0b`; it may have a sign, and what follows `0x` or `0b` may have one of its own. Numbers have
64 bits, so the least of them cannot take a minus sign. A name is a letter or an underscore
followed by letters, digits and underscores, all of them ASCII.
-/

set_option autoImplicit false

namespace WordMachine.Assembly

/-- The number that a literal without its first sign stands for. -/
def magnitude? : Text → Option Int
  | '0' :: 'x' :: digits => Numeral.int64? 16 digits
  | '0' :: 'X' :: digits => Numeral.int64? 16 digits
  | '0' :: 'b' :: digits => Numeral.int64? 2 digits
  | '0' :: 'B' :: digits => Numeral.int64? 2 digits
  | first :: rest => if first.isDigit then Numeral.int64? 10 (first :: rest) else none
  | [] => none

/-- What a number is after a minus sign, in 64 bits. -/
def negated : Option Int → Except Cause (Option Int)
  | some value =>
    if value = -0x8000000000000000 then .error .overflow else .ok (some (-value))
  | none => .ok none

/-- The number that a text is, if it is one. -/
def number? (text : Text) : Except Cause (Option Int) :=
  match text.trim with
  | '-' :: literal => negated (magnitude? literal)
  | '+' :: literal => .ok (magnitude? literal)
  | literal => .ok (magnitude? literal)

def startsName (char : Char) : Bool := char.isAlpha || char == '_'

def continuesName (char : Char) : Bool := char.isAlphanum || char == '_'

def isName : Text → Bool
  | [] => false
  | first :: rest => startsName first && rest.all continuesName

end WordMachine.Assembly
