import WordMachine.Numeral
import WordMachine.Text.Unprintable
import WordMachine.Text.Extending

/-!
Quoted text in messages: between double quotes, with an escape for every character that would not
stand for itself on the page.
-/

set_option autoImplicit false

namespace WordMachine.Text

def codePointEscape (char : Char) : Text :=
  "\\u\x7b".toList ++ Numeral.digits 16 char.toNat ++ "\x7d".toList

/-- Whether a character only fills the place of a missing Hangul letter. -/
def isFiller (char : Char) : Bool :=
  char = '\u115F' || char = '\u1160' || char = '\u3164' || char = '\uFFA0'

/-- Whether a character is a halfwidth sound mark of katakana. These marks have a place of their
own although they extend the character before them. -/
def isSoundMark (char : Char) : Bool := char = '\uFF9E' || char = '\uFF9F'

/-- Whether a character would not be seen as itself on the page. -/
def isObscure (char : Char) : Bool :=
  (isExtending char && !isSoundMark char) || isUnprintable char || isFiller char

def escapeChar (char : Char) : Text :=
  if char = '\x00' then ['\\', '0']
  else if char = '\t' then ['\\', 't']
  else if char = '\n' then ['\\', 'n']
  else if char = '\r' then ['\\', 'r']
  else if char = '"' then ['\\', '"']
  else if char = '\\' then ['\\', '\\']
  else if isObscure char then codePointEscape char
  else [char]

def quoted (text : Text) : Text := '"' :: text.flatMap escapeChar ++ ['"']

end WordMachine.Text
