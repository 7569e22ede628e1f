/-!
Text as the machine's languages read it: a list of characters. Names are compared without regard
to the case of ASCII letters; every other character stands only for itself.
-/

set_option autoImplicit false

namespace WordMachine

/-- Text in the form in which it is read and laid out, one character after another. -/
abbrev Text := List Char

namespace Text

def lower (text : Text) : Text := text.map Char.toLower

def upper (text : Text) : Text := text.map Char.toUpper

/-- Two texts that differ at most in the case of ASCII letters. -/
def sameName (left right : Text) : Bool := left.lower == right.lower

def padLeft (width : Nat) (text : Text) : Text := text.leftpad width ' '

def padRight (width : Nat) (text : Text) : Text := text.rightpad width ' '

def joinWith (separator : Text) (pieces : List Text) : Text := separator.intercalate pieces

theorem lower_append (left right : Text) : lower (left ++ right) = left.lower ++ right.lower :=
  List.map_append

theorem length_padLeft (width : Nat) (text : Text) :
    (text.padLeft width).length = max width text.length :=
  List.length_leftpad

end Text

end WordMachine
