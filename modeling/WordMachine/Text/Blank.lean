import WordMachine.Text

/-!
Blank characters: those with the property White_Space. They end a mnemonic and are dropped at both
ends of an operand.
-/

set_option autoImplicit false

namespace WordMachine.Text

/-- The ranges of code points with the property White_Space. -/
def blankRanges : List (Nat × Nat) :=
  [(0x9, 0xD), (0x20, 0x20), (0x85, 0x85), (0xA0, 0xA0), (0x1680, 0x1680), (0x2000, 0x200A),
   (0x2028, 0x2029), (0x202F, 0x202F), (0x205F, 0x205F), (0x3000, 0x3000)]

/-- Whether a code point lies in one of the ranges, ends included. -/
def inRanges (ranges : List (Nat × Nat)) (char : Char) : Bool :=
  ranges.any fun range => range.1 ≤ char.toNat && char.toNat ≤ range.2

def isBlank (char : Char) : Bool := inRanges blankRanges char

def trimStart (text : Text) : Text := text.dropWhile isBlank

def trimEnd (text : Text) : Text := (text.reverse.dropWhile isBlank).reverse

def trim (text : Text) : Text := trimEnd (trimStart text)

/-- The first word of a text and what follows it, trimmed. -/
def splitWord (text : Text) : Text × Text :=
  (text.takeWhile fun char => !isBlank char, trim (text.dropWhile fun char => !isBlank char))

end WordMachine.Text
