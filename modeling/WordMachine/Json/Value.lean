import WordMachine.Numeral

/-!
JSON values. A string is kept as the pieces it is written in, because an escape may stand for half
of a surrogate pair; only a string whose halves all pair up is a text. A number without fraction
and exponent is an integer; any other number is kept as it is written.
-/

set_option autoImplicit false

namespace WordMachine

/-- A character of a string, or a surrogate given by an escape. -/
inductive StringPiece where
  | char (value : Char)
  | surrogate (unit : Nat)
deriving DecidableEq

/-- A JSON value. Objects keep their members in the order in which they are written. -/
inductive JsonValue where
  | null
  | bool (value : Bool)
  | integer (value : Int)
  | decimal (literal : Text)
  | string (pieces : List StringPiece)
  | array (items : List JsonValue)
  | object (members : List (List StringPiece × JsonValue))

namespace StringPiece

def ofText (text : Text) : List StringPiece := text.map .char

def isHigh (unit : Nat) : Bool := 0xD800 ≤ unit && unit < 0xDC00

def isLow (unit : Nat) : Bool := 0xDC00 ≤ unit && unit < 0xE000

def ofUnit (unit : Nat) : StringPiece :=
  if isHigh unit || isLow unit then .surrogate unit else .char (Char.ofNat unit)

/-- The text that the pieces write, if every half of a surrogate pair has its other half. -/
def text? : List StringPiece → Option Text
  | [] => some []
  | .char value :: rest => (text? rest).map (value :: ·)
  | .surrogate high :: .surrogate low :: rest =>
    if isHigh high && isLow low then
      (text? rest).map (Char.ofNat (0x10000 + (high - 0xD800) * 0x400 + (low - 0xDC00)) :: ·)
    else none
  | .surrogate _ :: _ => none

theorem text?_ofText (text : Text) : text? (ofText text) = some text := by
  induction text with
  | nil => rfl
  | cons first rest inductionHypothesis =>
    simp only [ofText, List.map_cons, text?] at inductionHypothesis ⊢
    simp [inductionHypothesis]

end StringPiece

def JsonValue.ofText (text : Text) : JsonValue := .string (StringPiece.ofText text)

end WordMachine
