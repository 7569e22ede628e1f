import WordMachine.Json.Token

/-!
Reading JSON. The reader takes one token at a time and keeps the arrays and objects that are still
open on a stack, so nesting may be of any depth.
-/

set_option autoImplicit false

namespace WordMachine.Json

/-- Digits at the start of a text, at least one, and what follows them. -/
def leadingDigits? (text : Text) : Option (Text × Text) :=
  match text.takeWhile Char.isDigit with
  | [] => none
  | digits => some (digits, text.dropWhile Char.isDigit)

def isExponent (text : Text) : Bool :=
  let digits := match text with
    | '+' :: rest => rest
    | '-' :: rest => rest
    | all => all
  match leadingDigits? digits with
  | some (_, []) => true
  | _ => false

/-- Whether a text is what may follow the whole part of a number that is not an integer. -/
def isFraction (text : Text) : Bool :=
  let afterPoint? := match text with
    | '.' :: rest => (leadingDigits? rest).map (·.2)
    | all => some all
  match afterPoint? with
  | some [] => true
  | some ('e' :: rest) => isExponent rest
  | some ('E' :: rest) => isExponent rest
  | _ => false

/-- The number that a literal writes: no leading zeros, and digits around a point. -/
def numberValue? (literal : Text) : Option JsonValue :=
  let (negative, unsigned) := match literal with
    | '-' :: rest => (true, rest)
    | all => (false, all)
  match leadingDigits? unsigned with
  | none => none
  | some (whole, rest) =>
    if whole.head? = some '0' && whole.length != 1 then none
    else if rest.isEmpty && !(negative && whole == ['0']) then
      (Numeral.natural? 10 whole).map fun value => .integer (if negative then -value else value)
    else if isFraction rest then some (.decimal literal)
    else none

def wordValue? (text : Text) : Option JsonValue :=
  if text = "null".toList then some .null
  else if text = "true".toList then some (.bool true)
  else if text = "false".toList then some (.bool false)
  else none

/-- An array or object that is still open: what it holds so far, and for an object the key whose
value comes next. -/
inductive Frame where
  | array (items : List JsonValue)
  | object (members : List (List StringPiece × JsonValue)) (key : List StringPiece)

inductive Reading where
  /-- A value. -/
  | value (stack : List Frame)
  /-- The first item of an array or its end. -/
  | firstItem (stack : List Frame)
  /-- The first key of an object or its end. -/
  | firstKey (stack : List Frame)
  /-- A key after the members of an object. -/
  | key (members : List (List StringPiece × JsonValue)) (stack : List Frame)
  /-- The colon after a key. -/
  | colon (members : List (List StringPiece × JsonValue)) (key : List StringPiece)
      (stack : List Frame)
  /-- What may follow a value that has been read. -/
  | done (item : JsonValue) (stack : List Frame)

def Reading.begin (stack : List Frame) : Token → Option Reading
  | .openArray => some (.firstItem stack)
  | .openObject => some (.firstKey stack)
  | .word text => (wordValue? text).map fun item => .done item stack
  | .number text => (numberValue? text).map fun item => .done item stack
  | .string pieces => some (.done (.string pieces) stack)
  | _ => none

def Reading.feed : Reading → Token → Option Reading
  | .value stack, token => Reading.begin stack token
  | .firstItem stack, .closeArray => some (.done (.array []) stack)
  | .firstItem stack, token => Reading.begin (.array [] :: stack) token
  | .firstKey stack, .closeObject => some (.done (.object []) stack)
  | .firstKey stack, .string name => some (.colon [] name stack)
  | .key members stack, .string name => some (.colon members name stack)
  | .colon members name stack, .colon => some (.value (.object members name :: stack))
  | .done item (.array items :: stack), .comma => some (.value (.array (items ++ [item]) :: stack))
  | .done item (.array items :: stack), .closeArray => some (.done (.array (items ++ [item])) stack)
  | .done item (.object members name :: stack), .comma =>
    some (.key (members ++ [(name, item)]) stack)
  | .done item (.object members name :: stack), .closeObject =>
    some (.done (.object (members ++ [(name, item)])) stack)
  | _, _ => none

def Reading.finish : Reading → Option JsonValue
  | .done item [] => some item
  | _ => none

def read? (text : Text) : Option JsonValue :=
  (Token.scan? text).bind fun tokens =>
    (tokens.foldlM Reading.feed (.value [])).bind Reading.finish

end WordMachine.Json
