import WordMachine.Json.Value

/-!
Printing JSON, without spaces or with one item to a line.
-/

set_option autoImplicit false

namespace WordMachine.JsonValue

def unitEscape (unit : Nat) : Text := "\\u".toList ++ (Numeral.digits 16 unit).leftpad 4 '0'

def charText (char : Char) : Text :=
  if char = '"' then ['\\', '"']
  else if char = '\\' then ['\\', '\\']
  else if char = '\x08' then ['\\', 'b']
  else if char = '\x0C' then ['\\', 'f']
  else if char = '\n' then ['\\', 'n']
  else if char = '\r' then ['\\', 'r']
  else if char = '\t' then ['\\', 't']
  else if char.toNat < 0x20 then unitEscape char.toNat
  else [char]

def pieceText : StringPiece → Text
  | .char char => charText char
  | .surrogate unit => unitEscape unit

def stringText (pieces : List StringPiece) : Text := '"' :: pieces.flatMap pieceText ++ ['"']

def boolText : Bool → Text
  | true => "true".toList
  | false => "false".toList

mutual

def compact : JsonValue → Text
  | null => "null".toList
  | bool value => boolText value
  | integer value => Numeral.decimal value
  | decimal literal => literal
  | string pieces => stringText pieces
  | array items => '[' :: Text.joinWith [','] (compactItems items) ++ [']']
  | object members => '\x7b' :: Text.joinWith [','] (compactMembers members) ++ ['\x7d']

def compactItems : List JsonValue → List Text
  | [] => []
  | item :: rest => item.compact :: compactItems rest

def compactMembers : List (List StringPiece × JsonValue) → List Text
  | [] => []
  | (key, value) :: rest => (stringText key ++ ':' :: value.compact) :: compactMembers rest

end

/-- Lines between brackets, each at a depth of two spaces for every level. -/
def block (opening closing : Char) (depth : Nat) (lines : List Text) : Text :=
  match lines with
  | [] => [opening, closing]
  | lines =>
    let indent (level : Nat) : Text := List.replicate (2 * level) ' '
    opening :: '\n' :: Text.joinWith [',', '\n'] (lines.map (indent (depth + 1) ++ ·))
      ++ '\n' :: indent depth ++ [closing]

mutual

def prettyAt (depth : Nat) : JsonValue → Text
  | null => "null".toList
  | bool value => boolText value
  | integer value => Numeral.decimal value
  | decimal literal => literal
  | string pieces => stringText pieces
  | array items => block '[' ']' depth (prettyItems (depth + 1) items)
  | object members => block '\x7b' '\x7d' depth (prettyMembers (depth + 1) members)

def prettyItems (depth : Nat) : List JsonValue → List Text
  | [] => []
  | item :: rest => item.prettyAt depth :: prettyItems depth rest

def prettyMembers (depth : Nat) : List (List StringPiece × JsonValue) → List Text
  | [] => []
  | (key, value) :: rest =>
    (stringText key ++ ':' :: ' ' :: value.prettyAt depth) :: prettyMembers depth rest

end

def pretty (value : JsonValue) : Text := value.prettyAt 0

end WordMachine.JsonValue
