import WordMachine.Json.Value

/-!
The tokens of a JSON text: marks, words, numbers and strings. Only space, tab, line feed and
carriage return may stand between them. The scanner is an automaton that takes one character at a
time.
-/

set_option autoImplicit false

namespace WordMachine.Json

inductive Token where
  | openArray
  | closeArray
  | openObject
  | closeObject
  | comma
  | colon
  | word (text : Text)
  | number (text : Text)
  | string (pieces : List StringPiece)

/-- What the scanner is in the middle of; texts and pieces are kept in reading order. -/
inductive Scanning where
  | nothing
  | word (text : Text)
  | number (text : Text)
  | string (pieces : List StringPiece)
  | escape (pieces : List StringPiece)
  | unicode (pieces : List StringPiece) (digits : Text)

/-- The tokens read so far and what the scanner is in the middle of. -/
structure Scanner where
  tokens : Array Token
  scanning : Scanning

def isSpace (char : Char) : Bool := char == ' ' || char == '\t' || char == '\n' || char == '\r'

def isNumberPart (char : Char) : Bool :=
  char.isDigit || char == '-' || char == '+' || char == '.' || char == 'e' || char == 'E'

def mark? : Char → Option Token
  | '[' => some .openArray
  | ']' => some .closeArray
  | '\x7b' => some .openObject
  | '\x7d' => some .closeObject
  | ',' => some .comma
  | ':' => some .colon
  | _ => none

def escaped? : Char → Option Char
  | '"' => some '"'
  | '\\' => some '\\'
  | '/' => some '/'
  | 'b' => some '\x08'
  | 'f' => some '\x0C'
  | 'n' => some '\n'
  | 'r' => some '\r'
  | 't' => some '\t'
  | _ => none

def Scanner.begin (tokens : Array Token) (char : Char) : Option Scanner :=
  if isSpace char then some ⟨tokens, .nothing⟩
  else if char == '"' then some ⟨tokens, .string []⟩
  else if char.isDigit || char == '-' then some ⟨tokens, .number [char]⟩
  else if char.isAlpha then some ⟨tokens, .word [char]⟩
  else (mark? char).map fun token => ⟨tokens.push token, .nothing⟩

def Scanner.feed (scanner : Scanner) (char : Char) : Option Scanner :=
  let tokens := scanner.tokens
  match scanner.scanning with
  | .nothing => Scanner.begin tokens char
  | .word text =>
    if char.isAlpha then some ⟨tokens, .word (text ++ [char])⟩
    else Scanner.begin (tokens.push (.word text)) char
  | .number text =>
    if isNumberPart char then some ⟨tokens, .number (text ++ [char])⟩
    else Scanner.begin (tokens.push (.number text)) char
  | .string pieces =>
    if char == '"' then some ⟨tokens.push (.string pieces), .nothing⟩
    else if char == '\\' then some ⟨tokens, .escape pieces⟩
    else if char.toNat < 0x20 then none
    else some ⟨tokens, .string (pieces ++ [.char char])⟩
  | .escape pieces =>
    if char == 'u' then some ⟨tokens, .unicode pieces []⟩
    else (escaped? char).map fun meant => ⟨tokens, .string (pieces ++ [.char meant])⟩
  | .unicode pieces digits =>
    let digits := digits ++ [char]
    match Numeral.natural? 16 digits with
    | none => none
    | some unit =>
      if digits.length < 4 then some ⟨tokens, .unicode pieces digits⟩
      else some ⟨tokens, .string (pieces ++ [StringPiece.ofUnit unit])⟩

def Scanner.finish (scanner : Scanner) : Option (List Token) :=
  match scanner.scanning with
  | .nothing => some scanner.tokens.toList
  | .word text => some (scanner.tokens.push (.word text)).toList
  | .number text => some (scanner.tokens.push (.number text)).toList
  | _ => none

def Token.scan? (text : Text) : Option (List Token) :=
  (text.foldlM Scanner.feed ⟨#[], .nothing⟩).bind Scanner.finish

end WordMachine.Json
