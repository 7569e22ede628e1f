import WordMachine.Json.Value
import WordMachine.Proofs.Assembly.Writing

/-! The ways in which a JSON value may be written down: blanks around everything, characters of a
string as they are or escaped, numbers without leading zeros. The grammar tells values as they are
read apart, so a number that is not a plain integer stands for what is written. -/

set_option autoImplicit false

namespace WordMachine.Json

open Assembly.Program (WritesDigits)

def Blanks (text : Text) : Prop := ∀ char ∈ text, char ∈ [' ', '\t', '\n', '\r']

/-! ## Strings -/

/-- The letters that may stand after a backslash, and what they mean. -/
def escapes : List (Char × Char) :=
  [('"', '"'), ('\\', '\\'), ('/', '/'), ('b', '\x08'), ('f', '\x0C'), ('n', '\n'), ('r', '\r'),
    ('t', '\t')]

/-- What stands between the quotes of a string. -/
inductive WritesString : List StringPiece → Text → Prop where
  | nil : WritesString [] []
  | plain {char : Char} {pieces : List StringPiece} {text : Text} :
      0x20 ≤ char.toNat → char ≠ '"' → char ≠ '\\' → WritesString pieces text →
      WritesString (.char char :: pieces) (char :: text)
  | escape {letter meant : Char} {pieces : List StringPiece} {text : Text} :
      (letter, meant) ∈ escapes → WritesString pieces text →
      WritesString (.char meant :: pieces) ('\\' :: letter :: text)
  | unicode {unit : Nat} {digits text : Text} {pieces : List StringPiece} :
      WritesDigits 16 unit digits → digits.length = 4 → WritesString pieces text →
      WritesString (StringPiece.ofUnit unit :: pieces) ('\\' :: 'u' :: digits ++ text)

/-! ## Numbers -/

/-- Digits of which the first is zero only if it is the only one. -/
structure WritesWhole (value : Nat) (text : Text) : Prop where
  digits : WritesDigits 10 value text
  first : text.head? = some '0' → text = ['0']

def Digits (text : Text) : Prop := text ≠ [] ∧ ∀ char ∈ text, char.isDigit = true

/-- A point with digits after it, or nothing. -/
inductive WritesFraction : Text → Prop where
  | none : WritesFraction []
  | point {digits : Text} : Digits digits → WritesFraction ('.' :: digits)

/-- The letter `e` in either case and digits that may have a sign, or nothing. -/
inductive WritesExponent : Text → Prop where
  | none : WritesExponent []
  | power {letter : Char} {sign digits : Text} :
      letter ∈ ['e', 'E'] → sign ∈ [[], ['+'], ['-']] → Digits digits →
      WritesExponent (letter :: sign ++ digits)

/-- A number is an integer unless it has a fraction or an exponent, or is a zero with a minus
sign. -/
inductive WritesNumber : JsonValue → Text → Prop where
  | natural {value : Nat} {text : Text} :
      WritesWhole value text → WritesNumber (.integer value) text
  | negative {value : Nat} {text : Text} :
      WritesWhole value text → value ≠ 0 → WritesNumber (.integer (-value)) ('-' :: text)
  | minusZero : WritesNumber (.decimal ['-', '0']) ['-', '0']
  | decimal {value : Nat} {sign whole fraction exponent : Text} :
      sign ∈ [[], ['-']] → WritesWhole value whole → WritesFraction fraction →
      WritesExponent exponent → fraction ++ exponent ≠ [] →
      WritesNumber (.decimal (sign ++ whole ++ (fraction ++ exponent)))
        (sign ++ whole ++ (fraction ++ exponent))

/-! ## Values -/

/-- What is written: a value with or without blanks around it, a key with its value, or what stands
between the brackets of an array or the braces of an object that is not empty. -/
inductive Phrase where
  | value (value : JsonValue)
  | spaced (value : JsonValue)
  | items (items : List JsonValue)
  | member (key : List StringPiece) (value : JsonValue)
  | members (members : List (List StringPiece × JsonValue))

inductive Writes : Phrase → Text → Prop where
  | null : Writes (.value .null) "null".toList
  | true : Writes (.value (.bool true)) "true".toList
  | false : Writes (.value (.bool false)) "false".toList
  | number {value : JsonValue} {text : Text} : WritesNumber value text → Writes (.value value) text
  | string {pieces : List StringPiece} {text : Text} :
      WritesString pieces text → Writes (.value (.string pieces)) ('"' :: text ++ ['"'])
  | emptyArray {blanks : Text} :
      Blanks blanks → Writes (.value (.array [])) ('[' :: blanks ++ [']'])
  | array {items : List JsonValue} {text : Text} :
      Writes (.items items) text → Writes (.value (.array items)) ('[' :: text ++ [']'])
  | emptyObject {blanks : Text} :
      Blanks blanks → Writes (.value (.object [])) ('\x7b' :: blanks ++ ['\x7d'])
  | object {members : List (List StringPiece × JsonValue)} {text : Text} :
      Writes (.members members) text →
      Writes (.value (.object members)) ('\x7b' :: text ++ ['\x7d'])
  | spaced {value : JsonValue} {before text after : Text} :
      Blanks before → Writes (.value value) text → Blanks after →
      Writes (.spaced value) (before ++ text ++ after)
  | lastItem {item : JsonValue} {text : Text} :
      Writes (.spaced item) text → Writes (.items [item]) text
  | items {item : JsonValue} {items : List JsonValue} {text rest : Text} :
      Writes (.spaced item) text → Writes (.items items) rest →
      Writes (.items (item :: items)) (text ++ ',' :: rest)
  | member {key : List StringPiece} {value : JsonValue} {before name between text : Text} :
      Blanks before → WritesString key name → Blanks between → Writes (.spaced value) text →
      Writes (.member key value) (before ++ '"' :: name ++ '"' :: between ++ ':' :: text)
  | lastMember {key : List StringPiece} {value : JsonValue} {text : Text} :
      Writes (.member key value) text → Writes (.members [(key, value)]) text
  | members {key : List StringPiece} {value : JsonValue}
      {members : List (List StringPiece × JsonValue)} {text rest : Text} :
      Writes (.member key value) text → Writes (.members members) rest →
      Writes (.members ((key, value) :: members)) (text ++ ',' :: rest)

/-- The halves of surrogate pairs in the keys all belong together, so every key is a text. -/
def TextKeys (members : List (List StringPiece × JsonValue)) : Prop :=
  ∀ member ∈ members, ∃ name, StringPiece.text? member.1 = some name

end WordMachine.Json
