import WordMachine.Text

/-!
Positional numerals in bases up to sixteen. Reading takes one optional sign and at least one digit
and nothing else; letters stand for the digits from ten on in either case. Main statement: digits
are read from left to right.
-/

set_option autoImplicit false

namespace WordMachine.Numeral

def digitValue? (char : Char) : Option Nat :=
  if '0' ≤ char ∧ char ≤ '9' then some (char.toNat - '0'.toNat)
  else if 'a' ≤ char ∧ char ≤ 'f' then some (char.toNat - 'a'.toNat + 10)
  else if 'A' ≤ char ∧ char ≤ 'F' then some (char.toNat - 'A'.toNat + 10)
  else none

def digit? (base : Nat) (char : Char) : Option Nat := (digitValue? char).filter (· < base)

def extend? (base value : Nat) : Text → Option Nat
  | [] => some value
  | char :: rest =>
    match digit? base char with
    | some digit => extend? base (base * value + digit) rest
    | none => none

def natural? (base : Nat) : Text → Option Nat
  | [] => none
  | digits => extend? base 0 digits

/-- The number written by digits with at most one sign before them. -/
def integer? (base : Nat) : Text → Option Int
  | '-' :: digits => (natural? base digits).map fun value => -(value : Int)
  | '+' :: digits => (natural? base digits).map Int.ofNat
  | digits => (natural? base digits).map Int.ofNat

/-- A numeral whose value fits in a signed 64-bit cell. -/
def int64? (base : Nat) (text : Text) : Option Int :=
  (integer? base text).filter fun value => -0x8000000000000000 ≤ value && value < 0x8000000000000000

/-- A numeral without a minus sign whose value lies below `limit`. -/
def below? (limit : Nat) : Text → Option Nat
  | '+' :: digits => (natural? 10 digits).filter (· < limit)
  | digits => (natural? 10 digits).filter (· < limit)

def digits (base value : Nat) : Text := Nat.toDigits base value

/-- The digits of a number, letters in upper case. -/
def upperDigits (base value : Nat) : Text := (digits base value).map Char.toUpper

def padded (base width value : Nat) : Text := (upperDigits base value).leftpad width '0'

def decimal (value : Int) : Text :=
  if value < 0 then '-' :: digits 10 value.natAbs else digits 10 value.natAbs

def hex4 (value : Nat) : Text := padded 16 4 value

/-- The value of the digits `left ++ right` is that of `right` read after `left`. -/
theorem extend?_append (base value : Nat) (left right : Text) :
    extend? base value (left ++ right) = (extend? base value left).bind (extend? base · right) := by
  induction left generalizing value with
  | nil => rfl
  | cons char rest inductionHypothesis =>
    simp only [List.cons_append, extend?]
    cases digit? base char with
    | none => rfl
    | some digit => exact inductionHypothesis _

end WordMachine.Numeral
