import WordMachine.Numeral

/-!
The machine word: sixteen bits, read as a two's complement number. Constructing a word reduces
modulo 2^16, so no operation but division fails. Main statements: a word is determined by its
signed value, and the ring operations on words are those on integers reduced once at the end.
-/

set_option autoImplicit false

namespace WordMachine

structure Word where
  bits : BitVec 16
deriving DecidableEq

namespace Word

def ofInt (value : Int) : Word := ⟨BitVec.ofInt 16 value⟩

def ofNat (value : Nat) : Word := ⟨BitVec.ofNat 16 value⟩

/-- The signed value, from -32768 to 32767. -/
def toInt (word : Word) : Int := word.bits.toInt

/-- The bit pattern as a number below 65536. -/
def toNat (word : Word) : Nat := word.bits.toNat

instance : Inhabited Word := ⟨ofNat 0⟩
instance : Add Word := ⟨fun left right => ⟨left.bits + right.bits⟩⟩
instance : Sub Word := ⟨fun left right => ⟨left.bits - right.bits⟩⟩
instance : Mul Word := ⟨fun left right => ⟨left.bits * right.bits⟩⟩
instance : Neg Word := ⟨fun word => ⟨-word.bits⟩⟩
instance : Complement Word := ⟨fun word => ⟨~~~word.bits⟩⟩
instance : AndOp Word := ⟨fun left right => ⟨left.bits &&& right.bits⟩⟩
instance : OrOp Word := ⟨fun left right => ⟨left.bits ||| right.bits⟩⟩
instance : XorOp Word := ⟨fun left right => ⟨left.bits ^^^ right.bits⟩⟩

def zero : Word := ofNat 0

def isZero (word : Word) : Bool := word = zero

/-- Moves the bits right by a positive amount, keeping the sign, and left by a negative one. -/
def shift (word amount : Word) : Word :=
  if 0 ≤ amount.toInt then ⟨word.bits.sshiftRight amount.toInt.natAbs⟩
  else ⟨word.bits <<< amount.toInt.natAbs⟩

/-- The quotient truncated toward zero and reduced to a word; none by a zero divisor. -/
def div? (dividend divisor : Word) : Option Word :=
  if divisor.isZero then none else some (ofInt (dividend.toInt.tdiv divisor.toInt))

/-- The sign of the signed value: 1, 0 or -1. -/
def sign (word : Word) : Word := ofInt word.toInt.sign

instance : Ord Word := ⟨fun left right => compare left.toInt right.toInt⟩

def comparison (left right : Word) : Word :=
  match compare left right with
  | .lt => ofInt (-1)
  | .eq => zero
  | .gt => ofInt 1

def toBytes (word : Word) : UInt8 × UInt8 :=
  (⟨word.bits.extractLsb' 8 8⟩, ⟨word.bits.extractLsb' 0 8⟩)

def ofBytes (high low : UInt8) : Word := ⟨(high.toBitVec ++ low.toBitVec : BitVec 16)⟩

def decimal (word : Word) : Text := Numeral.decimal word.toInt

def hex (word : Word) : Text := Numeral.hex4 word.toNat

def inspect (word : Word) : String :=
  s!"Word(0x{String.ofList word.hex} = {String.ofList word.decimal})"

/-! ## Reduction -/

theorem ext_bits {left right : Word} (same : left.bits = right.bits) : left = right := by
  cases left; cases right; exact congrArg Word.mk same

theorem ofInt_toInt (word : Word) : ofInt word.toInt = word :=
  ext_bits (BitVec.ofInt_toInt)

/-- The signed value of a reduced integer is its balanced remainder. -/
theorem toInt_ofInt (value : Int) : (ofInt value).toInt = value.bmod 0x10000 :=
  BitVec.toInt_ofInt value

theorem le_toInt (word : Word) : -0x8000 ≤ word.toInt := word.bits.le_toInt

theorem toInt_lt (word : Word) : word.toInt < 0x8000 := word.bits.toInt_lt

theorem toInt_injective {left right : Word} (same : left.toInt = right.toInt) : left = right :=
  ext_bits (BitVec.toInt_inj.1 same)

theorem ofInt_add (left right : Int) : ofInt (left + right) = ofInt left + ofInt right :=
  ext_bits (BitVec.ofInt_add left right)

theorem ofInt_mul (left right : Int) : ofInt (left * right) = ofInt left * ofInt right :=
  ext_bits (BitVec.ofInt_mul left right)

theorem ofInt_neg (value : Int) : ofInt (-value) = -ofInt value :=
  ext_bits BitVec.ofInt_neg

theorem ofInt_sub (left right : Int) : ofInt (left - right) = ofInt left - ofInt right := by
  apply ext_bits
  show BitVec.ofInt 16 (left - right) = BitVec.ofInt 16 left - BitVec.ofInt 16 right
  rw [Int.sub_eq_add_neg, BitVec.ofInt_add, BitVec.ofInt_neg, BitVec.sub_eq_add_neg]

theorem ofInt_complement (value : Int) : ofInt (-1 - value) = ~~~ofInt value := by
  rw [ofInt_sub]
  exact ext_bits (BitVec.allOnes_sub_eq_not _)

theorem ofBytes_toBytes (word : Word) : ofBytes word.toBytes.1 word.toBytes.2 = word := by
  apply ext_bits
  show word.bits.extractLsb' 8 8 ++ word.bits.extractLsb' 0 8 = word.bits
  exact BitVec.extractLsb'_append_extractLsb'

end Word

end WordMachine
