import WordMachine.Text

/-!
Reading UTF-8. Bytes go one at a time into a decoder that knows how many continuation bytes are
still due and which values the next one may take, so that overlong forms, surrogates and code
points past the last one never complete. Each longest run of bytes that begins a character without
completing it is one malformed piece.
-/

set_option autoImplicit false

namespace WordMachine.Utf8

/-- A character of which the first bytes have been read. -/
structure Pending where
  due : Nat
  /-- The least value of the next byte. -/
  least : UInt8
  greatest : UInt8
  /-- The bits of the code point read so far. -/
  bits : Nat

/-- The decoder between two bytes: the pieces read so far, `none` for each malformed one, and the
character that is being read. -/
structure Decoder where
  pieces : Array (Option Char)
  pending? : Option Pending

def Decoder.start (pieces : Array (Option Char)) (byte : UInt8) : Decoder :=
  let bits := byte.toNat
  if byte < 0x80 then ⟨pieces.push (some (Char.ofNat bits)), none⟩
  else if byte < 0xC2 then ⟨pieces.push none, none⟩
  else if byte < 0xE0 then ⟨pieces, some ⟨1, 0x80, 0xBF, bits % 0x20⟩⟩
  else if byte = 0xE0 then ⟨pieces, some ⟨2, 0xA0, 0xBF, bits % 0x10⟩⟩
  else if byte = 0xED then ⟨pieces, some ⟨2, 0x80, 0x9F, bits % 0x10⟩⟩
  else if byte < 0xF0 then ⟨pieces, some ⟨2, 0x80, 0xBF, bits % 0x10⟩⟩
  else if byte = 0xF0 then ⟨pieces, some ⟨3, 0x90, 0xBF, bits % 0x08⟩⟩
  else if byte < 0xF4 then ⟨pieces, some ⟨3, 0x80, 0xBF, bits % 0x08⟩⟩
  else if byte = 0xF4 then ⟨pieces, some ⟨3, 0x80, 0x8F, bits % 0x08⟩⟩
  else ⟨pieces.push none, none⟩

/-- Takes the next byte. One that cannot continue the pending character makes what was read of it a
malformed piece and begins a character itself. -/
def Decoder.feed (decoder : Decoder) (byte : UInt8) : Decoder :=
  match decoder.pending? with
  | none => Decoder.start decoder.pieces byte
  | some pending =>
    if pending.least ≤ byte && byte ≤ pending.greatest then
      let bits := pending.bits * 0x40 + byte.toNat % 0x40
      if pending.due ≤ 1 then ⟨decoder.pieces.push (some (Char.ofNat bits)), none⟩
      else ⟨decoder.pieces, some ⟨pending.due - 1, 0x80, 0xBF, bits⟩⟩
    else Decoder.start (decoder.pieces.push none) byte

def pieces (bytes : List UInt8) : List (Option Char) :=
  let last := bytes.foldl Decoder.feed ⟨#[], none⟩
  match last.pending? with
  | none => last.pieces.toList
  | some _ => (last.pieces.push none).toList

/-- The text that the bytes encode, if all of them are well formed. -/
def decode? (bytes : List UInt8) : Option Text := (pieces bytes).mapM id

/-- The text that the bytes encode, with the replacement character for each malformed piece. -/
def decodeLossy (bytes : List UInt8) : Text :=
  (pieces bytes).map fun piece => piece.getD '\uFFFD'

def encode (text : String) : List UInt8 := text.toByteArray.toList

end WordMachine.Utf8
