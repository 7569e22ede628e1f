import WordMachine.Word

/-!
Program images: words as bytes, the high byte of each first. Main statement: words survive the way
through an image.
-/

set_option autoImplicit false

namespace WordMachine.Image

def ofWords (words : List Word) : List UInt8 :=
  words.flatMap fun word => [word.toBytes.1, word.toBytes.2]

/-- The words read so far and the high byte of one that has not ended. -/
structure Reading where
  words : Array Word
  high? : Option UInt8

def Reading.feed (reading : Reading) (byte : UInt8) : Reading :=
  match reading.high? with
  | none => ⟨reading.words, some byte⟩
  | some high => ⟨reading.words.push (Word.ofBytes high byte), none⟩

/-- All words of an image; a byte that is left over is the high byte of a last word. -/
def Reading.finish (reading : Reading) : List Word :=
  match reading.high? with
  | none => reading.words.toList
  | some high => (reading.words.push (Word.ofBytes high 0)).toList

def toWords (bytes : List UInt8) : List Word := (bytes.foldl Reading.feed ⟨#[], none⟩).finish

private theorem foldl_feed_ofWords (words : List Word) (before : Array Word) :
    (ofWords words).foldl Reading.feed ⟨before, none⟩ = ⟨before ++ words.toArray, none⟩ := by
  induction words generalizing before with
  | nil => simp [ofWords]
  | cons word rest inductionHypothesis =>
    have step : (ofWords (word :: rest)).foldl Reading.feed ⟨before, none⟩ =
        (ofWords rest).foldl Reading.feed ⟨before.push word, none⟩ := by
      simp [ofWords, Reading.feed, Word.ofBytes_toBytes]
    rw [step, inductionHypothesis]
    simp

theorem toWords_ofWords (words : List Word) : toWords (ofWords words) = words := by
  simp [toWords, foldl_feed_ofWords, Reading.finish]

end WordMachine.Image
