import WordMachine.Text
import WordMachine.Text.Emoji
import WordMachine.Text.Width

/-!
Columns of text on a screen. Characters take the columns that they have on their own, except where
neighbours are drawn as one: pictures that a skin tone or a joiner brings together, characters that
a selector turns into a picture or back, and Khmer letters below another letter. Main statement:
text of ASCII characters takes as many columns as it has characters.
-/

set_option autoImplicit false

namespace WordMachine.Text

/-- The ranges of Khmer letters that take no column of their own below another letter. -/
def subscriptRanges : List (Nat × Nat) :=
  [(0x1780, 0x1782), (0x1784, 0x1787), (0x1789, 0x178C), (0x178E, 0x1793), (0x1795, 0x1798),
   (0x179B, 0x179D), (0x17A0, 0x17A0), (0x17A2, 0x17A2), (0x17A7, 0x17A7), (0x17AB, 0x17AC),
   (0x17AF, 0x17AF)]

/-- The ranges of marks that are never shown and stand between a letter and the sign before it
without effect. -/
def transparentRanges : List (Nat × Nat) :=
  [(0x34F, 0x34F), (0x17B4, 0x17B5), (0x180B, 0x180D), (0x180F, 0x180F), (0x200D, 0x200D),
   (0xFE00, 0xFE0F), (0xE0100, 0xE01EF)]

/-- What stands right after a character, as far as it can be drawn as one with it. -/
inductive Follower where
  | nothing
  | skinTone
  /-- A picture. -/
  | emoji
  /-- A joiner before a picture. -/
  | joiner
  /-- The frame of a key before a joiner and a picture. -/
  | keyFrame
  /-- The second half of a flag before a joiner and a picture. -/
  | indicator
  /-- Tags, with the one that ends them, before a joiner and a picture. -/
  | tags (codes : Text)
  /-- The selector of emoji style, and whether a joiner and a picture come after it. -/
  | emojiStyle (joined : Bool)
  /-- The selector of text style. -/
  | textStyle
  /-- A Khmer letter that can stand below another one. -/
  | subscript
deriving DecidableEq

/-- A text as far as the characters before it depend on it. -/
structure Measure where
  columns : Nat
  /-- What its first characters are for the character before them. -/
  follower : Follower

namespace Measure

def empty : Measure := ⟨0, .nothing⟩

def followerOf (char : Char) : Follower :=
  if char.toNat ≤ 0xA0 then .nothing
  else if char = '\uFE0F' then .emojiStyle false
  else if char = '\uFE0E' then .textStyle
  else if isSkinTone char then .skinTone
  else if isEmoji char then .emoji
  else if inRanges subscriptRanges char then .subscript
  else .nothing

/-- A text after a character that is drawn on its own. -/
def push (char : Char) (text : Measure) : Measure :=
  ⟨charColumns char + text.columns, followerOf char⟩

/-- What a character makes of a joiner and a picture after it without a column of its own: a part of
the same picture, or a sign of one. -/
def beforeJoiner? (char : Char) : Option Follower :=
  if char = '\uFE0F' then some (.emojiStyle true)
  else if char = '\u20E3' then some .keyFrame
  else if isSkinTone char then some .skinTone
  else if char.toNat = 0xE007F then some (.tags [])
  else if isEmoji char then some .emoji
  else none

/-- A text after a character that is drawn as one with its start; nothing if the character is drawn
on its own. Half a flag before a joiner takes a column, a whole flag is a part of the picture. -/
def join? (char : Char) (text : Measure) : Option Measure :=
  match text.follower with
  | .nothing => none
  | .skinTone =>
    if takesSkinTone char then some { text with follower := .emoji }
    else if char = '\u200D' then some { text with follower := .joiner }
    else none
  | .emoji => if char = '\u200D' then some { text with follower := .joiner } else none
  | .joiner =>
    if isIndicator char then some ⟨text.columns + 1, .indicator⟩
    else (beforeJoiner? char).map fun follower => { text with follower }
  | .indicator => if isIndicator char then some ⟨text.columns - 1, .nothing⟩ else none
  | .keyFrame =>
    if char = '\uFE0F' then some { text with follower := .emojiStyle true } else none
  | .tags codes =>
    if isLetterTag char || isDigitTag char then
      some { text with follower := .tags (char :: codes) }
    else if char.toNat = 0x1F3F4 && isRegion codes then some { text with follower := .emoji }
    else none
  | .emojiStyle joined =>
    if takesEmojiStyle char then
      some ⟨text.columns + (if joined then 0 else 2), .emoji⟩
    else none
  | .textStyle => if takesTextStyle char then some ⟨text.columns + 1, .nothing⟩ else none
  | .subscript =>
    if char = '\u17D2' then some ⟨text.columns - 1, .nothing⟩
    else if inRanges transparentRanges char then some text
    else none

def cons (char : Char) (text : Measure) : Measure := (join? char text).getD (push char text)

end Measure

def measure (text : Text) : Measure := text.foldr Measure.cons .empty

def columns (text : Text) : Nat := text.measure.columns

private theorem measure_of_ascii {text : Text} (ascii : ∀ char ∈ text, char.toNat < 0x80) :
    text.measure = ⟨text.length, .nothing⟩ := by
  induction text with
  | nil => rfl
  | cons char rest inductionHypothesis =>
    have first := ascii char (List.mem_cons_self ..)
    have others := inductionHypothesis fun other member =>
      ascii other (List.mem_cons_of_mem _ member)
    have plain : Measure.followerOf char = .nothing :=
      if_pos (Nat.le_of_lt (Nat.lt_trans first (by decide)))
    rw [measure, List.foldr_cons, ← measure, others, Measure.cons]
    simp only [Measure.join?, Option.getD_none, Measure.push, plain, charColumns_of_ascii first,
      List.length_cons, Nat.add_comm]

theorem columns_eq_length {text : Text} (ascii : ∀ char ∈ text, char.toNat < 0x80) :
    text.columns = text.length := by
  rw [columns, measure_of_ascii ascii]

end WordMachine.Text
