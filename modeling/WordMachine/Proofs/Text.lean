import Mathlib
import WordMachine.Text.Blank
import WordMachine.Text.Line

/-! Letter case, blanks and trimming, as far as readers of lines depend on them. -/

set_option autoImplicit false

namespace WordMachine.Text

@[simp] theorem lower_lower (text : Text) : text.lower.lower = text.lower := by
  simp only [lower, List.map_map, List.map_inj_left, Function.comp_apply,
    Char.toLower_toLower_eq_toLower, implies_true]

theorem lower_upper (text : Text) : text.upper.lower = text.lower := by
  simp only [lower, upper, List.map_map, List.map_inj_left, Function.comp_apply,
    Char.toLower_toUpper_eq_toLower, implies_true]

theorem upper_lower (text : Text) : text.lower.upper = text.upper := by
  simp only [lower, upper, List.map_map, List.map_inj_left, Function.comp_apply,
    Char.toUpper_toLower_eq_toUpper, implies_true]

/-- Keys in upper case tell texts apart exactly as keys in lower case do. -/
theorem upper_eq_upper_iff {left right : Text} :
    left.upper = right.upper ↔ left.lower = right.lower := by
  constructor
  · intro same
    rw [← lower_upper left, same, lower_upper]
  · intro same
    rw [← upper_lower left, same, upper_lower]

theorem sameName_iff {left right : Text} :
    left.sameName right = true ↔ left.lower = right.lower := by
  rw [sameName, beq_iff_eq]

private theorem eq_toLower_or_eq_toUpper (char : Char) :
    char = char.toLower ∨ char = char.toLower.toUpper := by
  by_cases upper : char.isUpper = true
  · right
    rw [Char.toUpper_toLower_eq_toUpper,
      Char.toUpper_eq_of_not_isLower (Char.not_isLower_of_isUpper upper)]
  · exact .inl (Char.toLower_eq_of_not_isUpper upper).symm

/-- A property of a letter in both cases is one of each character that is that letter. -/
theorem of_toLower (property : Char → Prop) {char letter : Char} (same : char.toLower = letter)
    (lower : property letter) (upper : property letter.toUpper) : property char := by
  rcases eq_toLower_or_eq_toUpper char with shape | shape
  · rw [shape, same]
    exact lower
  · rw [shape, same]
    exact upper

theorem isAlphanum_toLower (char : Char) : char.toLower.isAlphanum = char.isAlphanum := by
  by_cases upper : char.isUpper = true
  · rw [Char.isAlphanum, Char.isAlphanum, Char.isAlpha_toLower_eq_isAlpha, Char.isAlpha, upper,
      Bool.true_or, Bool.true_or, Bool.true_or]
  · rw [Char.toLower_eq_of_not_isUpper upper]

/-! ## Solid characters -/

/-- Neither blank nor one of the marks that divide a line of assembly text. -/
def isSolid (char : Char) : Bool :=
  !isBlank char && char != ',' && char != ';' && char != ':'

def Solid (text : Text) : Prop := ∀ char ∈ text, isSolid char = true

instance (text : Text) : Decidable (Solid text) :=
  decidable_of_iff (text.all isSolid = true) List.all_eq_true

private theorem isBlank_of_isSolid {char : Char} (solid : isSolid char = true) :
    isBlank char = false := by
  simp only [isSolid, Bool.and_eq_true, Bool.not_eq_true'] at solid
  exact solid.1.1.1

theorem isSolid_of_isAlphanum {char : Char} (alphanumeric : char.isAlphanum = true) :
    isSolid char = true := by
  simp only [Char.isAlphanum, Char.isAlpha, Char.isUpper, Char.isLower, Char.isDigit,
    Bool.or_eq_true, Bool.and_eq_true, decide_eq_true_eq, ge_iff_le, UInt32.le_iff_toNat_le,
    Char.toNat_val, UInt32.reduceToNat, Char.reduceVal] at alphanumeric
  have blank : isBlank char = false := by
    simp only [isBlank, inRanges, blankRanges, List.any_cons, List.any_nil, Bool.or_false,
      Bool.or_eq_false_iff, Bool.and_eq_false_iff, decide_eq_false_iff_not]
    omega
  have different : ∀ mark ∈ [',', ';', ':'], char ≠ mark := by
    intro mark member same
    subst same
    simp only [List.mem_cons, List.not_mem_nil, or_false] at member
    rcases member with rfl | rfl | rfl <;> exact absurd alphanumeric (by decide)
  simp only [isSolid, blank, Bool.not_false, Bool.true_and, Bool.and_eq_true, bne_iff_ne]
  exact ⟨⟨different _ (by decide), different _ (by decide)⟩, different _ (by decide)⟩

theorem isSolid_of_toLower {char : Char} (solid : isSolid char.toLower = true) :
    isSolid char = true := by
  by_cases upper : char.isUpper = true
  · exact isSolid_of_isAlphanum (by rw [Char.isAlphanum, Char.isAlpha, upper]; rfl)
  · rwa [Char.toLower_eq_of_not_isUpper upper] at solid

theorem Solid.of_lower {text : Text} (solid : Solid text.lower) : Solid text := by
  intro char member
  exact isSolid_of_toLower (solid char.toLower (List.mem_map_of_mem member))

theorem Solid.not_mem {text : Text} (solid : Solid text) {mark : Char}
    (divides : isSolid mark = false) : mark ∉ text := by
  intro member
  rw [solid mark member] at divides
  cases divides

/-! ## Trimming -/

def Blank (text : Text) : Prop := ∀ char ∈ text, isBlank char = true

instance (text : Text) : Decidable (Blank text) :=
  decidable_of_iff (text.all isBlank = true) List.all_eq_true

theorem Blank.not_mem {text : Text} (blank : Blank text) {mark : Char}
    (visible : isBlank mark = false) : mark ∉ text := by
  intro member
  rw [blank mark member] at visible
  cases visible

private theorem trimEnd_append {text blanks : Text} (blank : Blank blanks) :
    trimEnd (text ++ blanks) = trimEnd text := by
  have reversed : ∀ char ∈ blanks.reverse, isBlank char = true := fun char member =>
    blank char (List.mem_reverse.mp member)
  rw [trimEnd, trimEnd, List.reverse_append, List.dropWhile_append_of_pos reversed]

theorem trim_append_left {blanks text : Text} (blank : Blank blanks) :
    trim (blanks ++ text) = trim text := by
  rw [trim, trim, trimStart, trimStart, List.dropWhile_append_of_pos blank]

theorem trim_append_right {text blanks : Text} (blank : Blank blanks) :
    trim (text ++ blanks) = trim text := by
  rw [trim, trim, trimStart, trimStart, List.dropWhile_append]
  split
  next nothing =>
    rw [List.isEmpty_iff] at nothing
    have all : (blanks ++ []).dropWhile isBlank = ([] : Text).dropWhile isBlank :=
      List.dropWhile_append_of_pos blank
    rw [List.append_nil, List.dropWhile_nil] at all
    rw [nothing, all]
  next => exact trimEnd_append blank

/-- What stands at the ends of the text is not blank. -/
structure Trimmed (text : Text) : Prop where
  first : ∀ char, text.head? = some char → isBlank char = false
  last : ∀ char, text.getLast? = some char → isBlank char = false

private theorem dropWhile_isBlank_of_head {text : Text}
    (first : ∀ char, text.head? = some char → isBlank char = false) :
    text.dropWhile isBlank = text := by
  cases text with
  | nil => rfl
  | cons char rest => rw [List.dropWhile_cons_of_neg (by simp [first char rfl])]

theorem Trimmed.trim_eq {text : Text} (trimmed : Trimmed text) : trim text = text := by
  rw [trim, trimStart, dropWhile_isBlank_of_head trimmed.first, trimEnd,
    dropWhile_isBlank_of_head (by rw [List.head?_reverse]; exact trimmed.last),
    List.reverse_reverse]

/-- No character of the text is blank. -/
def Visible (text : Text) : Prop := ∀ char ∈ text, isBlank char = false

instance (text : Text) : Decidable (Visible text) :=
  decidable_of_iff (text.all fun char => !isBlank char) <| by
    simp only [List.all_eq_true, Bool.not_eq_true', Visible]

theorem Solid.visible {text : Text} (solid : Solid text) : Visible text :=
  fun char member => isBlank_of_isSolid (solid char member)

private theorem Visible.trimmed {text : Text} (visible : Visible text) : Trimmed text := by
  constructor
  · intro char found
    exact visible char (List.mem_of_head? found)
  · intro char found
    exact visible char (List.mem_of_getLast? found)

theorem Solid.trimmed {text : Text} (solid : Solid text) : Trimmed text := solid.visible.trimmed

/-- Two parts that are trimmed are trimmed with anything between them. -/
theorem Trimmed.around {left right : Text} (before : Trimmed left) (after : Trimmed right)
    (start : left ≠ []) (stop : right ≠ []) (middle : Text) :
    Trimmed (left ++ middle ++ right) := by
  constructor
  · intro char found
    rw [List.append_assoc, List.head?_append_of_ne_nil _ start] at found
    exact before.first char found
  · intro char found
    rw [List.getLast?_append_of_ne_nil _ stop] at found
    exact after.last char found

/-- Blanks on both sides of a trimmed text are what trimming drops. -/
theorem trim_between {left text right : Text} (before : Blank left) (trimmed : Trimmed text)
    (after : Blank right) : trim (left ++ text ++ right) = text := by
  rw [trim_append_right after, trim_append_left before, trimmed.trim_eq]

theorem trimmed_nil : Trimmed [] := ⟨nofun, nofun⟩

theorem trimmed_singleton {char : Char} (visible : isBlank char = false) : Trimmed [char] := by
  constructor
  · intro first same
    cases same
    exact visible
  · intro last same
    cases same
    exact visible

theorem exists_trimStart (text : Text) :
    ∃ blanks, Blank blanks ∧ text = blanks ++ trimStart text :=
  ⟨text.takeWhile isBlank, fun _ => List.mem_takeWhile_imp, List.takeWhile_append_dropWhile.symm⟩

theorem exists_trimEnd (text : Text) : ∃ blanks, Blank blanks ∧ text = trimEnd text ++ blanks := by
  obtain ⟨blanks, blank, same⟩ := exists_trimStart text.reverse
  refine ⟨blanks.reverse, fun char member => blank char (List.mem_reverse.mp member), ?_⟩
  rw [trimEnd, ← List.reverse_append]
  exact List.reverse_eq_iff.mp same

theorem trim_trimStart (text : Text) : trim (trimStart text) = trim text := by
  obtain ⟨blanks, blank, same⟩ := exists_trimStart text
  conv_rhs => rw [same, trim_append_left blank]

theorem trim_trimEnd (text : Text) : trim (trimEnd text) = trim text := by
  obtain ⟨blanks, blank, same⟩ := exists_trimEnd text
  conv_rhs => rw [same, trim_append_right blank]

theorem trim_of_blank {text : Text} (blank : Blank text) : trim text = [] := by
  rw [← List.append_nil text, trim_append_left blank]
  rfl

section

variable {mark : Char} (visible : isBlank mark = false) (left right : Text)

include visible

private theorem trimStart_append_cons :
    trimStart (left ++ mark :: right) = trimStart left ++ mark :: right := by
  have stop : ¬isBlank mark = true := by
    rw [visible]
    exact Bool.false_ne_true
  rw [trimStart, trimStart, List.dropWhile_append]
  split
  next nothing =>
    rw [List.isEmpty_iff.mp nothing, List.dropWhile_cons_of_neg stop]
    rfl
  next => rfl

private theorem trimEnd_append_cons :
    trimEnd (left ++ mark :: right) = left ++ mark :: trimEnd right := by
  have turned : (left ++ mark :: right).reverse = right.reverse ++ mark :: left.reverse := by simp
  have dropped := trimStart_append_cons visible right.reverse left.reverse
  rw [trimStart, trimStart] at dropped
  rw [trimEnd, turned, dropped, trimEnd]
  simp

/-- Trimming stops at a character that is not blank. -/
theorem trim_append_cons :
    trim (left ++ mark :: right) = trimStart left ++ mark :: trimEnd right := by
  rw [trim, trimStart_append_cons visible, trimEnd_append_cons visible]

end

private theorem trimmed_trim (text : Text) : Trimmed (trim text) := by
  have start (text : Text) : ∀ char, (trimStart text).head? = some char → isBlank char = false := by
    intro char found
    have stops := List.head?_dropWhile_not isBlank text
    rw [trimStart] at found
    rw [found] at stops
    simpa using stops
  constructor
  · intro char found
    obtain ⟨blanks, -, same⟩ := exists_trimEnd (trimStart text)
    apply start text
    rw [same, List.head?_append]
    rw [trim] at found
    rw [found, Option.some_or]
  · intro char found
    rw [trim, trimEnd, List.getLast?_reverse] at found
    exact start _ char found

theorem exists_trim (text : Text) :
    ∃ left right, Blank left ∧ Blank right ∧ text = left ++ trim text ++ right := by
  obtain ⟨left, before, start⟩ := exists_trimStart text
  obtain ⟨right, after, ending⟩ := exists_trimEnd (trimStart text)
  refine ⟨left, right, before, after, ?_⟩
  rw [List.append_assoc, trim, ← ending]
  exact start

/-! ## Words -/

private theorem Visible.not_isBlank {word : Text} (visible : Visible word) :
    ∀ char ∈ word, (!isBlank char) = true := by
  intro char member
  rw [visible char member]
  rfl

theorem splitWord_append {word blanks rest : Text} (visible : Visible word) (blank : Blank blanks)
    (some : blanks ≠ []) (trimmed : Trimmed rest) :
    splitWord (word ++ blanks ++ rest) = (word, rest) := by
  have inside := visible.not_isBlank
  cases blanks with
  | nil => exact absurd rfl some
  | cons first others =>
    have stop : ¬(!isBlank first) = true := by
      rw [blank first List.mem_cons_self]
      exact Bool.false_ne_true
    rw [splitWord, List.append_assoc, List.takeWhile_append_of_pos inside,
      List.dropWhile_append_of_pos inside, List.cons_append,
      List.takeWhile_cons_of_neg (p := fun char => !isBlank char) stop,
      List.dropWhile_cons_of_neg (p := fun char => !isBlank char) stop, List.append_nil,
      ← List.cons_append, trim_append_left blank, trimmed.trim_eq]

theorem splitWord_of_visible {word : Text} (visible : Visible word) :
    splitWord word = (word, []) := by
  have inside := visible.not_isBlank
  rw [splitWord, List.takeWhile_eq_self_iff.mpr inside, List.dropWhile_eq_nil_iff.mpr inside]
  rfl

theorem splitWord_trim {word : Text} {blank : Char} (visible : Visible word) (some : word ≠ [])
    (ends : isBlank blank = true) (rest : Text) :
    splitWord (trim (word ++ blank :: rest)) = (word, trim rest) := by
  obtain ⟨left, right, before, after, same⟩ := exists_trim rest
  have gap : Blank (blank :: left) := by
    intro char member
    rcases List.mem_cons.mp member with rfl | inside
    · exact ends
    · exact before char inside
  have shape : word ++ blank :: rest = word ++ (blank :: left) ++ trim rest ++ right := by
    conv_lhs => rw [same]
    simp only [List.append_assoc, List.cons_append]
  rw [shape, trim_append_right after]
  by_cases nothing : trim rest = []
  · rw [nothing, List.append_nil, trim_append_right gap, visible.trimmed.trim_eq,
      splitWord_of_visible visible]
  · have whole := visible.trimmed.around (trimmed_trim rest) some nothing (blank :: left)
    rw [whole.trim_eq, splitWord_append visible gap (List.cons_ne_nil _ _) (trimmed_trim rest)]

/-! ## Lines -/

theorem length_lines_le (text : Text) : text.lines.length ≤ (text.splitOn '\n').length := by
  have some : (text.splitOn '\n').length ≠ 0 :=
    List.length_eq_zero_iff.not.mpr (List.splitOn_ne_nil '\n' text)
  rw [lines, List.length_append, List.length_map, List.length_dropLast]
  split
  next => exact Nat.sub_le _ _
  next =>
    rw [List.length_singleton]
    omega

theorem flatMap_ended (texts : List Text) :
    texts.flatMap (fun text => text ++ ['\n']) = joinWith ['\n'] (texts ++ [[]]) := by
  induction texts with
  | nil => rfl
  | cons first rest ih =>
    rw [List.flatMap_cons, ih]
    cases rest <;> simp [joinWith]

private theorem splitOn_flatMap_ended {texts : List Text} (unbroken : ∀ text ∈ texts, '\n' ∉ text) :
    (texts.flatMap fun text => text ++ ['\n']).splitOn '\n' = texts ++ [[]] := by
  rw [flatMap_ended]
  refine List.splitOn_intercalate '\n' ?_ (List.concat_ne_nil _ _)
  intro text member
  rcases List.mem_append.mp member with listed | last
  · exact unbroken text listed
  · rw [List.mem_singleton.mp last]
    exact List.not_mem_nil

/-- A line of its own: nothing in it ends a line, nor is its last character taken for a part of the
end. -/
structure Line (text : Text) : Prop where
  unbroken : '\n' ∉ text
  kept : text.getLast? ≠ some '\r'

private theorem Line.dropReturn {text : Text} (line : Line text) : dropReturn text = text :=
  if_neg line.kept

theorem lines_flatMap_ended {texts : List Text} (each : ∀ text ∈ texts, Line text) :
    lines (texts.flatMap fun text => text ++ ['\n']) = texts := by
  rw [lines, splitOn_flatMap_ended fun text member => (each text member).unbroken,
    List.getLastD_concat, List.dropLast_concat, List.isEmpty_nil, if_pos rfl, List.append_nil]
  have same : texts.map dropReturn = texts.map id :=
    List.map_congr_left fun text member => (each text member).dropReturn
  rw [same, List.map_id]

theorem lines_joinWith {texts : List Text} (each : ∀ text ∈ texts, Line text) {last : Text}
    (ends : texts.getLast? = some last) (some : last ≠ []) :
    lines (joinWith ['\n'] texts) = texts := by
  obtain ⟨others, rfl⟩ := List.getLast?_eq_some_iff.mp ends
  have pieces : (joinWith ['\n'] (others ++ [last])).splitOn '\n' = others ++ [last] :=
    List.splitOn_intercalate '\n' (fun text member => (each text member).unbroken)
      (List.concat_ne_nil _ _)
  have same : others.map dropReturn = others.map id := List.map_congr_left fun text member =>
    (each text (List.mem_append_left _ member)).dropReturn
  rw [lines, pieces, List.getLastD_concat, List.dropLast_concat, if_neg (by simpa using some), same,
    List.map_id]

private theorem not_mem_of_mem_splitOn {mark : Char} {text piece : Text}
    (member : piece ∈ text.splitOn mark) : mark ∉ piece := by
  induction size : text.length using Nat.strong_induction_on generalizing text with
  | _ size ih =>
    subst size
    by_cases marked : mark ∈ text
    · obtain ⟨first, rest, rfl, plain⟩ := List.eq_append_cons_of_mem marked
      rw [List.splitOn_append_cons_self_of_not_mem plain] at member
      rcases List.mem_cons.mp member with rfl | later
      · exact plain
      · refine ih rest.length ?_ later rfl
        rw [List.length_append, List.length_cons]
        omega
    · rw [List.splitOn_eq_singleton marked, List.mem_singleton] at member
      rwa [member]

private theorem flatten_sublist_joinWith (separator : Text) (pieces : List Text) :
    List.Sublist pieces.flatten (joinWith separator pieces) := by
  induction pieces with
  | nil => exact List.Sublist.slnil
  | cons first rest ih =>
    cases rest with
    | nil => simp [joinWith]
    | cons second rest =>
      rw [joinWith, List.intercalate_cons_cons, List.flatten_cons, List.append_assoc]
      exact (ih.trans (List.sublist_append_right separator _)).append_left first

theorem mem_joinWith {separator : Text} {pieces : List Text} {char : Char}
    (member : char ∈ joinWith separator pieces) :
    char ∈ separator ∨ ∃ piece ∈ pieces, char ∈ piece := by
  induction pieces with
  | nil => cases member
  | cons first rest ih =>
    cases rest with
    | nil => exact .inr ⟨first, List.mem_cons_self, by simpa [joinWith] using member⟩
    | cons second rest =>
      simp only [joinWith, List.intercalate_cons_cons, List.mem_append] at member ih
      rcases member with (inFirst | between) | later
      · exact .inr ⟨first, List.mem_cons_self, inFirst⟩
      · exact .inl between
      · rcases ih later with between | ⟨piece, listed, inside⟩
        · exact .inl between
        · exact .inr ⟨piece, List.mem_cons_of_mem _ listed, inside⟩

private theorem dropReturn_sublist (line : Text) : List.Sublist line.dropReturn line := by
  rw [dropReturn]
  split
  next => exact List.dropLast_sublist line
  next => exact List.Sublist.refl line

private theorem flatten_map_dropReturn_sublist (texts : List Text) :
    List.Sublist (texts.map dropReturn).flatten texts.flatten := by
  induction texts with
  | nil => exact List.Sublist.slnil
  | cons first rest ih => exact (dropReturn_sublist first).append ih

/-- A line is what stands between two line feeds, apart from a carriage return. -/
theorem lines_eq (text : Text) : ∃ before last, text.splitOn '\n' = before ++ [last] ∧
    text.lines = before.map dropReturn ++ (if last.isEmpty then [] else [last]) := by
  rcases List.eq_nil_or_concat' (text.splitOn '\n') with none | ⟨before, last, pieces⟩
  · exact absurd none (List.splitOn_ne_nil '\n' text)
  · refine ⟨before, last, pieces, ?_⟩
    rw [lines, pieces, List.getLastD_concat, List.dropLast_concat]

theorem flatten_lines_sublist (text : Text) : List.Sublist text.lines.flatten text := by
  obtain ⟨before, last, pieces, same⟩ := lines_eq text
  have whole : joinWith ['\n'] (before ++ [last]) = text := pieces ▸ List.intercalate_splitOn '\n'
  have rest : List.Sublist (if last.isEmpty then [] else [last]).flatten last := by
    split
    next => exact List.nil_sublist last
    next => rw [List.flatten_singleton]
  have inside := flatten_sublist_joinWith ['\n'] (before ++ [last])
  rw [whole, List.flatten_append, List.flatten_singleton] at inside
  rw [same, List.flatten_append]
  exact ((flatten_map_dropReturn_sublist before).append rest).trans inside

theorem not_mem_of_mem_lines {text line : Text} (member : line ∈ text.lines) : '\n' ∉ line := by
  obtain ⟨before, last, pieces, same⟩ := lines_eq text
  have unbroken : ∀ piece ∈ before ++ [last], '\n' ∉ piece := fun piece listed =>
    not_mem_of_mem_splitOn (pieces ▸ listed)
  rw [same] at member
  rcases List.mem_append.mp member with ended | unfinished
  · obtain ⟨piece, listed, rfl⟩ := List.mem_map.mp ended
    intro inside
    exact unbroken piece (List.mem_append_left _ listed) ((dropReturn_sublist piece).subset inside)
  · split at unfinished
    next => cases unfinished
    next => exact unbroken line (List.mem_append_right _ unfinished)

end WordMachine.Text
