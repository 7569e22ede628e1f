import WordMachine.Assembly
import WordMachine.Proofs.Assembly.Reading

/-! Lines are taken apart into the label and the statement that they were put together from, and a
text into its lines. -/

set_option autoImplicit false

namespace WordMachine.Assembly.Program

/-! ## Parts of a line -/

private theorem WritesStatement.trimmed {item? : Option Item} {text : Text}
    (written : WritesStatement item? text) : Text.Trimmed text := by
  cases written with
  | nothing => exact Text.trimmed_nil
  | item written => exact written.trimmed

private theorem WritesStatement.not_mem {item? : Option Item} {text : Text}
    (written : WritesStatement item? text) {mark : Char} (foreign : Foreign mark) :
    mark ∉ text := by
  cases written with
  | nothing => exact List.not_mem_nil
  | item written => exact written.not_mem foreign

private theorem WritesLabelling.not_mem {label? : Option Label} {text : Text}
    (written : WritesLabelling label? text) {mark : Char} (foreign : Foreign mark)
    (different : mark ≠ ':') : mark ∉ text := by
  cases written with
  | nothing => exact List.not_mem_nil
  | label written gap =>
    simp only [List.mem_append, List.mem_singleton, not_or]
    exact ⟨⟨written.solid.not_mem foreign.divides, foreign.outside _ gap⟩, different⟩

private theorem WritesComment.unbroken {text : Text} (written : WritesComment text) :
    '\n' ∉ text := by
  cases written with
  | nothing => exact List.not_mem_nil
  | comment unbroken =>
    rw [List.mem_cons, not_or]
    exact ⟨by decide, unbroken⟩

/-- Only the comment of a line may hold a foreign character other than the mark of a label. -/
theorem not_mem_parts {label? : Option Label} {item? : Option Item}
    {margin labelling gap statement trailing : Text} (before : Gap margin)
    (labels : WritesLabelling label? labelling) (between : Gap gap)
    (written : WritesStatement item? statement) (after : Gap trailing) {mark : Char}
    (foreign : Foreign mark) (different : mark ≠ ':') :
    mark ∉ margin ++ labelling ++ gap ++ statement ++ trailing := by
  simp only [List.mem_append, not_or]
  exact ⟨⟨⟨⟨foreign.outside _ before, labels.not_mem foreign different⟩, foreign.outside _ between⟩,
    written.not_mem foreign⟩, foreign.outside _ after⟩

theorem WritesLine.unbroken {line : Line} {text : Text} (written : WritesLine line text) :
    '\n' ∉ text := by
  cases written with
  | parts before labels between written after ending =>
    rw [List.mem_append, not_or]
    exact ⟨not_mem_parts before labels between written after foreign_lineFeed (by decide),
      ending.unbroken⟩

/-! ## Comments and labels -/

theorem bne_of_not_mem {mark : Char} {text : Text} (absent : mark ∉ text) :
    ∀ char ∈ text, (char != mark) = true := by
  intro char member
  rw [bne_iff_ne]
  intro same
  subst same
  exact absent member

/-- The part of a line before its comment. -/
def code (line : Text) : Text := line.takeWhile (· != ';')

theorem code_append_of_not_mem {front : Text} (plain : ';' ∉ front) (rest : Text) :
    code (front ++ rest) = front ++ code rest :=
  List.takeWhile_append_of_pos (bne_of_not_mem plain)

theorem code_append_of_mem {front : Text} (marked : ';' ∈ front) (rest : Text) :
    code (front ++ rest) = code front := by
  obtain ⟨first, comment, rfl, plain⟩ := List.eq_append_cons_of_mem marked
  rw [List.append_assoc, code_append_of_not_mem plain, code_append_of_not_mem plain]
  rfl

private theorem code_of_not_mem {text : Text} (plain : ';' ∉ text) : code text = text :=
  List.takeWhile_eq_self_iff.mpr (bne_of_not_mem plain)

theorem blank_code {text : Text} (blank : Text.Blank text) : Text.Blank (code text) :=
  fun char member => blank char ((List.takeWhile_subset _) member)

theorem stripComment_append_of_blank {more : Text} (blank : Text.Blank (code more)) (line : Text) :
    stripComment (line ++ more) = stripComment line := by
  show Text.trim (code (line ++ more)) = Text.trim (code line)
  by_cases marked : ';' ∈ line
  · rw [code_append_of_mem marked]
  · rw [code_append_of_not_mem marked, code_of_not_mem marked, Text.trim_append_right blank]

private theorem stripComment_append {body comment : Text} (plain : ';' ∉ body)
    (written : WritesComment comment) : stripComment (body ++ comment) = body.trim := by
  have nothing : Text.Blank (code comment) := by
    cases written with
    | nothing => nofun
    | comment => nofun
  rw [stripComment_append_of_blank nothing]
  exact congrArg Text.trim (code_of_not_mem plain)

theorem splitLabel_of_not_mem {text : Text} (plain : ':' ∉ text) :
    splitLabel text = (none, text) := by
  rw [splitLabel, List.dropWhile_eq_nil_iff.mpr (bne_of_not_mem plain)]

theorem splitLabel_append {head rest : Text} (plain : ':' ∉ head) :
    splitLabel (head ++ ':' :: rest) = (some head.trim, rest.trim) := by
  have inside := bne_of_not_mem plain
  have drop : (head ++ ':' :: rest).dropWhile (· != ':') = ':' :: rest := by
    rw [List.dropWhile_append_of_pos inside]
    rfl
  have take : (head ++ ':' :: rest).takeWhile (· != ':') = head := by
    rw [List.takeWhile_append_of_pos inside]
    exact List.append_nil head
  rw [splitLabel, drop, take]

/-- The line is divided into the parts that it was written from. -/
inductive Divides (line : Line) : Option Text × Text → Prop where
  | unlabelled {statement : Text} :
      line.label? = none → WritesStatement line.item? statement → Divides line (none, statement)
  | labelled {label : Label} {name statement : Text} :
      line.label? = some label → WritesLabel label name → WritesStatement line.item? statement →
      Divides line (some name, statement)

private theorem trim_labelled {margin name blanks gap statement trailing : Text}
    {item? : Option Item} (before : Gap margin) (solid : Text.Solid name) (some : name ≠ [])
    (between : Gap gap) (written : WritesStatement item? statement) (after : Gap trailing) :
    ∃ rest, Text.trim (margin ++ (name ++ blanks ++ [':']) ++ gap ++ statement ++ trailing) =
      name ++ blanks ++ ':' :: rest ∧ Text.trim rest = statement := by
  cases written with
  | nothing =>
    refine ⟨[], ?_, rfl⟩
    have inner : Text.Trimmed (name ++ blanks ++ [':']) :=
      solid.trimmed.around (Text.trimmed_singleton rfl) some (List.cons_ne_nil _ _) blanks
    rw [Text.trim_append_right after.blank, List.append_nil,
      Text.trim_between before.blank inner between.blank]
  | item written =>
    refine ⟨gap ++ statement, ?_, ?_⟩
    · have inner := solid.trimmed.around written.trimmed some written.ne_nil
        (blanks ++ [':'] ++ gap)
      have shape : margin ++ (name ++ blanks ++ [':']) ++ gap ++ statement ++ trailing =
          margin ++ (name ++ (blanks ++ [':'] ++ gap) ++ statement) ++ trailing := by
        simp only [List.append_assoc]
      rw [shape, Text.trim_between before.blank inner after.blank]
      simp only [List.append_assoc, List.cons_append, List.nil_append]
    · rw [Text.trim_append_left between.blank, written.trimmed.trim_eq]

theorem WritesLine.divides {line : Line} {text : Text} (written : WritesLine line text) :
    Divides line (splitLabel (stripComment text)) := by
  obtain ⟨label?, item?⟩ := line
  cases written with
  | @parts margin labelling gap statement trailing comment before labels between written after
      ending =>
    have plain := not_mem_parts before labels between written after foreign_semicolon (by decide)
    rw [stripComment_append plain ending]
    cases labels with
    | nothing =>
      have gaps : Gap (margin ++ gap) := fun char member =>
        (List.mem_append.mp member).elim (before char) (between char)
      rw [List.append_nil, Text.trim_between gaps.blank written.trimmed after.blank,
        splitLabel_of_not_mem (written.not_mem foreign_colon)]
      exact .unlabelled rfl written
    | @label label name blanks named gaps =>
      obtain ⟨rest, trimmed, same⟩ :=
        trim_labelled before named.solid named.ne_nil between written after
      have plain : ':' ∉ name ++ blanks := by
        rw [List.mem_append, not_or]
        exact ⟨named.solid.not_mem rfl, foreign_colon.outside _ gaps⟩
      rw [trimmed, splitLabel_append plain, same, Text.trim_append_right gaps.blank,
        named.solid.trimmed.trim_eq]
      exact .labelled rfl named written

/-! ## Line ends -/

/-- The carriage return before a line feed is a blank at the end, or part of the comment. -/
theorem stripComment_dropReturn (text : Text) :
    stripComment (Text.dropReturn text) = stripComment text := by
  rw [Text.dropReturn]
  split
  next ends =>
    obtain ⟨front, rfl⟩ := List.getLast?_eq_some_iff.mp ends
    have blank : Text.Blank ['\r'] := by decide
    rw [List.dropLast_concat, stripComment_append_of_blank (blank_code blank)]
  next => rfl

private theorem addLine_dropReturn (layout : Layout) (text : Text) (number : Nat) :
    layout.addLine (Text.dropReturn text, number) = layout.addLine (text, number) := by
  rw [Layout.addLine, Layout.addLine, Layout.addText, Layout.addText, stripComment_dropReturn]

private theorem addLines_dropReturn (layout : Layout) (texts : List Text) (number : Nat) :
    layout.addLines ((texts.map Text.dropReturn).zipIdx number) =
      layout.addLines (texts.zipIdx number) := by
  rw [List.zipIdx_map, Layout.addLines, Layout.addLines, List.foldlM_map]
  congr 1
  funext layout line
  exact addLine_dropReturn layout line.1 line.2

/-- For the layout the lines of a text are what stands between its line feeds: a carriage return
makes no difference, nor does an empty last line. -/
theorem addLines_numberedLines (layout : Layout) (source : Text) :
    layout.addLines (numberedLines source) =
      layout.addLines ((source.splitOn '\n').zipIdx 1) := by
  obtain ⟨before, last, pieces, same⟩ := Text.lines_eq source
  rw [numberedLines, same, pieces, List.zipIdx_append, List.zipIdx_append, Layout.addLines_append,
    Layout.addLines_append, addLines_dropReturn, List.length_map]
  congr 1
  funext middle
  cases last with
  | nil => rfl
  | cons => rfl

/-- Joined lines are laid out one after another. -/
theorem addLines_joinWith {texts : List Text} (unbroken : ∀ text ∈ texts, '\n' ∉ text)
    (layout : Layout) :
    layout.addLines (numberedLines (Text.joinWith ['\n'] texts)) =
      layout.addLines (texts.zipIdx 1) := by
  cases texts with
  | nil => rfl
  | cons first rest =>
    have pieces : (Text.joinWith ['\n'] (first :: rest)).splitOn '\n' = first :: rest :=
      List.splitOn_intercalate '\n' unbroken (List.cons_ne_nil first rest)
    rw [addLines_numberedLines, pieces]

end WordMachine.Assembly.Program
