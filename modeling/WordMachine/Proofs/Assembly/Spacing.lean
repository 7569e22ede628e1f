import WordMachine.Proofs.Assembly.Lines
import WordMachine.Proofs.Assembly.Refusals

/-! Spacing and comments. Blanks between the parts of a line and a comment after it leave the line
what it is to the assembler, and a line of nothing else is not there for it. A source that is laid
out in another way assembles to the same words or is refused for the same cause at the same line,
wherever that line stands now. -/

set_option autoImplicit false

namespace WordMachine.Assembly

open Text (Blank Visible)
open Assembly.Program (code code_append_of_mem code_append_of_not_mem blank_code splitLabel_append
  splitLabel_of_not_mem stripComment_append_of_blank)

/-! ## Operands -/

/-- More blanks before the first operand or around a comma. -/
inductive Spreads : Text → Text → Prop where
  | start {blanks operands : Text} : Blank blanks → Spreads operands (blanks ++ operands)
  | comma {front back before after : Text} : Blank before → Blank after →
      Spreads (front ++ ',' :: back) (front ++ before ++ ',' :: (after ++ back))

private theorem Spreads.refl (operands : Text) : Spreads operands operands :=
  @Spreads.start [] operands nofun

private theorem Spreads.mem {operands changed : Text} (spreads : Spreads operands changed)
    {mark : Char} (visible : Text.isBlank mark = false) (member : mark ∈ changed) :
    mark ∈ operands := by
  cases spreads with
  | start blank =>
    rcases List.mem_append.mp member with inside | outside
    · exact absurd inside (blank.not_mem visible)
    · exact outside
  | comma before after =>
    have inner := before.not_mem visible
    have outer := after.not_mem visible
    simp only [List.mem_append, List.mem_cons] at member ⊢
    tauto

/-- What stands between the commas, without the blanks around it. -/
def pieces (text : Text) : List Text := (text.splitOn ',').map Text.trim

private theorem pieces_append_cons (front back : Text) :
    pieces (front ++ ',' :: back) = pieces front ++ pieces back := by
  rw [pieces, List.splitOn_append_cons_self, List.map_append]
  rfl

private theorem pieces_of_not_mem {text : Text} (plain : ',' ∉ text) :
    pieces text = [text.trim] := by
  rw [pieces, List.splitOn_eq_singleton plain, List.map_singleton]

private theorem pieces_append_left {blanks : Text} (blank : Blank blanks) (text : Text) :
    pieces (blanks ++ text) = pieces text := by
  have absent : ',' ∉ blanks := blank.not_mem rfl
  by_cases member : ',' ∈ text
  · obtain ⟨first, rest, rfl, plain⟩ := List.eq_append_cons_of_mem member
    have both : ',' ∉ blanks ++ first := by
      rw [List.mem_append, not_or]
      exact ⟨absent, plain⟩
    rw [← List.append_assoc, pieces_append_cons, pieces_append_cons, pieces_of_not_mem both,
      pieces_of_not_mem plain, Text.trim_append_left blank]
  · have both : ',' ∉ blanks ++ text := by
      rw [List.mem_append, not_or]
      exact ⟨absent, member⟩
    rw [pieces_of_not_mem both, pieces_of_not_mem member, Text.trim_append_left blank]

private theorem pieces_append_right {blanks : Text} (blank : Blank blanks) (text : Text) :
    pieces (text ++ blanks) = pieces text := by
  have absent : ',' ∉ blanks := blank.not_mem rfl
  by_cases member : ',' ∈ text
  · -- The last comma of the text is the first one from the other end.
    obtain ⟨last, rest, turned, plain⟩ :=
      List.eq_append_cons_of_mem (List.mem_reverse.mpr member)
    have shape : text = rest.reverse ++ ',' :: last.reverse := by
      rw [← List.reverse_reverse text, turned]
      simp only [List.reverse_append, List.reverse_cons, List.append_assoc, List.singleton_append]
    have plain : ',' ∉ last.reverse := fun inside => plain (List.mem_reverse.mp inside)
    have both : ',' ∉ last.reverse ++ blanks := by
      rw [List.mem_append, not_or]
      exact ⟨plain, absent⟩
    rw [shape, List.append_assoc, List.cons_append, pieces_append_cons, pieces_append_cons,
      pieces_of_not_mem both, pieces_of_not_mem plain, Text.trim_append_right blank]
  · have both : ',' ∉ text ++ blanks := by
      rw [List.mem_append, not_or]
      exact ⟨member, absent⟩
    rw [pieces_of_not_mem both, pieces_of_not_mem member, Text.trim_append_right blank]

private theorem operandsOf_trim_comma (front back : Text) :
    operandsOf (Text.trim (front ++ ',' :: back)) = pieces front ++ pieces back := by
  have comma : Text.isBlank ',' = false := rfl
  obtain ⟨left, before, start⟩ := Text.exists_trimStart front
  obtain ⟨right, after, ending⟩ := Text.exists_trimEnd back
  rw [Text.trim_append_cons comma, operandsOf, if_neg (by simp)]
  show pieces _ = _
  conv_rhs => rw [start, ending, pieces_append_left before, pieces_append_right after]
  exact pieces_append_cons _ _

private theorem Spreads.operandsOf_eq {operands changed : Text}
    (spreads : Spreads operands changed) :
    operandsOf changed.trim = operandsOf operands.trim := by
  cases spreads with
  | start blank => rw [Text.trim_append_left blank]
  | comma before after =>
    rw [operandsOf_trim_comma, operandsOf_trim_comma, pieces_append_right before,
      pieces_append_left after]

/-! ## Comments -/

/-- Blanks around a mark stay what they are before a comment, and in one they do not count. -/
theorem code_around {mark : Char} (other : mark ≠ ';') {before after : Text}
    (blank : Blank before) (later : Blank after) (front back : Text) :
    code (front ++ before ++ mark :: (after ++ back)) = code (front ++ mark :: back) ∨
      code (front ++ mark :: back) = front ++ mark :: code back ∧
        code (front ++ before ++ mark :: (after ++ back)) =
          front ++ before ++ mark :: (after ++ code back) := by
  by_cases marked : ';' ∈ front
  · left
    rw [List.append_assoc, code_append_of_mem marked, code_append_of_mem marked]
  · right
    have whole : ';' ∉ front ++ before := by
      rw [List.mem_append, not_or]
      exact ⟨marked, blank.not_mem rfl⟩
    have stays (rest : Text) : code (mark :: rest) = mark :: code rest :=
      List.takeWhile_cons_of_pos (bne_iff_ne.mpr other)
    rw [code_append_of_not_mem marked, code_append_of_not_mem whole, stays, stays,
      code_append_of_not_mem (later.not_mem rfl)]
    exact ⟨rfl, rfl⟩

/-- In front of a comment the operands are spread; in a comment nothing changes. -/
theorem Spreads.code_append {operands changed : Text} (spreads : Spreads operands changed)
    (front : Text) :
    code (front ++ changed) = code (front ++ operands) ∨
      ∃ body spread, code (front ++ operands) = front ++ body ∧
        code (front ++ changed) = front ++ spread ∧ Spreads body spread := by
  by_cases marked : ';' ∈ front
  · rw [code_append_of_mem marked, code_append_of_mem marked]
    exact .inl rfl
  · rw [code_append_of_not_mem marked, code_append_of_not_mem marked]
    refine .inr ⟨_, _, rfl, rfl, ?_⟩
    cases spreads with
    | start blank =>
      rw [code_append_of_not_mem (blank.not_mem rfl)]
      exact .start blank
    | @comma first back before after blank later =>
      rcases code_around (show ',' ≠ ';' by decide) blank later first back with same | ⟨old, new⟩
      · rw [same]
        exact .refl _
      · rw [old, new]
        exact .comma blank later

/-! ## Labels -/

private theorem splitLabel_trim {head : Text} (plain : ':' ∉ head) (tail : Text) :
    splitLabel (Text.trim (head ++ ':' :: tail)) = (some head.trim, tail.trim) := by
  obtain ⟨blanks, -, start⟩ := Text.exists_trimStart head
  have inner : ':' ∉ head.trimStart := by
    intro member
    apply plain
    rw [start]
    exact List.mem_append_right blanks member
  rw [Text.trim_append_cons rfl, splitLabel_append inner, Text.trim_trimStart, Text.trim_trimEnd]

private theorem not_mem_of_isName_trim {name : Text} (named : isName name.trim = true) {mark : Char}
    (divides : Text.isSolid mark = false) (visible : Text.isBlank mark = false) : mark ∉ name := by
  obtain ⟨left, right, before, after, same⟩ := Text.exists_trim name
  have solid : Text.Solid name.trim := fun char member =>
    Program.isSolid_of_continuesName (Program.continuesName_of_mem named char member)
  rw [same, List.mem_append, List.mem_append, not_or, not_or]
  exact ⟨⟨before.not_mem visible, solid.not_mem divides⟩, after.not_mem visible⟩

/-- What stands before a statement: nothing, or a name and the colon after it. -/
inductive Heads (statement : Text) : Text → Prop where
  | nothing : ':' ∉ code statement → Heads statement []
  | label {name : Text} : isName name.trim = true → Heads statement (name ++ [':'])

/-! ## Lines -/

/-- A mnemonic with the blank that ends it. -/
inductive Opens : Text → Prop where
  | mnemonic {margin mnemonic : Text} {blank : Char} : Blank margin → Visible mnemonic →
      mnemonic ≠ [] → Text.isBlank blank = true → Opens (margin ++ mnemonic ++ [blank])

/-- One change of a line: blanks at an end, a comment, blanks around the first colon, or blanks in
the operands, if no text that is not a name stands before a colon. -/
inductive Respaced : Text → Text → Prop where
  | margin {blanks line : Text} : Blank blanks → Respaced line (blanks ++ line)
  | trailing {line blanks : Text} : Blank blanks → Respaced line (line ++ blanks)
  | comment {line comment : Text} : Respaced line (line ++ ';' :: comment)
  | colon {head tail before after : Text} : ':' ∉ head → Blank before → Blank after →
      Respaced (head ++ ':' :: tail) (head ++ before ++ ':' :: (after ++ tail))
  | operands {labelling opening operands changed : Text} : Opens opening →
      Heads (opening ++ operands) labelling → Spreads operands changed →
      Respaced (labelling ++ (opening ++ operands)) (labelling ++ (opening ++ changed))

/-- The assembler does not tell the lines apart. -/
def Alike (line changed : Text) : Prop :=
  ∀ (layout : Layout) (number : Nat), layout.addText number changed = layout.addText number line

private theorem alike_of_splitLabel {line changed : Text}
    (same : splitLabel (stripComment changed) = splitLabel (stripComment line)) :
    Alike line changed := by
  intro layout number
  rw [Layout.addText, Layout.addText, same]

private theorem alike_of_stripComment {line changed : Text}
    (same : stripComment changed = stripComment line) : Alike line changed :=
  alike_of_splitLabel (by rw [same])

private theorem alike_margin {blanks : Text} (blank : Blank blanks) (line : Text) :
    Alike line (blanks ++ line) := by
  apply alike_of_stripComment
  show Text.trim (code (blanks ++ line)) = Text.trim (code line)
  rw [code_append_of_not_mem (blank.not_mem rfl), Text.trim_append_left blank]

private theorem alike_colon {head before after : Text} (plain : ':' ∉ head) (blank : Blank before)
    (later : Blank after) (tail : Text) :
    Alike (head ++ ':' :: tail) (head ++ before ++ ':' :: (after ++ tail)) := by
  rcases code_around (show ':' ≠ ';' by decide) blank later head tail with same | ⟨old, new⟩
  · apply alike_of_stripComment
    show Text.trim (code _) = Text.trim (code _)
    rw [same]
  · apply alike_of_splitLabel
    have front : ':' ∉ head ++ before := by
      rw [List.mem_append, not_or]
      exact ⟨plain, blank.not_mem rfl⟩
    show splitLabel (Text.trim (code _)) = splitLabel (Text.trim (code _))
    rw [old, new, splitLabel_trim front, splitLabel_trim plain, Text.trim_append_right blank,
      Text.trim_append_left later]

private theorem Opens.splitWord {opening : Text} (opens : Opens opening) :
    ∃ mnemonic, mnemonic ≠ [] ∧ ∀ rest,
      Text.splitWord (Text.trim (opening ++ rest)) = (mnemonic, Text.trim rest) := by
  cases opens with
  | @mnemonic margin mnemonic blank before visible some ends =>
    refine ⟨mnemonic, some, ?_⟩
    intro rest
    have shape : margin ++ mnemonic ++ [blank] ++ rest = margin ++ (mnemonic ++ blank :: rest) := by
      simp
    rw [shape, Text.trim_append_left before, Text.splitWord_trim visible some ends]

private theorem Layout.addStatement_of_ne_nil (layout : Layout) (number : Nat) {text : Text}
    (some : text ≠ []) :
    layout.addStatement number text = (do
      let statement ← Statement.parse text
      let (statement, address) ← layout.locate statement
      .ok { layout with address, placed := layout.placed.push ⟨number, statement⟩ }) := by
  rw [addStatement, if_neg (by simpa using some)]

private theorem Opens.addStatement {opening operands changed : Text} (opens : Opens opening)
    (spreads : Spreads operands changed) (layout : Layout) (number : Nat) :
    layout.addStatement number (Text.trim (code (opening ++ changed))) =
      layout.addStatement number (Text.trim (code (opening ++ operands))) := by
  rcases spreads.code_append opening with same | ⟨body, spread, old, new, spreads⟩
  · rw [same]
  · obtain ⟨mnemonic, some, split⟩ := opens.splitWord
    have nonempty (rest : Text) : Text.trim (opening ++ rest) ≠ [] := by
      intro nothing
      have word := split rest
      rw [nothing] at word
      exact some (congrArg Prod.fst word).symm
    have parsed : Statement.parse (Text.trim (opening ++ spread)) =
        Statement.parse (Text.trim (opening ++ body)) := by
      simp only [Statement.parse, split, spreads.operandsOf_eq]
    rw [old, new, layout.addStatement_of_ne_nil number (nonempty _),
      layout.addStatement_of_ne_nil number (nonempty _), parsed]

private theorem not_mem_code_of_spreads {opening operands changed : Text}
    (spreads : Spreads operands changed) (plain : ':' ∉ code (opening ++ operands)) :
    ':' ∉ code (opening ++ changed) := by
  rcases spreads.code_append opening with same | ⟨body, spread, old, new, spreads⟩
  · rwa [same]
  · rw [old, List.mem_append, not_or] at plain
    rw [new, List.mem_append, not_or]
    exact ⟨plain.1, fun member => plain.2 (spreads.mem rfl member)⟩

private theorem addText_of_not_mem {line : Text} (plain : ':' ∉ code line) (layout : Layout)
    (number : Nat) :
    layout.addText number line = layout.addStatement number (Text.trim (code line)) := by
  have inner : ':' ∉ stripComment line := by
    obtain ⟨left, right, -, -, same⟩ := Text.exists_trim (code line)
    intro member
    apply plain
    rw [same]
    exact List.mem_append_left right (List.mem_append_right left member)
  rw [Layout.addText, splitLabel_of_not_mem inner]
  rfl

private theorem addText_label {name : Text} (named : isName name.trim = true) (statement : Text)
    (layout : Layout) (number : Nat) :
    layout.addText number (name ++ [':'] ++ statement) = (do
      let labelled ← layout.addLabel name.trim
      labelled.addStatement number (Text.trim (code statement))) := by
  have colon : ':' ∉ name := not_mem_of_isName_trim named rfl rfl
  have semicolon : ';' ∉ name ++ [':'] := by
    rw [List.mem_append, not_or]
    exact ⟨not_mem_of_isName_trim named rfl rfl, by decide⟩
  have divided : splitLabel (stripComment (name ++ [':'] ++ statement)) =
      (some name.trim, (code statement).trim) := by
    show splitLabel (Text.trim (code _)) = _
    rw [code_append_of_not_mem semicolon, List.append_assoc]
    exact splitLabel_trim colon (code statement)
  rw [Layout.addText, divided]

private theorem alike_operands {labelling opening operands changed : Text} (opens : Opens opening)
    (heads : Heads (opening ++ operands) labelling) (spreads : Spreads operands changed) :
    Alike (labelling ++ (opening ++ operands)) (labelling ++ (opening ++ changed)) := by
  intro layout number
  cases heads with
  | nothing plain =>
    rw [List.nil_append, List.nil_append, addText_of_not_mem plain,
      addText_of_not_mem (not_mem_code_of_spreads spreads plain), opens.addStatement spreads]
  | label named =>
    rw [addText_label named, addText_label named]
    simp only [opens.addStatement spreads]

private theorem Respaced.alike {line changed : Text} (respaced : Respaced line changed) :
    Alike line changed := by
  cases respaced with
  | margin blank => exact alike_margin blank line
  | trailing blank =>
    exact alike_of_stripComment (stripComment_append_of_blank (blank_code blank) line)
  | @comment line comment =>
    have nothing : code (';' :: comment) = [] := rfl
    exact alike_of_stripComment (stripComment_append_of_blank (nothing ▸ nofun) line)
  | colon plain before after => exact alike_colon plain before after _
  | operands opens heads spreads => exact alike_operands opens heads spreads

private theorem alike_of_respaced {line changed : Text}
    (respaced : Relation.ReflTransGen Respaced line changed) : Alike line changed := by
  induction respaced with
  | refl => exact fun _ _ => rfl
  | tail _ step ih =>
    intro layout number
    rw [step.alike layout number, ih layout number]

/-- A line with nothing before its comment. -/
def Vacant (line : Text) : Prop := Blank (code line)

instance (line : Text) : Decidable (Vacant line) := inferInstanceAs (Decidable (Blank _))

private theorem Vacant.addText {line : Text} (vacant : Vacant line) (layout : Layout)
    (number : Nat) :
    layout.addText number line = .ok layout := by
  have nothing : stripComment line = [] := Text.trim_of_blank vacant
  rw [Layout.addText, nothing]
  rfl

/-! ## Line numbers -/

section

variable (place : Nat → Nat)

def Error.renumber (error : Error) : Error := ⟨place error.line, error.cause⟩

def Placed.renumber (placed : Placed) : Placed := ⟨place placed.line, placed.statement⟩

def Layout.renumber (layout : Layout) : Layout :=
  { layout with placed := layout.placed.map (Placed.renumber place) }

namespace Layout

private theorem renumber_empty : renumber place empty = empty :=
  congrArg (Layout.mk 0 .empty) Array.map_empty

variable (layout : Layout)

private theorem addLabel_renumber (label : Text) :
    Corresponds (renumber place) id (layout.addLabel label)
      ((layout.renumber place).addLabel label) := by
  have defined : (layout.renumber place).symbols.define? label (layout.renumber place).address =
      layout.symbols.define? label layout.address := rfl
  rw [addLabel, addLabel, defined]
  by_cases named : isName label = true
  · rw [if_pos named, if_pos named]
    cases layout.symbols.define? label layout.address with
    | some symbols => exact .ok _
    | none => exact .error _
  · rw [if_neg named, if_neg named]
    exact .error _

private theorem locate_renumber (statement : Statement Text) :
    (layout.renumber place).locate statement = layout.locate statement := by
  cases statement <;> rfl

private theorem addStatement_renumber (number : Nat) (text : Text) :
    Corresponds (renumber place) id (layout.addStatement number text)
      ((layout.renumber place).addStatement (place number) text) := by
  rw [addStatement, addStatement]
  by_cases nothing : text.isEmpty = true
  · rw [if_pos nothing, if_pos nothing]
    exact .ok _
  · rw [if_neg nothing, if_neg nothing]
    cases Statement.parse text with
    | error cause => exact .error cause
    | ok statement =>
      show Corresponds _ _ (layout.locate statement >>= _)
        ((layout.renumber place).locate statement >>= _)
      rw [locate_renumber]
      cases layout.locate statement with
      | error cause => exact .error cause
      | ok located =>
        obtain ⟨statement, address⟩ := located
        have pushed : renumber place { layout with
            address, placed := layout.placed.push ⟨number, statement⟩ } =
            ⟨address, layout.symbols, (layout.renumber place).placed.push
              ⟨place number, statement⟩⟩ := by
          rw [renumber, Array.map_push]
          rfl
        exact congrArg Except.ok pushed.symm

private theorem addText_renumber (number : Nat) (text : Text) :
    Corresponds (renumber place) id (layout.addText number text)
      ((layout.renumber place).addText (place number) text) := by
  rw [addText, addText]
  rcases splitLabel (stripComment text) with ⟨label?, rest⟩
  cases label? with
  | none => exact layout.addStatement_renumber place number rest
  | some label =>
    apply (layout.addLabel_renumber place label).bind
    intro labelled
    exact labelled.addStatement_renumber place number rest

private theorem addLine_renumber (number : Nat) {line changed : Text} (alike : Alike line changed) :
    Corresponds (renumber place) (Error.renumber place) (layout.addLine (line, number))
      ((layout.renumber place).addLine (changed, place number)) := by
  have text := layout.addText_renumber place number line
  rw [← alike (layout.renumber place)] at text
  exact text.mapError fun _ => rfl

private theorem emit_renumber :
    Corresponds id (Error.renumber place) layout.emit (layout.renumber place).emit := by
  rw [emit, emit, ← Array.foldlM_toList, ← Array.foldlM_toList]
  show Corresponds _ _ _ ((layout.placed.map (Placed.renumber place)).toList.foldlM _ _)
  rw [Array.toList_map]
  apply Corresponds.foldlM
  intro output placed
  have emitted : Corresponds id id (Assembly.emit layout.symbols output placed.statement)
      (Assembly.emit layout.symbols output placed.statement) := by
    cases Assembly.emit layout.symbols output placed.statement with
    | ok value => exact .ok value
    | error cause => exact .error cause
  exact emitted.mapError fun _ => rfl

end Layout

end

/-! ## Edits -/

/-- What happens where a line is: a new line comes in, or the old one is laid out in another way. -/
inductive Edit where
  | insert (line : Text)
  | keep (line changed : Text)

namespace Edit

def old? : Edit → Option Text
  | insert _ => none
  | keep line _ => some line

def new : Edit → Text
  | insert line => line
  | keep _ changed => changed

def olds (edits : List Edit) : List Text := edits.filterMap old?

def news (edits : List Edit) : List Text := edits.map new

/-- Where the old line with the index stands among the new ones. -/
def position : List Edit → Nat → Nat
  | insert _ :: edits, index => position edits index + 1
  | keep _ _ :: edits, index + 1 => position edits index + 1
  | keep _ _ :: _, 0 => 0
  | [], index => index

/-- An edit that adds only blanks and comments. -/
inductive Harmless : Edit → Prop where
  | insert {line : Text} : Vacant line → Harmless (insert line)
  | keep {line changed : Text} :
      Relation.ReflTransGen Respaced line changed → Harmless (keep line changed)

private theorem getElem?_position {edits : List Edit} {index : Nat} {line : Text}
    (found : (olds edits)[index]? = some line) :
    ∃ changed, keep line changed ∈ edits ∧ (news edits)[position edits index]? = some changed := by
  induction edits generalizing index with
  | nil => cases found
  | cons edit edits ih =>
    cases edit with
    | insert added =>
      obtain ⟨changed, listed, placed⟩ := ih found
      exact ⟨changed, List.mem_cons_of_mem _ listed, placed⟩
    | keep kept changed =>
      cases index with
      | zero =>
        cases found
        exact ⟨changed, List.mem_cons_self, rfl⟩
      | succ index =>
        obtain ⟨changed, listed, placed⟩ := ih found
        exact ⟨changed, List.mem_cons_of_mem _ listed, placed⟩

/-- The lines of both texts are read side by side; `place` says where a line of the old text is. -/
theorem addLines_renumber (place : Nat → Nat) {edits : List Edit}
    (harmless : ∀ edit ∈ edits, edit.Harmless) (layout : Layout) (old new : Nat)
    (places : ∀ index, place (old + index) = new + position edits index) :
    Corresponds (Layout.renumber place) (Error.renumber place)
      (layout.addLines ((olds edits).zipIdx old))
      ((layout.renumber place).addLines ((news edits).zipIdx new)) := by
  induction edits generalizing layout old new with
  | nil => exact .ok layout
  | cons edit edits ih =>
    have rest := fun edit member => harmless edit (List.mem_cons_of_mem _ member)
    cases harmless edit List.mem_cons_self with
    | @insert line vacant =>
      have skipped : (layout.renumber place).addLines ((news (insert line :: edits)).zipIdx new) =
          (layout.renumber place).addLines ((news edits).zipIdx (new + 1)) := by
        show (layout.renumber place).addLine (line, new) >>= _ = _
        rw [Layout.addLine, vacant.addText]
        rfl
      rw [skipped]
      apply ih rest
      intro index
      have moved := places index
      rw [position] at moved
      omega
    | @keep line changed respaced =>
      have here : place old = new := places 0
      have first := layout.addLine_renumber place old (alike_of_respaced respaced)
      rw [here] at first
      apply first.bind
      intro layout
      apply ih rest
      intro index
      have moved := places (index + 1)
      rw [position] at moved
      rw [Nat.add_right_comm, Nat.add_assoc, moved]
      omega

end Edit

/-! ## Sources -/

/-- The number is that of a line of the source. -/
def Numbers (source : Text) (number : Nat) : Prop :=
  ∃ index line, source.lines[index]? = some line ∧ number = index + 1

private theorem numbers_of_mem {source : Text} {entry : Text × Nat}
    (member : entry ∈ numberedLines source) : Numbers source entry.2 := by
  obtain ⟨above, found⟩ := List.mem_zipIdx_iff_le_and_getElem?_sub.mp member
  exact ⟨entry.2 - 1, entry.1, found, by omega⟩

/-- Every refusal names a line of the source. -/
theorem assemble_names_line (source : Text) :
    FailsWithin (assemble source) fun error => Numbers source error.line := by
  refine FailsWithin.bind ?_ fun layout added => FailsWithin.bind ?_ fun words _ => .ok
  · apply FailsWithin.foldlM
    intro entry member layout
    exact FailsWithin.mapError fun _ _ => numbers_of_mem member
  · rw [Layout.emit, ← Array.foldlM_toList]
    apply FailsWithin.foldlM
    intro placed member output
    obtain ⟨entry, listed, here, -⟩ := Layout.placedFrom_addLines added placed member
    exact FailsWithin.mapError fun _ _ => here ▸ numbers_of_mem listed

private theorem assemble_renumber {left right : Text} {edits : List Edit}
    (harmless : ∀ edit ∈ edits, edit.Harmless) (before : left.lines = Edit.olds edits)
    (after : right.lines = Edit.news edits) :
    Corresponds id (Error.renumber fun number => Edit.position edits (number - 1) + 1)
      (assemble left) (assemble right) := by
  have laidOut := Edit.addLines_renumber (fun number => Edit.position edits (number - 1) + 1)
    harmless .empty 1 1 (fun index => by rw [Nat.add_sub_cancel_left, Nat.add_comm])
  rw [Layout.renumber_empty, ← before, ← after] at laidOut
  apply laidOut.bind
  intro layout
  exact (layout.emit_renumber _).bind fun _ => .ok _

/-- Blank lines, comments and blanks between the parts of a line change neither the words of a
source nor the cause of its refusal. The line that is refused is the same one, at the place where
it stands now, and so is a line where the assembler stops. -/
theorem spacing_makes_no_difference (left right : Text) (edits : List Edit)
    (harmless : ∀ edit ∈ edits, edit.Harmless) (before : left.lines = Edit.olds edits)
    (after : right.lines = Edit.news edits) :
    (∃ words, assemble left = .ok words ∧ assemble right = .ok words) ∨
      ∃ index line changed, left.lines[index]? = some line ∧
        Edit.keep line changed ∈ edits ∧
        right.lines[Edit.position edits index]? = some changed ∧
        ((∃ cause, Reports left ⟨index + 1, cause⟩ ∧
            Reports right ⟨Edit.position edits index + 1, cause⟩) ∨
          StopsAt left (index + 1) ∧ StopsAt right (Edit.position edits index + 1)) := by
  have corresponds := assemble_renumber harmless before after
  cases outcome : assemble left with
  | ok words =>
    rw [outcome] at corresponds
    exact .inl ⟨words, rfl, corresponds⟩
  | error error =>
    obtain ⟨index, line, found, number⟩ := assemble_names_line left error outcome
    obtain ⟨refused, cause⟩ := error
    cases number
    obtain ⟨changed, kept, placed⟩ := Edit.getElem?_position (before ▸ found)
    rw [outcome] at corresponds
    refine .inr ⟨index, line, changed, found, kept, after ▸ placed, ?_⟩
    by_cases stops : cause = .overflow
    · cases stops
      exact .inr ⟨stopsAt_of_assemble outcome, stopsAt_of_assemble corresponds⟩
    · exact .inl ⟨cause, ⟨outcome, stops⟩, ⟨corresponds, stops⟩⟩

def tight : Text := "one: dat 1\nadd r1,r2".toList

def loose : Text := "; a number\n one\t: dat 1\n\nadd  r1 ,r2; no third".toList

def loosening : List Edit :=
  [.insert "; a number".toList, .keep "one: dat 1".toList " one\t: dat 1".toList, .insert [],
    .keep "add r1,r2".toList "add  r1 ,r2; no third".toList]

private theorem harmless_loosening : ∀ edit ∈ loosening, edit.Harmless := by
  have space : Blank " ".toList := by decide
  have labelled : Relation.ReflTransGen Respaced "one: dat 1".toList " one\t: dat 1".toList :=
    .tail (.single (@Respaced.colon "one".toList " dat 1".toList "\t".toList [] (by decide)
      (by decide) nofun)) (@Respaced.margin " ".toList "one\t: dat 1".toList space)
  have add : Opens "add ".toList :=
    @Opens.mnemonic [] "add".toList ' ' nofun (by decide) (by decide) rfl
  have comma : Respaced "add r1,r2".toList "add r1 ,r2".toList :=
    @Respaced.operands [] "add ".toList "r1,r2".toList "r1 ,r2".toList add (.nothing (by decide))
      (@Spreads.comma "r1".toList "r2".toList " ".toList [] space nofun)
  have start : Respaced "add r1 ,r2".toList "add  r1 ,r2".toList :=
    @Respaced.operands [] "add ".toList "r1 ,r2".toList " r1 ,r2".toList add (.nothing (by decide))
      (@Spreads.start " ".toList "r1 ,r2".toList space)
  have comment : Respaced "add  r1 ,r2".toList "add  r1 ,r2; no third".toList :=
    @Respaced.comment "add  r1 ,r2".toList " no third".toList
  intro edit member
  simp only [loosening, List.mem_cons, List.not_mem_nil, or_false] at member
  rcases member with rfl | rfl | rfl | rfl
  · exact .insert (by decide)
  · exact .keep labelled
  · exact .insert nofun
  · exact .keep (((Relation.ReflTransGen.single comma).tail start).tail comment)

/-- The second line is refused as the fourth one now. -/
theorem loose_is_refused_as_tight :
    ∃ cause, Reports tight ⟨2, cause⟩ ∧ Reports loose ⟨4, cause⟩ := by
  have refused : assemble tight = .error ⟨2, .malformed (.registers .add)⟩ := by decide +kernel
  rcases spacing_makes_no_difference tight loose loosening harmless_loosening (by decide +kernel)
    (by decide +kernel) with
    ⟨words, assembled, -⟩ | ⟨index, line, changed, -, -, -, ⟨cause, before, after⟩ | ⟨stops, -⟩⟩
  · cases refused.symm.trans assembled
  · cases refused.symm.trans before.refused
    exact ⟨_, before, after⟩
  · cases refused.symm.trans stops.stopped

/-- A comment after a number at which the assembler stops leaves neither words nor an error. -/
theorem commented_number_stops :
    let line : Text := ".word -0x-8000000000000000".toList
    let changed : Text := line ++ ';' :: " the least".toList
    let edits : List Edit := [.keep line changed]
    (∀ edit ∈ edits, edit.Harmless) ∧ line.lines = Edit.olds edits ∧
      changed.lines = Edit.news edits ∧
      ¬((∃ words, assemble line = .ok words ∧ assemble changed = .ok words) ∨
        ∃ cause, Reports line ⟨1, cause⟩ ∧ Reports changed ⟨1, cause⟩) := by
  intro line changed edits
  have stops : StopsAt line 1 := stopsAt_of_assemble (by decide +kernel)
  refine ⟨?_, by decide +kernel, by decide +kernel, ?_⟩
  · exact List.forall_mem_singleton.mpr (.keep (.single .comment))
  · rintro (⟨words, assembled, -⟩ | ⟨cause, reports, -⟩)
    · exact stops.ne_ok words assembled
    · exact stops.not_reports _ reports

end WordMachine.Assembly
