import WordMachine.Proofs.Assembly.Encoding

/-! Statements are read back from every way of writing an item. -/

set_option autoImplicit false

namespace WordMachine.Assembly.Program

/-! ## Gaps -/

theorem gap_nil : Gap [] := nofun

theorem Gap.cons {char : Char} {text : Text} (blank : Text.isBlank char = true)
    (within : char ≠ '\n') (gap : Gap text) : Gap (char :: text) :=
  List.forall_mem_cons.mpr ⟨⟨blank, within⟩, gap⟩

theorem gap_space : Gap [' '] := gap_nil.cons rfl (by decide)

theorem Gap.blank {text : Text} (gap : Gap text) : Text.Blank text :=
  fun char member => (gap char member).1

private theorem Gap.not_mem {text : Text} (gap : Gap text) {mark : Char}
    (visible : Text.isBlank mark = false) : mark ∉ text := gap.blank.not_mem visible

/-- A character that stands neither in operands nor in the gaps around them. -/
structure Foreign (mark : Char) : Prop where
  divides : Text.isSolid mark = false
  outside : ∀ text, Gap text → mark ∉ text
  other : mark ≠ ','

theorem foreign_semicolon : Foreign ';' := ⟨rfl, fun _ gap => gap.not_mem rfl, by decide⟩

theorem foreign_colon : Foreign ':' := ⟨rfl, fun _ gap => gap.not_mem rfl, by decide⟩

theorem foreign_lineFeed : Foreign '\n' :=
  ⟨rfl, fun _ gap member => (gap '\n' member).2 rfl, by decide⟩

/-! ## Operands -/

private theorem WritesValue.solid {value : Value} {text : Text} (written : WritesValue value text) :
    Text.Solid text := by
  cases written with
  | number written => exact written.solid
  | label written => exact written.solid

private theorem WritesValue.ne_nil {value : Value} {text : Text}
    (written : WritesValue value text) :
    text ≠ [] := by
  cases written with
  | number written => exact written.ne_nil
  | label written => exact written.ne_nil

private theorem WritesOperand.solid {operand : Operand} {text : Text}
    (written : WritesOperand operand text) : Text.Solid text := by
  cases written with
  | register written => exact written.solid
  | value written => exact written.solid

private theorem WritesOperand.ne_nil {operand : Operand} {text : Text}
    (written : WritesOperand operand text) : text ≠ [] := by
  cases written with
  | register written => exact written.ne_nil
  | value written => exact written.ne_nil

private theorem WritesOperands.ne_nil {operands : List Operand} {text : Text}
    (written : WritesOperands operands text) : text ≠ [] := by
  cases written with
  | single written => exact written.ne_nil
  | cons written =>
    intro empty
    exact written.ne_nil (List.append_eq_nil_iff.mp (List.append_eq_nil_iff.mp empty).1).1

private theorem WritesOperands.trimmed {operands : List Operand} {text : Text}
    (written : WritesOperands operands text) : Text.Trimmed text := by
  induction written with
  | single written => exact written.solid.trimmed
  | @cons operand operands text before after rest written _ _ others ih =>
    have around := written.solid.trimmed.around ih written.ne_nil others.ne_nil
      (before ++ ',' :: after)
    simpa only [List.append_assoc, List.cons_append] using around

private theorem WritesOperands.not_mem {operands : List Operand} {text : Text}
    (written : WritesOperands operands text) {mark : Char} (foreign : Foreign mark) :
    mark ∉ text := by
  induction written with
  | single written => exact written.solid.not_mem foreign.divides
  | cons written before after _ ih =>
    simp only [List.mem_append, List.mem_cons, not_or]
    exact ⟨⟨written.solid.not_mem foreign.divides, foreign.outside _ before⟩, foreign.other,
      foreign.outside _ after, ih⟩

/-- The commas separate exactly the operands. -/
theorem WritesOperands.split {operands : List Operand} {text : Text}
    (written : WritesOperands operands text) :
    ∃ texts, List.Forall₂ WritesOperand operands texts ∧
      ∀ gap, Gap gap → ((gap ++ text).splitOn ',').map Text.trim = texts := by
  induction written with
  | @single operand text written =>
    refine ⟨[text], .cons written .nil, ?_⟩
    intro gap blank
    have whole : (gap ++ text).splitOn ',' = [gap ++ text] := by
      apply List.splitOn_eq_singleton
      rw [List.mem_append, not_or]
      exact ⟨blank.not_mem rfl, written.solid.not_mem rfl⟩
    rw [whole, List.map_singleton, Text.trim_append_left blank.blank, written.solid.trimmed.trim_eq]
  | @cons operand operands text before after rest written blanks later _ ih =>
    obtain ⟨texts, each, same⟩ := ih
    refine ⟨text :: texts, .cons written each, ?_⟩
    intro gap blank
    have first : ',' ∉ gap ++ (text ++ before) := by
      simp only [List.mem_append, not_or]
      exact ⟨blank.not_mem rfl, written.solid.not_mem rfl, blanks.not_mem rfl⟩
    rw [← List.append_assoc, List.splitOn_append_cons_self_of_not_mem first, List.map_cons,
      same after later, ← List.append_assoc,
      Text.trim_between blank.blank written.solid.trimmed blanks.blank]

private theorem operandsOf_writes {operands : List Operand} {text : Text}
    (written : WritesOperands operands text) :
    List.Forall₂ WritesOperand operands (operandsOf text) := by
  obtain ⟨texts, each, same⟩ := written.split
  have split := same [] nofun
  rw [List.nil_append] at split
  rw [operandsOf, if_neg (by simpa using written.ne_nil), split]
  exact each

/-! ## Keywords -/

private theorem mnemonic_solid (opcode : Opcode) :
    Text.Solid opcode.mnemonic ∧ opcode.mnemonic ≠ [] := by
  cases opcode <;> decide +kernel

private theorem Item.keywords_solid (item : Item) {keyword : Text}
    (known : keyword.lower ∈ item.keywords) :
    Text.Solid keyword ∧ keyword ≠ [] := by
  have words : ∀ word ∈ item.keywords, Text.Solid word ∧ word ≠ [] := by
    have directives : ∀ word ∈ [["halt".toList, "hlt".toList], ["exit".toList],
        [".word".toList, "dat".toList, "data".toList], [".org".toList, "org".toList]].flatten,
        Text.Solid word ∧ word ≠ [] := by
      decide +kernel
    intro word member
    cases item with
    | registers opcode | immediate opcode =>
      rw [List.mem_singleton.mp member]
      exact mnemonic_solid opcode
    | complement | branch =>
      rw [List.mem_singleton.mp member]
      exact mnemonic_solid _
    | halt | exit | data | origin =>
      exact directives word (List.mem_flatten_of_mem (by simp [Item.keywords]) member)
  obtain ⟨solid, some⟩ := words keyword.lower known
  refine ⟨solid.of_lower, ?_⟩
  intro same
  subst same
  exact some rfl

theorem ofName?_lower (name : Text) : Directive.ofName? name.lower = Directive.ofName? name := by
  rw [Directive.ofName?, Directive.ofName?, Text.lower_lower]

theorem ofMnemonic?_lower (name : Text) :
    Opcode.ofMnemonic? name.lower = Opcode.ofMnemonic? name := by
  simp only [Opcode.ofMnemonic?, Text.sameName, Text.lower_lower]

private theorem ofName?_mnemonic (opcode : Opcode) : Directive.ofName? opcode.mnemonic = none := by
  cases opcode <;> decide +kernel

section Parsing

variable {text keyword rest : Text} (split : text.splitWord = (keyword, rest))

include split

private theorem parse_of_opcode {opcode : Opcode} (named : keyword.lower = opcode.mnemonic) :
    Statement.parse text = .ok (.instruction opcode (operandsOf rest)) := by
  have directive : Directive.ofName? keyword = none := by
    rw [← ofName?_lower, named, ofName?_mnemonic]
  have operation : Opcode.ofMnemonic? keyword = some opcode := by
    rw [← ofMnemonic?_lower, named, Opcode.ofMnemonic?_mnemonic]
  simp only [Statement.parse, split, directive, operation]

private theorem parse_of_directive {directive : Directive}
    (named : Directive.ofName? keyword.lower = some directive) :
    Statement.parse text = directive.statement (operandsOf rest) := by
  rw [ofName?_lower] at named
  simp only [Statement.parse, split, named]

private theorem parse_of_directive_value {directive : Directive} {value : Value}
    (wrap : Text → Statement Text) (shape : ∀ first others,
      directive.statement [first :: others] = .ok (wrap (first :: others)))
    (named : Directive.ofName? keyword.lower = some directive)
    (each : List.Forall₂ WritesOperand [.value value] (operandsOf rest)) :
    ∃ operand, WritesValue value operand ∧ Statement.parse text = .ok (wrap operand) := by
  have parsed := parse_of_directive split named
  generalize operandsOf rest = texts at each parsed
  cases each with
  | @cons _ operand _ _ written none =>
    cases none
    cases written with
    | value written =>
      cases operand with
      | nil => exact absurd rfl written.ne_nil
      | cons first others => exact ⟨first :: others, written, parsed.trans (shape first others)⟩

/-- The first word and the operands after it are read as the item that they write. -/
theorem parse_of_keyword {item : Item} (known : keyword.lower ∈ item.keywords)
    (each : List.Forall₂ WritesOperand item.operands (operandsOf rest)) :
    ∃ statement, Statement.parse text = .ok statement ∧ Reads WritesValue item statement := by
  cases item with
  | registers opcode form r1 r2 r3 =>
    have parsed := parse_of_opcode split (List.mem_singleton.mp known)
    refine ⟨_, parsed, ?_⟩
    generalize operandsOf rest = texts at each
    rcases each with _ | ⟨⟨one⟩, _ | ⟨⟨two⟩, _ | ⟨⟨three⟩, none⟩⟩⟩
    cases none
    exact .registers one two three
  | complement r1 r2 =>
    have parsed := parse_of_opcode split (List.mem_singleton.mp known)
    refine ⟨_, parsed, ?_⟩
    generalize operandsOf rest = texts at each
    rcases each with _ | ⟨⟨one⟩, _ | ⟨⟨two⟩, none⟩⟩
    cases none
    exact .complement one two
  | immediate opcode form register value =>
    have parsed := parse_of_opcode split (List.mem_singleton.mp known)
    refine ⟨_, parsed, ?_⟩
    generalize operandsOf rest = texts at each
    rcases each with _ | ⟨⟨one⟩, _ | ⟨_ | ⟨⟨two⟩⟩, none⟩⟩
    cases none
    exact .immediate one two
  | branch register target =>
    have parsed := parse_of_opcode split (List.mem_singleton.mp known)
    refine ⟨_, parsed, ?_⟩
    generalize operandsOf rest = texts at each
    rcases each with _ | ⟨⟨one⟩, _ | ⟨_ | ⟨_ | ⟨two⟩⟩, none⟩⟩
    cases none
    exact .branch one two
  | halt =>
    have names : ∀ word ∈ ["halt".toList, "hlt".toList],
        Directive.ofName? word = some .halt := by
      decide +kernel
    have parsed := parse_of_directive split (names _ known)
    generalize operandsOf rest = texts at each parsed
    cases each
    exact ⟨.halt, parsed, .halt⟩
  | exit digit =>
    have names : ∀ word ∈ ["exit".toList], Directive.ofName? word = some .exit := by
      decide +kernel
    obtain ⟨operand, written, parsed⟩ :=
      parse_of_directive_value split Statement.exit (fun _ _ => rfl) (names _ known) each
    cases written with
    | number written => exact ⟨.exit operand, parsed, .exit written⟩
  | data value =>
    have names : ∀ word ∈ [".word".toList, "dat".toList, "data".toList],
        Directive.ofName? word = some .data := by
      decide +kernel
    obtain ⟨operand, written, parsed⟩ :=
      parse_of_directive_value split Statement.data (fun _ _ => rfl) (names _ known) each
    exact ⟨.data operand, parsed, .data written⟩
  | origin target =>
    have names : ∀ word ∈ [".org".toList, "org".toList],
        Directive.ofName? word = some .origin := by
      decide +kernel
    obtain ⟨operand, written, parsed⟩ :=
      parse_of_directive_value split Statement.origin (fun _ _ => rfl) (names _ known) each
    exact ⟨.origin operand, parsed, .origin written⟩

end Parsing

/-! ## Items -/

theorem WritesItem.parse {item : Item} {text : Text} (written : WritesItem item text) :
    ∃ statement, Statement.parse text = .ok statement ∧ Reads WritesValue item statement := by
  cases written with
  | bare known none =>
    apply parse_of_keyword (Text.splitWord_of_visible (item.keywords_solid known).1.visible) known
    rw [none]
    exact .nil
  | full known gap some operands =>
    exact parse_of_keyword
      (Text.splitWord_append (item.keywords_solid known).1.visible gap.blank some operands.trimmed)
      known (operandsOf_writes operands)

theorem WritesItem.ne_nil {item : Item} {text : Text} (written : WritesItem item text) :
    text ≠ [] := by
  cases written with
  | bare known => exact (item.keywords_solid known).2
  | full known =>
    intro empty
    exact (item.keywords_solid known).2
      (List.append_eq_nil_iff.mp (List.append_eq_nil_iff.mp empty).1).1

theorem WritesItem.trimmed {item : Item} {text : Text} (written : WritesItem item text) :
    Text.Trimmed text := by
  cases written with
  | bare known => exact (item.keywords_solid known).1.trimmed
  | full known _ _ operands =>
    exact (item.keywords_solid known).1.trimmed.around operands.trimmed
      (item.keywords_solid known).2 operands.ne_nil _

theorem WritesItem.not_mem {item : Item} {text : Text} (written : WritesItem item text)
    {mark : Char} (foreign : Foreign mark) : mark ∉ text := by
  cases written with
  | bare known => exact (item.keywords_solid known).1.not_mem foreign.divides
  | full known gap _ operands =>
    simp only [List.mem_append, not_or]
    exact ⟨⟨(item.keywords_solid known).1.not_mem foreign.divides, foreign.outside _ gap⟩,
      operands.not_mem foreign⟩

end WordMachine.Assembly.Program
