import WordMachine.Proofs.Assembly.Effect

/-! Addresses. The first pass counts them, the second one measures the words so far, and nothing
passes between the two but the labels. They agree at every line, because each line adds as many
words as the first pass has counted. -/

set_option autoImplicit false

namespace WordMachine.Assembly

/-! ## Both passes -/

namespace Layout

/-- The words of what has been placed so far, with labels from anywhere. -/
def emitWith (layout : Layout) (symbols : Symbols) : Except Error (Array Word) :=
  layout.placed.foldlM (emitPlaced symbols) #[]

private theorem emit_eq (layout : Layout) : layout.emit = layout.emitWith layout.symbols := rfl

theorem emitWith_push (layout : Layout) (symbols : Symbols) (address : Nat) (placed : Placed) :
    emitWith { layout with address, placed := layout.placed.push placed } symbols =
      layout.emitWith symbols >>= fun output => emitPlaced symbols output placed := by
  simp [emitWith]

theorem emitWith_of_placed {layout later : Layout} (symbols : Symbols)
    (same : later.placed = layout.placed) : later.emitWith symbols = layout.emitWith symbols := by
  rw [emitWith, same, emitWith]

/-- However the labels are chosen, there are as many words as addresses. -/
def Sized (layout : Layout) : Prop :=
  ∀ symbols output, layout.emitWith symbols = .ok output → output.size = layout.address

theorem sized_empty : empty.Sized := by
  intro symbols output emitted
  cases emitted
  rfl

theorem AddsLabel.placed_eq {layout labelled : Layout} {line : Text}
    (labels : layout.AddsLabel line labelled) : labelled.placed = layout.placed := by
  cases labels <;> rfl

private theorem AddsLabel.address_eq {layout labelled : Layout} {line : Text}
    (labels : layout.AddsLabel line labelled) : labelled.address = layout.address := by
  cases labels <;> rfl

/-- The words after a line are those before it and what the line adds. -/
theorem toList_emitWith_addLine {layout later : Layout} {line : Text × Nat} {symbols : Symbols}
    {next : Array Word} (sized : layout.Sized) (added : layout.addLine line = .ok later)
    (emitted : later.emitWith symbols = .ok next) :
    ∃ output more, layout.emitWith symbols = .ok output ∧ next.toList = output.toList ++ more ∧
      output.size + more.length = later.address ∧ (statementText line.1 = [] → more = []) ∧
      ∀ statement, Carries line.1 statement → Emits symbols output.size statement more := by
  -- The label of the line changes neither the address nor what has been placed.
  obtain ⟨labelled, labels, places⟩ := addLine_cases added
  have before := emitWith_of_placed symbols labels.placed_eq
  cases places with
  | nothing empty =>
    rw [before] at emitted
    have size := sized symbols next emitted
    refine ⟨next, [], emitted, (List.append_nil _).symm, ?_, fun _ => rfl, ?_⟩
    · rw [labels.address_eq, ← size, List.length_nil, Nat.add_zero]
    · intro statement carries
      exact absurd empty carries.ne_nil
  | @statement statement placed address carries located =>
    rw [emitWith_push, before] at emitted
    obtain ⟨output, earlier, emitted⟩ := ok_of_bind emitted
    have here : output.size = labelled.address :=
      (sized symbols output earlier).trans labels.address_eq.symm
    obtain ⟨more, grows, size, adds⟩ := toList_emit here located (ok_of_mapError emitted)
    refine ⟨output, more, earlier, grows, size, ?_, ?_⟩
    · intro empty
      exact absurd empty carries.ne_nil
    · intro other same
      cases carries.symm.trans same
      exact adds

private theorem Sized.addLine {layout later : Layout} {line : Text × Nat} (sized : layout.Sized)
    (added : layout.addLine line = .ok later) : later.Sized := by
  intro symbols next emitted
  obtain ⟨output, more, -, grows, size, -⟩ := toList_emitWith_addLine sized added emitted
  rw [← size, ← Array.length_toList, grows, List.length_append, Array.length_toList]

private theorem addLines_singleton (layout : Layout) (line : Text × Nat) :
    layout.addLines [line] = layout.addLine line := by
  simp [addLines]

private theorem addLines_cons {layout final : Layout} {line : Text × Nat}
    {lines : List (Text × Nat)} (added : layout.addLines (line :: lines) = .ok final) :
    ∃ later, layout.addLine line = .ok later ∧ later.addLines lines = .ok final := by
  rw [addLines, List.foldlM_cons] at added
  exact ok_of_bind added

/-- What every line keeps is kept by all lines. -/
theorem addLines_keeps (kept : Layout → Prop) {layout final : Layout} {lines : List (Text × Nat)}
    (step : ∀ line ∈ lines, ∀ earlier later, kept earlier → earlier.addLine line = .ok later →
      kept later)
    (start : kept layout) (added : layout.addLines lines = .ok final) : kept final := by
  induction lines generalizing layout with
  | nil =>
    cases added
    exact start
  | cons line lines ih =>
    obtain ⟨later, first, rest⟩ := addLines_cons added
    refine ih (fun other member => step other (List.mem_cons_of_mem _ member)) ?_ rest
    exact step line List.mem_cons_self layout later start first

/-- The placed statement has been located from one that some line carries. -/
def PlacedFrom (lines : List (Text × Nat)) (placed : Placed) : Prop :=
  ∃ line ∈ lines, line.2 = placed.line ∧
    ∃ (layout : Layout) (statement : Statement Text) (address : Nat),
      Carries line.1 statement ∧ layout.locate statement = .ok (placed.statement, address)

theorem placedFrom_addLines {layout : Layout} {lines : List (Text × Nat)}
    (added : empty.addLines lines = .ok layout) :
    ∀ placed ∈ layout.placed.toList, PlacedFrom lines placed := by
  refine addLines_keeps (fun later => ∀ placed ∈ later.placed.toList, PlacedFrom lines placed)
    ?_ ?_ added
  · intro line listed earlier later kept added
    obtain ⟨labelled, labels, places⟩ := addLine_cases added
    rw [← labels.placed_eq] at kept
    cases places with
    | nothing => exact kept
    | @statement statement placed address carries located =>
      intro other member
      rw [Array.toList_push, List.mem_append, List.mem_singleton] at member
      rcases member with before | rfl
      · exact kept other before
      · exact ⟨line, listed, rfl, labelled, statement, address, carries, located⟩
  · intro placed member
    exact absurd member List.not_mem_nil

theorem Sized.addLines {layout final : Layout} {lines : List (Text × Nat)} (sized : layout.Sized)
    (added : layout.addLines lines = .ok final) : final.Sized :=
  addLines_keeps Sized (fun _ _ _ _ => Sized.addLine) sized added

/-- No line takes back a word. -/
theorem toList_emitWith_addLines {layout final : Layout} {lines : List (Text × Nat)}
    {symbols : Symbols} {words : Array Word} (sized : layout.Sized)
    (added : layout.addLines lines = .ok final) (emitted : final.emitWith symbols = .ok words) :
    ∃ output, layout.emitWith symbols = .ok output ∧ output.toList <+: words.toList := by
  induction lines generalizing layout with
  | nil =>
    cases added
    exact ⟨words, emitted, List.prefix_rfl⟩
  | cons line lines ih =>
    obtain ⟨later, first, rest⟩ := addLines_cons added
    obtain ⟨next, earlier, kept⟩ := ih (sized.addLine first) rest
    obtain ⟨output, more, before, grows, -⟩ := toList_emitWith_addLine sized first earlier
    have grown : output.toList <+: next.toList := ⟨more, grows.symm⟩
    exact ⟨output, before, grown.trans kept⟩

private theorem placed_addLine {layout later : Layout} {line : Text × Nat}
    (added : layout.addLine line = .ok later) : layout.placed.toList <+: later.placed.toList := by
  obtain ⟨labelled, labels, places⟩ := addLine_cases added
  rw [← labels.placed_eq]
  cases places with
  | nothing => exact List.prefix_rfl
  | statement =>
    rw [Array.toList_push]
    exact List.prefix_append _ _

private theorem placed_addLines {layout final : Layout} {lines : List (Text × Nat)}
    (added : layout.addLines lines = .ok final) :
    layout.placed.toList <+: final.placed.toList := by
  refine addLines_keeps (fun later => layout.placed.toList <+: later.placed.toList) ?_
    List.prefix_rfl added
  intro line _ earlier later kept added
  exact kept.trans (placed_addLine added)

private theorem emitWith_addLines_of_error {layout final : Layout} {lines : List (Text × Nat)}
    {symbols : Symbols} {error : Error} (added : layout.addLines lines = .ok final)
    (failed : layout.emitWith symbols = .error error) : final.emitWith symbols = .error error := by
  obtain ⟨more, same⟩ := placed_addLines added
  rw [emitWith, ← Array.foldlM_toList] at failed ⊢
  rw [← same, List.foldlM_append, failed]
  rfl

/-! ## Labels -/

private theorem AddsLabel.address? {layout labelled : Layout} {line name : Text}
    (labels : layout.AddsLabel line labelled) (marked : labelOf line = some name) :
    labelled.symbols.address? name = some layout.address := by
  cases labels with
  | nothing none => cases none.symm.trans marked
  | label other defined =>
    cases other.symm.trans marked
    exact Symbols.address?_define defined

private theorem AddsLabel.keeps {layout labelled : Layout} {line other : Text} {address : Nat}
    (labels : layout.AddsLabel line labelled)
    (known : layout.symbols.address? other = some address) :
    labelled.symbols.address? other = some address := by
  cases labels with
  | nothing => exact known
  | label _ defined => exact Symbols.address?_of_define defined known

private theorem AddsLabel.source {layout labelled : Layout} {line other : Text} {address : Nat}
    (labels : layout.AddsLabel line labelled)
    (known : labelled.symbols.address? other = some address) :
    (∃ name, labelOf line = some name ∧ name.upper = other.upper) ∨
      layout.symbols.address? other = some address := by
  cases labels with
  | nothing => exact .inr known
  | label marked defined =>
    rcases Symbols.address?_define_cases defined known with same | before
    · exact .inl ⟨_, marked, same⟩
    · exact .inr before

theorem AddsStatement.symbols_eq {layout later : Layout} {line : Text} {number : Nat}
    (places : layout.AddsStatement line number later) : later.symbols = layout.symbols := by
  cases places <;> rfl

theorem address?_addLines {layout final : Layout} {lines : List (Text × Nat)}
    (added : layout.addLines lines = .ok final) {name : Text} {address : Nat}
    (known : layout.symbols.address? name = some address) :
    final.symbols.address? name = some address := by
  refine addLines_keeps (fun layout => layout.symbols.address? name = some address) ?_
    known added
  intro line _ earlier later known added
  obtain ⟨labelled, labels, places⟩ := addLine_cases added
  exact places.symbols_eq ▸ labels.keeps known

theorem exists_labelOf {layout final : Layout} {lines : List (Text × Nat)}
    (added : layout.addLines lines = .ok final) {name : Text} {address : Nat}
    (known : final.symbols.address? name = some address) :
    (∃ line ∈ lines, ∃ label, labelOf line.1 = some label ∧ label.upper = name.upper) ∨
      layout.symbols.address? name = some address := by
  refine addLines_keeps (fun later => later.symbols.address? name = some address →
    (∃ line ∈ lines, ∃ label, labelOf line.1 = some label ∧ label.upper = name.upper) ∨
      layout.symbols.address? name = some address) ?_ .inr added known
  intro line member earlier later kept added known
  obtain ⟨labelled, labels, places⟩ := addLine_cases added
  rcases labels.source (places.symbols_eq ▸ known) with marked | before
  · exact .inl ⟨line, member, marked⟩
  · exact kept before

theorem addLines_split {layout final : Layout} {before after : List (Text × Nat)}
    {line : Text × Nat} (added : layout.addLines (before ++ line :: after) = .ok final) :
    ∃ earlier later, layout.addLines before = .ok earlier ∧ earlier.addLine line = .ok later ∧
      later.addLines after = .ok final := by
  rw [addLines_append] at added
  obtain ⟨earlier, first, added⟩ := ok_of_bind added
  obtain ⟨later, here, rest⟩ := addLines_cons added
  exact ⟨earlier, later, first, here, rest⟩

end Layout

/-! ## Agreement -/

/-- Both passes over lines, the second one with labels from anywhere. -/
structure Passes (symbols : Symbols) (lines : List (Text × Nat)) (layout : Layout)
    (output : Array Word) : Prop where
  first : Layout.empty.addLines lines = .ok layout
  second : layout.emitWith symbols = .ok output

/-- The passes agree on the addresses before and after a line, and on its label. What the line adds
to the statements and to the words is still there at the end. -/
structure Agrees (layout : Layout) (words : List Word) (line : Text × Nat)
    (earlier later : Layout) (here next : Array Word) : Prop where
  start : here.size = earlier.address
  finish : next.size = later.address
  label : ∀ name, labelOf line.1 = some name → layout.symbols.address? name = some here.size
  grows : ∃ more, next.toList = here.toList ++ more ∧ (statementText line.1 = [] → more = []) ∧
    ∀ statement, Carries line.1 statement → Emits layout.symbols here.size statement more
  placed : earlier.placed.toList <+: later.placed.toList ∧
    later.placed.toList <+: layout.placed.toList
  kept : next.toList <+: words

private theorem Passes.size_eq {symbols : Symbols} {lines : List (Text × Nat)} {layout : Layout}
    {output : Array Word} (passes : Passes symbols lines layout output) :
    output.size = layout.address :=
  Layout.sized_empty.addLines passes.first symbols output passes.second

theorem Passes.agrees {lines before after : List (Text × Nat)} {line : Text × Nat}
    {layout : Layout} {output : Array Word} (passes : Passes layout.symbols lines layout output)
    (split : lines = before ++ line :: after) :
    ∃ earlier later here next, Passes layout.symbols before earlier here ∧
      Passes layout.symbols (before ++ [line]) later next ∧
      Agrees layout output.toList line earlier later here next := by
  subst split
  obtain ⟨earlier, later, reached, added, rest⟩ := Layout.addLines_split passes.first
  have sized := Layout.sized_empty.addLines reached
  obtain ⟨next, emitted, kept⟩ :=
    Layout.toList_emitWith_addLines (sized.addLine added) rest passes.second
  obtain ⟨here, more, begun, grows, -, nothing, adds⟩ :=
    Layout.toList_emitWith_addLine sized added emitted
  have through : Layout.empty.addLines (before ++ [line]) = .ok later := by
    rw [Layout.addLines_append, reached]
    exact (Layout.addLines_singleton earlier line).trans added
  have start := sized layout.symbols here begun
  have finish := sized.addLine added layout.symbols next emitted
  refine ⟨earlier, later, here, next, ⟨reached, begun⟩, ⟨through, emitted⟩, start, finish, ?_,
    ⟨more, grows, nothing, adds⟩, ⟨Layout.placed_addLine added, Layout.placed_addLines rest⟩, kept⟩
  intro name marked
  obtain ⟨labelled, labels, places⟩ := Layout.addLine_cases added
  apply Layout.address?_addLines rest
  rw [places.symbols_eq, start]
  exact labels.address? marked

theorem assemble_of_addLines {source : Text} {layout : Layout}
    (first : Layout.empty.addLines (numberedLines source) = .ok layout) :
    assemble source = (layout.emitWith layout.symbols).map Array.toList := by
  simp only [assemble, first, bind, Except.bind, Layout.emit_eq]
  cases layout.emitWith layout.symbols <;> rfl

theorem assemble_eq_ok_iff {source : Text} {words : List Word} :
    assemble source = .ok words ↔ ∃ layout output,
      Passes layout.symbols (numberedLines source) layout output ∧ words = output.toList := by
  constructor
  · intro assembled
    rw [assemble] at assembled
    obtain ⟨layout, first, assembled⟩ := ok_of_bind assembled
    obtain ⟨output, second, assembled⟩ := ok_of_bind assembled
    cases assembled
    exact ⟨layout, output, ⟨first, second⟩, rfl⟩
  · intro known
    obtain ⟨layout, output, passes, rfl⟩ := known
    rw [assemble_of_addLines passes.first, passes.second]
    rfl

private theorem emitPlaced_data_of_error {symbols : Symbols} {output : Array Word} {operand : Text}
    {value : Int} {number : Nat} {cause : Cause} (found : operandValue symbols operand = .ok value)
    (failed : dataWord value = .error cause) :
    emitPlaced symbols output ⟨number, .data operand⟩ = .error ⟨number, cause⟩ := by
  simp only [emitPlaced, emit, found, bind, Except.bind, failed, Except.mapError]

/-- A source is refused at the first statement that the second pass refuses. -/
theorem assemble_of_refused {source : Text} {layout earlier : Layout}
    {before after : List (Text × Nat)} {line : Text × Nat} {here : Array Word}
    {statement : Statement Text} {error : Error}
    (first : Layout.empty.addLines (numberedLines source) = .ok layout)
    (split : numberedLines source = before ++ line :: after)
    (reached : Passes layout.symbols before earlier here) (carries : Carries line.1 statement)
    (refused : ∀ labelled placed address,
      Layout.locate labelled statement = .ok (placed, address) →
      emitPlaced layout.symbols here ⟨line.2, placed⟩ = .error error) :
    assemble source = .error error := by
  obtain ⟨met, later, found, added, rest⟩ := Layout.addLines_split (split ▸ first)
  cases found.symm.trans reached.first
  have failed : later.emitWith layout.symbols = .error error := by
    obtain ⟨labelled, labels, places⟩ := Layout.addLine_cases added
    cases places with
    | nothing empty => exact absurd empty carries.ne_nil
    | @statement _ placed address other located =>
      cases carries.symm.trans other
      rw [Layout.emitWith_push, Layout.emitWith_of_placed _ labels.placed_eq, reached.second]
      exact refused labelled placed address located
  rw [assemble_of_addLines first, Layout.emitWith_addLines_of_error rest failed]
  rfl

private theorem assemble_of_far {source : Text} {layout earlier : Layout}
    {before after : List (Text × Nat)} {line : Text × Nat} {here : Array Word} {operand : Text}
    {address : Nat} (first : Layout.empty.addLines (numberedLines source) = .ok layout)
    (split : numberedLines source = before ++ line :: after)
    (reached : Passes layout.symbols before earlier here) (carries : Carries line.1 (.data operand))
    (named : isName operand = true) (known : layout.symbols.address? operand = some address)
    (far : 0xFFFF < address) :
    assemble source = .error ⟨line.2, .valueOutOfRange address⟩ := by
  have value : operandValue layout.symbols operand = .ok (address : Int) := by
    rw [operandValue_of_isName named, known]
  have outside : dataWord (address : Int) = .error (.valueOutOfRange address) := by
    rw [dataWord, if_neg (by omega)]
  apply assemble_of_refused first split reached carries
  intro labelled placed next located
  cases located
  exact emitPlaced_data_of_error value outside

/-- In a source that assembles the passes agree at every line, and every label comes from one. What
keeps the word of a label from being its address is an address that no word can hold. -/
theorem passes_agree (source : Text) :
    (∀ words, assemble source = .ok words → ∃ layout output,
      Passes layout.symbols (numberedLines source) layout output ∧ words = output.toList ∧
      words.length = layout.address ∧
      (∀ name address, layout.symbols.address? name = some address →
        ∃ line ∈ numberedLines source, ∃ label, labelOf line.1 = some label ∧
          label.upper = name.upper) ∧
      ∀ before line after, numberedLines source = before ++ line :: after →
        ∃ earlier later here next, Passes layout.symbols before earlier here ∧
          Passes layout.symbols (before ++ [line]) later next ∧
          Agrees layout words line earlier later here next) ∧
    ∀ layout before line after earlier here operand address,
      Layout.empty.addLines (numberedLines source) = .ok layout →
      numberedLines source = before ++ line :: after → Passes layout.symbols before earlier here →
      Carries line.1 (.data operand) → isName operand = true →
      layout.symbols.address? operand = some address → 0xFFFF < address →
      assemble source = .error ⟨line.2, .valueOutOfRange address⟩ := by
  constructor
  · intro words assembled
    obtain ⟨layout, output, passes, rfl⟩ := assemble_eq_ok_iff.mp assembled
    refine ⟨layout, output, passes, rfl, ?_, ?_, ?_⟩
    · rw [Array.length_toList]
      exact passes.size_eq
    · intro name address known
      rcases Layout.exists_labelOf passes.first known with marked | unknown
      · exact marked
      · cases unknown
    · intro before line after split
      exact passes.agrees split
  · intro layout before line after earlier here operand address first split reached carries named
      known far
    exact assemble_of_far first split reached carries named known far

def padded : Text := "hlt\nstart: .org 3\ndat START\napceq x, start".toList

def paddedWords : List Word :=
  [Word.ofNat 0, Word.ofNat 0, Word.ofNat 0, Word.ofNat 1, Word.ofNat 0xFDFF]

def beyond : Text := ".org 65536\nfar: dat FAR".toList

theorem passes_agree_padded :
    (∃ (layout earlier later : Layout) (here next : Array Word),
      Passes layout.symbols [("hlt".toList, 1)] earlier here ∧
      Agrees layout paddedWords ("start: .org 3".toList, 2) earlier later here next) ∧
    assemble beyond = .error ⟨2, .valueOutOfRange 65536⟩ := by
  constructor
  · obtain ⟨layout, output, -, -, -, -, agree⟩ :=
      (passes_agree padded).1 paddedWords (by decide +kernel)
    obtain ⟨earlier, later, here, next, before, -, agrees⟩ :=
      agree [("hlt".toList, 1)] ("start: .org 3".toList, 2)
        [("dat START".toList, 3), ("apceq x, start".toList, 4)] (by decide +kernel)
    exact ⟨layout, earlier, later, here, next, before, agrees⟩
  · have first : Layout.empty.addLines (numberedLines beyond) = .ok
        ⟨65537, ⟨[("FAR".toList, 65536)]⟩, #[⟨1, .origin 65536⟩, ⟨2, .data "FAR".toList⟩]⟩ := rfl
    exact (passes_agree beyond).2 _ [(".org 65536".toList, 1)] ("far: dat FAR".toList, 2) []
      ⟨65536, .empty, #[⟨1, .origin 65536⟩]⟩ (resize #[] 65536) "FAR".toList 65536 first rfl
      ⟨rfl, rfl⟩ rfl rfl rfl (by decide)

end WordMachine.Assembly
