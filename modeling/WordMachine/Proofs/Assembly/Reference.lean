import WordMachine.Proofs.Assembly.Passes

/-! Assembling a text gives the words of the program that is written there. It fails exactly on
programs that are not well formed. -/

set_option autoImplicit false

namespace WordMachine.Assembly.Program

/-! ## Well-formedness, line by line -/

private theorem address?_eq_none_iff {labels : Labels} {label : Label} :
    labels.address? label = none ↔
      ∀ entry ∈ labels, entry.1.name.sameName label.name = false := by
  simp only [Labels.address?, Option.map_eq_none_iff, List.find?_eq_none, Bool.not_eq_true]

private theorem along_fresh_iff {outline : Outline} {program : Program} :
    Along Outline.Fresh outline program ↔
      (∀ label ∈ program.filterMap Line.label?, outline.labels.address? label = none) ∧
        (program.filterMap Line.label?).Pairwise fun earlier later =>
          earlier.name.sameName later.name = false := by
  induction program generalizing outline with
  | nil => exact iff_of_true trivial ⟨fun label member => absurd member List.not_mem_nil, .nil⟩
  | cons line rest ih =>
    rw [Along, ih]
    cases has : line.label? with
    | none =>
      have fresh : outline.Fresh line := by
        intro label same
        rw [has] at same
        cases same
      have labels : (outline.next line).labels = outline.labels := by
        simp only [Outline.next, Outline.labelled, has]
      rw [List.filterMap_cons_none has, labels]
      exact and_iff_right fresh
    | some label =>
      have labels : (outline.next line).labels = (label, outline.address) :: outline.labels := by
        simp only [Outline.next, Outline.labelled, has]
      have fresh : outline.Fresh line ↔ outline.labels.address? label = none := by
        rw [Outline.Fresh, has]
        constructor
        · intro all
          exact all label rfl
        · intro unknown other same
          cases same
          exact unknown
      simp only [List.filterMap_cons_some has, labels, fresh, List.pairwise_cons,
        List.forall_mem_cons, address?_eq_none_iff]
      constructor
      · intro known
        obtain ⟨unknown, others, pairwise⟩ := known
        exact ⟨⟨unknown, fun other member => (others other member).2⟩,
          fun other member => (others other member).1, pairwise⟩
      · intro known
        obtain ⟨⟨unknown, others⟩, different, pairwise⟩ := known
        exact ⟨unknown, fun other member => ⟨different other member, others other member⟩, pairwise⟩

private theorem along_and_iff {first second : Outline → Line → Prop} {outline : Outline}
    {program : Program} :
    Along (fun outline line => first outline line ∧ second outline line) outline program ↔
      Along first outline program ∧ Along second outline program := by
  induction program generalizing outline with
  | nil => exact (and_self_iff).symm
  | cons line rest ih =>
    rw [Along, Along, Along, ih]
    exact and_and_and_comm

private theorem wellFormed_iff (program : Program) :
    program.WellFormed ↔ Along Outline.Admits Outline.start program ∧
      Along (Outline.Encodes program.labels) Outline.start program := by
  have admits : Along Outline.Admits Outline.start program ↔
      Along Outline.Fresh Outline.start program ∧ Along Outline.Reaches Outline.start program :=
    along_and_iff
  rw [admits, along_fresh_iff, along_iff, along_iff]
  constructor
  · intro formed
    refine ⟨⟨⟨fun _ _ => rfl, formed.unique⟩, ?_⟩, ?_⟩
    · intro before line after same target origin
      exact formed.origins before line after target same origin
    · intro before line after same item has
      exact formed.encodable before line after item same has
  · intro known
    obtain ⟨⟨⟨-, unique⟩, reaches⟩, encodes⟩ := known
    refine ⟨unique, ?_, ?_⟩
    · intro before line after target same origin
      exact reaches before line after same target origin
    · intro before line after item same has
      exact encodes before line after same item has

/-! ## Assembling -/

private theorem WritesLines.unbroken {program : Program} {texts : List Text}
    (written : WritesLines program texts) : ∀ text ∈ texts, '\n' ∉ text := by
  induction written with
  | nil => exact List.forall_mem_nil _
  | line written _ ih | blank written _ ih => exact List.forall_mem_cons.mpr ⟨written.unbroken, ih⟩

theorem assemble_succeeds {program : Program} {text : Text} (written : Writes program text) :
    SucceedsWhen (assemble text) program.WellFormed (· = program.words) := by
  obtain ⟨texts, lines, rfl⟩ := written
  have emitted : ∀ layout : Layout, Follows layout (Outline.start.after program) ∧ (∃ placed,
      layout.placed.toList = Layout.empty.placed.toList ++ placed ∧
        Lays Outline.start program placed) →
      SucceedsWhen (layout.emit >>= fun words => .ok words.toList)
        (Along (Outline.Encodes program.labels) Outline.start program) (· = program.words) := by
    intro layout known
    obtain ⟨follows, placed, same, lays⟩ := known
    have statements : layout.placed.toList = placed := same
    rw [Layout.emit, ← Array.foldlM_toList, statements]
    apply (emitPlaced_succeeds follows.shows lays rfl).bind_ok
    intro words shape
    exact shape
  rw [assemble, addLines_joinWith lines.unbroken]
  exact ((addLines_succeeds lines follows_start 1).bind emitted).congr (wellFormed_iff program).symm
    fun _ shape => shape

/-- However a program is written, its text assembles if and only if the program is well formed, and
then into the words of the program. -/
theorem assemble_eq_ok_iff_of_writes {program : Program} {text : Text}
    (written : Writes program text) (words : List Word) :
    assemble text = .ok words ↔ program.WellFormed ∧ words = program.words :=
  (assemble_succeeds written).eq_ok_iff words

def loopLabel : Label := ⟨"loop".toList, by decide +kernel⟩

/-- A branch back to a label that is written in three ways, after an origin. -/
def branchBack : Program :=
  [⟨some loopLabel, some (.registers .add rfl Register.flag Register.first Register.flag)⟩,
    ⟨none, some .halt⟩, ⟨none, some (.origin (.number 3))⟩,
    ⟨none, some (.branch Register.flag loopLabel)⟩, ⟨none, some (.data (.label loopLabel))⟩]

def branchBackText : Text :=
  "Loop: ADD r15, R0 ,X  ; sum\nhlt\n\n .ORG 0b11\n\tapceq x, LOOP\ndat loop".toList

private theorem writes_branchBack : Writes branchBack branchBackText := by
  have label : WritesLabelling (some loopLabel) ("Loop".toList ++ [] ++ [':']) :=
    .label (by decide +kernel) gap_nil
  have sum : WritesItem (.registers .add rfl Register.flag Register.first Register.flag)
      ("ADD".toList ++ [' '] ++ ("r15".toList ++ [] ++
        ',' :: ([' '] ++ ("R0".toList ++ [' '] ++ ',' :: ([] ++ "X".toList))))) :=
    .full (by decide +kernel) gap_space (by decide)
      (.cons (.register (.inl (by decide +kernel))) gap_nil gap_space
        (.cons (.register (.inl (by decide +kernel))) gap_space gap_nil
          (.single (.register (.inr ⟨rfl, by decide +kernel⟩)))))
  have stop : WritesItem .halt "hlt".toList := .bare (by decide +kernel) rfl
  have three : WritesNumber 3 ('0' :: 'b' :: "11".toList) :=
    .plain (.binary rfl ⟨[1, 1], by decide, by decide, by decide +kernel, rfl⟩)
  have origin : WritesItem (.origin (.number 3))
      (".ORG".toList ++ [' '] ++ ('0' :: 'b' :: "11".toList)) :=
    .full (by decide +kernel) gap_space (by decide) (.single (.value (.number three)))
  have branch : WritesItem (.branch Register.flag loopLabel)
      ("apceq".toList ++ [' '] ++ ("x".toList ++ [] ++ ',' :: ([' '] ++ "LOOP".toList))) :=
    .full (by decide +kernel) gap_space (by decide)
      (.cons (.register (.inr ⟨rfl, by decide +kernel⟩)) gap_nil gap_space
        (.single (.value (.label (by decide +kernel)))))
  have data : WritesItem (.data (.label loopLabel)) ("dat".toList ++ [' '] ++ "loop".toList) :=
    .full (by decide +kernel) gap_space (by decide) (.single (.value (.label (by decide +kernel))))
  have comment : WritesComment (';' :: " sum".toList) := .comment (by decide +kernel)
  have blanks : Gap [' ', ' '] := gap_space.cons rfl (by decide)
  have tab : Gap ['\t'] := gap_nil.cons rfl (by decide)
  refine ⟨_, .line (.parts gap_nil label gap_space (.item sum) blanks comment) <|
    .line (.parts gap_nil .nothing gap_nil (.item stop) gap_nil .nothing) <|
    .blank (.parts gap_nil .nothing gap_nil .nothing gap_nil .nothing) <|
    .line (.parts gap_space .nothing gap_nil (.item origin) gap_nil .nothing) <|
    .line (.parts tab .nothing gap_nil (.item branch) gap_nil .nothing) <|
    .line (.parts gap_nil .nothing gap_nil (.item data) gap_nil .nothing) .nil, ?_⟩
  decide +kernel

private theorem branchBack_wellFormed : branchBack.WellFormed := by
  rw [wellFormed_iff]
  constructor
  · have unlabelled : ∀ (outline : Outline) item, outline.Fresh ⟨none, some item⟩ := by
      intro outline item label same
      cases same
    have placed : ∀ (outline : Outline) label? item, item.isOrigin = false →
        outline.Reaches ⟨label?, some item⟩ := by
      intro outline label? item different target same
      cases same
      cases different
    refine ⟨⟨fun _ _ => rfl, placed _ _ _ rfl⟩, ⟨unlabelled _ _, placed _ _ _ rfl⟩,
      ⟨unlabelled _ _, ?_⟩, ⟨unlabelled _ _, placed _ _ _ rfl⟩, ⟨unlabelled _ _, placed _ _ _ rfl⟩,
      trivial⟩
    intro target same
    cases same
    exact ⟨3, rfl, by decide, by decide⟩
  · refine ⟨?_, ?_, ?_, ?_, ?_, trivial⟩
    · intro item same
      cases same
      exact show ¬IsHaltWord _ by decide
    · intro item same
      cases same
      exact trivial
    · intro item same
      cases same
      exact trivial
    · intro item same
      cases same
      exact ⟨0, by decide +kernel, by decide, by decide⟩
    · intro item same
      cases same
      exact ⟨0, by decide +kernel, by decide, by decide⟩

theorem assemble_branchBackText : assemble branchBackText =
    .ok [Word.ofNat 0xF0F5, Word.ofNat 0, Word.ofNat 0, Word.ofNat 0xFDFF, Word.ofNat 0] :=
  (assemble_eq_ok_iff_of_writes writes_branchBack _).mpr
    ⟨branchBack_wellFormed, by decide +kernel⟩

end WordMachine.Assembly.Program
