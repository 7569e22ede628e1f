import WordMachine.Proofs.Assembly.Lines

/-! The two passes follow the outline of the program: the first one through addresses and labels,
the second one through words. -/

set_option autoImplicit false

namespace WordMachine.Assembly.Program

/-! ## Conditions along the lines -/

/-- Each line meets the condition, given what the lines before it fix. -/
def Along (condition : Outline → Line → Prop) : Outline → Program → Prop
  | _, [] => True
  | outline, line :: rest => condition outline line ∧ Along condition (outline.next line) rest

theorem along_iff {condition : Outline → Line → Prop} {outline : Outline} {program : Program} :
    Along condition outline program ↔ ∀ before line after, program = before ++ line :: after →
      condition (outline.after before) line := by
  induction program generalizing outline with
  | nil =>
    constructor
    · intro _ before line after same
      cases before <;> cases same
    · intro _
      exact trivial
  | cons line rest ih =>
    constructor
    · intro known before other after same
      obtain ⟨holds, others⟩ := known
      cases before with
      | nil =>
        cases same
        exact holds
      | cons first before =>
        cases same
        exact ih.mp others before other after rfl
    · intro all
      refine ⟨all [] line rest rfl, ih.mpr ?_⟩
      intro before other after same
      exact all (line :: before) other after (congrArg (line :: ·) same)

/-- The line defines no label a second time. -/
def Outline.Fresh (outline : Outline) (line : Line) : Prop :=
  ∀ label, line.label? = some label → outline.labels.address? label = none

/-- If the line is an origin then it goes on at an address that can be reached. -/
def Outline.Reaches (outline : Outline) (line : Line) : Prop :=
  ∀ target, line.item? = some (.origin target) →
    target.IsOrigin (outline.labelled line) outline.address

def Outline.Admits (outline : Outline) (line : Line) : Prop :=
  outline.Fresh line ∧ outline.Reaches line

def Outline.Encodes (labels : Labels) (outline : Outline) (line : Line) : Prop :=
  ∀ item, line.item? = some item → item.Encodable labels outline.address

/-! ## Statements in place -/

/-- What a line leaves for the second pass. -/
inductive Places (outline : Outline) (line : Line) : List Placed → Prop where
  | nothing : line.item? = none → Places outline line []
  | item {item : Item} {number : Nat} {statement : Statement Nat} :
      line.item? = some item →
      Reads (ReadsOrigin outline.address (outline.next line).address) item statement →
      Places outline line [⟨number, statement⟩]

inductive Lays : Outline → Program → List Placed → Prop where
  | nil {outline : Outline} : Lays outline [] []
  | line {outline : Outline} {line : Line} {rest : Program} {here there : List Placed} :
      Places outline line here → Lays (outline.next line) rest there →
      Lays outline (line :: rest) (here ++ there)

/-! ## First pass -/

structure Follows (layout : Layout) (outline : Outline) : Prop where
  address : layout.address = outline.address
  shows : Shows layout.symbols outline.labels

theorem follows_start : Follows Layout.empty Outline.start := by
  constructor
  · rfl
  · rfl

private theorem addLabel_succeeds {layout : Layout} {outline : Outline}
    (follows : Follows layout outline) {label : Label} {name : Text}
    (written : WritesLabel label name) :
    SucceedsWhen (layout.addLabel name) (outline.labels.address? label = none) fun result =>
      result.placed = layout.placed ∧
        Follows result ⟨outline.address, (label, outline.address) :: outline.labels⟩ := by
  rw [Layout.addLabel, if_pos written.isName, Symbols.define?, follows.shows.address? written]
  cases outline.labels.address? label with
  | some address =>
    apply SucceedsWhen.error
    intro unknown
    cases unknown
  | none =>
    refine .ok rfl ⟨rfl, follows.address, ?_⟩
    have key : name.upper = label.name.upper := Text.upper_eq_upper_iff.mpr written
    have entries := follows.shows
    rw [Shows] at entries ⊢
    rw [key, follows.address, entries, List.map_cons]

private theorem originTarget_check (address : Nat) (value : Int) :
    SucceedsWhen (if value < 0 ∨ (addressLimit : Int) < value then .error (.valueOutOfRange value)
      else if value.toNat < address then
        .error (Cause.malformed (.originBackwards value.toNat address))
      else .ok value.toNat)
      (∃ number : Nat, value = number ∧ address ≤ number ∧ number ≤ 0x10000)
      fun target => target = value.toNat ∧ address ≤ target := by
  by_cases outside : value < 0 ∨ (addressLimit : Int) < value
  · rw [if_pos outside]
    apply SucceedsWhen.error
    intro known
    obtain ⟨number, rfl, -, inside⟩ := known
    simp only [addressLimit] at outside
    omega
  · rw [if_neg outside]
    obtain ⟨number, rfl⟩ := Int.eq_ofNat_of_zero_le (show 0 ≤ value by omega)
    simp only [addressLimit] at outside
    rw [Int.toNat_natCast]
    by_cases backwards : number < address
    · rw [if_pos backwards]
      apply SucceedsWhen.error
      intro known
      obtain ⟨other, same, forward, -⟩ := known
      omega
    · rw [if_neg backwards]
      exact .ok ⟨number, rfl, by omega, by omega⟩ ⟨rfl, by omega⟩

private theorem originTarget_succeeds {symbols : Symbols} {labels : Labels}
    (shows : Shows symbols labels) {value : Value} {text : Text} (written : WritesValue value text)
    (address : Nat) :
    SucceedsWhen (originTarget symbols address text) (value.IsOrigin labels address) fun target =>
      target = ((value.resolve? labels).getD 0).toNat ∧ address ≤ target := by
  have bounded : ∀ value : Int, (∃ number : Nat, value = number ∧ address ≤ number ∧
      number ≤ 0x10000) → value.natAbs < numberLimit := by
    intro value known
    obtain ⟨number, rfl, -, inside⟩ := known
    simp only [numberLimit]
    omega
  have checked : SucceedsWhen (operandValue symbols text >>= fun value =>
      if value < 0 ∨ (addressLimit : Int) < value then .error (.valueOutOfRange value)
      else if value.toNat < address then
        .error (Cause.malformed (.originBackwards value.toNat address))
      else .ok value.toNat) (value.IsOrigin labels address) fun target =>
      target = ((value.resolve? labels).getD 0).toNat ∧ address ≤ target := by
    refine (shows.operandValue_bind written bounded (originTarget_check address)).congr ?_ ?_
    · constructor
      · intro known
        obtain ⟨_, found, number, rfl, forward, inside⟩ := known
        exact ⟨number, found, forward, inside⟩
      · intro known
        obtain ⟨number, found, forward, inside⟩ := known
        exact ⟨number, found, number, rfl, forward, inside⟩
    · intro target known
      obtain ⟨number, found, same, forward⟩ := known
      rw [found, Option.getD_some]
      exact ⟨same, forward⟩
  have read : ∃ number?, Assembly.number? text = .ok number? := by
    cases written with
    | number written => exact ⟨_, written.number?⟩
    | label written => exact ⟨none, number?_of_isName written.isName⟩
  obtain ⟨number?, read⟩ := read
  rw [originTarget, read]
  show SucceedsWhen (if _ then _ else _) _ _
  split
  next unknown =>
    -- The pass gives up on names before their value is asked for, but these have none anyway.
    apply SucceedsWhen.error
    intro known
    obtain ⟨number, found, -⟩ := known
    simp only [Bool.and_eq_true, Option.isNone_iff_eq_none] at unknown
    obtain ⟨⟨-, named⟩, undefined⟩ := unknown
    cases written with
    | number written =>
      rw [written.not_isName] at named
      cases named
    | label written =>
      rw [shows.address? written] at undefined
      rw [Value.resolve?, undefined] at found
      cases found
  next => exact checked

private theorem next_address {outline : Outline} {line : Line} {item : Item}
    (has : line.item? = some item) (different : item.isOrigin = false) :
    (outline.next line).address = outline.address + 1 := by
  cases item with
  | origin target => cases different
  | _ => simp only [Outline.next, has]

section Statements

variable {layout : Layout} {outline : Outline} {line : Line}
  (here : layout.address = outline.address) (shows : Shows layout.symbols (outline.labelled line))

include here shows

private theorem locate_succeeds {item : Item} {statement : Statement Text}
    (has : line.item? = some item) (read : Reads WritesValue item statement) :
    SucceedsWhen (layout.locate statement) (outline.Reaches line) fun located =>
      located.2 = (outline.next line).address ∧
        Reads (ReadsOrigin outline.address (outline.next line).address) item located.1 := by
  have word : ∀ placed : Statement Nat, item.isOrigin = false →
      Reads (ReadsOrigin outline.address (outline.next line).address) item placed →
      SucceedsWhen (.ok (placed, layout.address + 1) : Except Cause (Statement Nat × Nat))
        (outline.Reaches line) fun located => located.2 = (outline.next line).address ∧
          Reads (ReadsOrigin outline.address (outline.next line).address) item located.1 := by
    intro placed different read
    refine .ok ?_ ⟨?_, read⟩
    · intro target same
      rw [has] at same
      cases same
      cases different
    · rw [here, next_address has different]
  cases read with
  | registers one two three => exact word _ rfl (.registers one two three)
  | complement one two => exact word _ rfl (.complement one two)
  | immediate one two => exact word _ rfl (.immediate one two)
  | branch one two => exact word _ rfl (.branch one two)
  | halt => exact word _ rfl .halt
  | exit written => exact word _ rfl (.exit written)
  | data written => exact word _ rfl (.data written)
  | @origin value text written =>
    have found := originTarget_succeeds shows written layout.address
    rw [here] at found
    simp only [Layout.locate, here]
    have after : ∀ target, target = ((value.resolve? (outline.labelled line)).getD 0).toNat ∧
        outline.address ≤ target → target = (outline.next line).address ∧
        Reads (ReadsOrigin outline.address (outline.next line).address) (.origin value)
          (.origin target) := by
      intro target known
      obtain ⟨same, forward⟩ := known
      have next : (outline.next line).address = target := by
        simp only [Outline.next, has, same]
      rw [next]
      exact ⟨rfl, .origin ⟨rfl, forward⟩⟩
    refine (found.bind_ok after).congr ?_ fun _ shape => shape
    constructor
    · intro reachable target same
      rw [has] at same
      cases same
      exact reachable
    · intro reaches
      exact reaches value has

private theorem addStatement_succeeds {text : Text} (written : WritesStatement line.item? text)
    (number : Nat) :
    SucceedsWhen (layout.addStatement number text) (outline.Reaches line) fun result =>
      Follows result (outline.next line) ∧ ∃ placed,
        result.placed.toList = layout.placed.toList ++ placed ∧ Places outline line placed := by
  cases has : line.item? with
  | none =>
    rw [has] at written
    cases written
    refine .ok ?_ ⟨⟨?_, shows⟩, [], (List.append_nil _).symm, .nothing has⟩
    · intro target same
      rw [has] at same
      cases same
    · simp only [Outline.next, has, here]
  | some item =>
    rw [has] at written
    cases written with
    | item written =>
      obtain ⟨statement, parsed, read⟩ := written.parse
      rw [Layout.addStatement, if_neg (by simpa using written.ne_nil), parsed]
      apply (locate_succeeds here shows has read).bind_ok
      intro known facts
      obtain ⟨located, address⟩ := known
      obtain ⟨rfl, read⟩ := facts
      exact ⟨⟨rfl, shows⟩, [⟨number, located⟩], Array.toList_push, .item has read⟩

end Statements

private theorem addLine_succeeds {line : Line} {text : Text} (written : WritesLine line text)
    {layout : Layout} {outline : Outline} (follows : Follows layout outline) (number : Nat) :
    SucceedsWhen (layout.addLine (text, number)) (outline.Admits line) fun result =>
      Follows result (outline.next line) ∧ ∃ placed,
        result.placed.toList = layout.placed.toList ++ placed ∧ Places outline line placed := by
  apply SucceedsWhen.mapError
  have divides := written.divides
  rw [Layout.addText]
  generalize splitLabel (stripComment text) = parts at divides
  cases divides with
  | unlabelled bare written =>
    have shows : Shows layout.symbols (outline.labelled line) := by
      rw [Outline.labelled, bare]
      exact follows.shows
    refine (addStatement_succeeds follows.address shows written number).congr ?_ fun _ shape =>
      shape
    constructor
    · intro reaches
      refine ⟨?_, reaches⟩
      intro label same
      rw [bare] at same
      cases same
    · exact And.right
  | @labelled label name statement marked named written =>
    have added : ∀ labelled : Layout, labelled.placed = layout.placed ∧
        Follows labelled ⟨outline.address, (label, outline.address) :: outline.labels⟩ →
        SucceedsWhen (labelled.addStatement number statement) (outline.Reaches line) fun result =>
          Follows result (outline.next line) ∧ ∃ placed,
            result.placed.toList = layout.placed.toList ++ placed ∧ Places outline line placed := by
      intro labelled known
      obtain ⟨same, follows⟩ := known
      have shows : Shows labelled.symbols (outline.labelled line) := by
        rw [Outline.labelled, marked]
        exact follows.shows
      have here : labelled.address = outline.address := follows.address
      rw [← same]
      exact addStatement_succeeds here shows written number
    refine ((addLabel_succeeds follows named).bind added).congr ?_ fun _ shape => shape
    apply and_congr_left
    intro _
    rw [Outline.Fresh, marked]
    constructor
    · intro fresh other same
      cases same
      exact fresh
    · intro fresh
      exact fresh label rfl

/-- The first pass succeeds if every line is admitted; it ends where the outline does. -/
theorem addLines_succeeds {program : Program} {texts : List Text}
    (written : WritesLines program texts) {layout : Layout} {outline : Outline}
    (follows : Follows layout outline) (number : Nat) :
    SucceedsWhen (layout.addLines (texts.zipIdx number)) (Along Outline.Admits outline program)
      fun result => Follows result (outline.after program) ∧ ∃ placed,
        result.placed.toList = layout.placed.toList ++ placed ∧ Lays outline program placed := by
  induction written generalizing layout outline number with
  | nil => exact .ok trivial ⟨follows, [], (List.append_nil _).symm, .nil⟩
  | @line line program text texts written _ ih =>
    rw [List.zipIdx_cons, Layout.addLines, List.foldlM_cons]
    apply (addLine_succeeds written follows number).bind
    intro middle known
    obtain ⟨follows, here, same, places⟩ := known
    refine (ih follows (number + 1)).congr Iff.rfl ?_
    intro result known
    obtain ⟨follows, there, more, lays⟩ := known
    refine ⟨follows, here ++ there, ?_, .line places lays⟩
    rw [more, same, List.append_assoc]
  | @blank program text texts written _ ih =>
    have admits : outline.Admits ⟨none, none⟩ := by
      constructor
      · intro label same
        cases same
      · intro target same
        cases same
    rw [List.zipIdx_cons, Layout.addLines, List.foldlM_cons]
    refine ((addLine_succeeds written follows number).bind fun middle => ?_).congr
      (and_iff_right admits) fun _ shape => shape
    intro known
    obtain ⟨follows, here, same, places⟩ := known
    cases places with
    | nothing =>
      rw [List.append_nil] at same
      rw [← same]
      exact ih follows (number + 1)
    | item has => cases has

/-! ## Second pass -/

/-- The words of an item reach from its address to the next one. -/
theorem address_add_length (labels : Labels) {outline : Outline} {line : Line} {item : Item}
    {statement : Statement Nat} (has : line.item? = some item)
    (read : Reads (ReadsOrigin outline.address (outline.next line).address) item statement) :
    outline.address + (item.words labels outline.address (outline.next line).address).length =
      (outline.next line).address := by
  cases read with
  | registers | complement | immediate | branch | halt | exit | data =>
    rw [next_address has rfl]
    rfl
  | origin placed =>
    rw [Item.words, List.length_replicate]
    have forward := placed.2
    omega

/-- The second pass succeeds if every line can be encoded; it puts the words of the program. -/
theorem emitPlaced_succeeds {symbols : Symbols} {labels : Labels} (shows : Shows symbols labels)
    {outline : Outline} {program : Program} {placed : List Placed}
    (lays : Lays outline program placed) {output : Array Word}
    (here : output.size = outline.address) :
    SucceedsWhen (placed.foldlM (emitPlaced symbols) output)
      (Along (Outline.Encodes labels) outline program)
      fun result => result.toList = output.toList ++ wordsFrom labels outline program := by
  induction lays generalizing output with
  | nil => exact .ok trivial (List.append_nil _).symm
  | @line outline line rest _ there places _ ih =>
    cases places with
    | nothing has =>
      have next : output.size = (outline.next line).address := by
        simp only [Outline.next, has, here]
      have encodes : outline.Encodes labels line := by
        intro item same
        rw [has] at same
        cases same
      refine (ih next).congr (and_iff_right encodes).symm fun result shape => ?_
      simp only [wordsFrom, has, List.nil_append, shape]
    | @item item number statement has read =>
      rw [← here] at read
      have emitted := emit_item shows read
      rw [here] at emitted read
      have later : ∀ middle : Array Word,
          middle.toList = output.toList ++
            item.words labels outline.address (outline.next line).address →
          SucceedsWhen (there.foldlM (emitPlaced symbols) middle)
            (Along (Outline.Encodes labels) (outline.next line) rest)
            fun result => result.toList =
              output.toList ++ wordsFrom labels outline (line :: rest) := by
        intro middle shape
        have next : middle.size = (outline.next line).address := by
          rw [← address_add_length labels has read, ← Array.length_toList, shape,
            List.length_append, Array.length_toList, here]
        refine (ih next).congr Iff.rfl fun result words => ?_
        simp only [wordsFrom, has, words, shape, List.append_assoc]
      rw [List.singleton_append, List.foldlM_cons]
      refine (emitted.mapError.bind later).congr ?_ fun _ shape => shape
      apply and_congr_left
      intro _
      rw [Outline.Encodes, has]
      constructor
      · intro encodable other same
        cases same
        exact encodable
      · intro encodes
        exact encodes item rfl

end WordMachine.Assembly.Program
