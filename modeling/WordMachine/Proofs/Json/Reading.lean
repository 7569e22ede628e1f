import WordMachine.Json.Reader
import WordMachine.Proofs.Assembly.Operands
import WordMachine.Proofs.Json.Grammar

/-! Every way of writing down a JSON value is read back as that value. The scanner is described by
what it makes of the front of a text, one token at a time, and the reader by what it makes of a
token, so that reading goes along the grammar. -/

set_option autoImplicit false

namespace WordMachine.Json

open Assembly.Program (WritesDigits)

/-! ## Scanning -/

/-- What the scanner makes of the rest of a text, when it is in the middle of something. -/
def scanFrom (scanning : Scanning) (text : Text) : Option (List Token) :=
  (text.foldlM Scanner.feed ⟨#[], scanning⟩).bind Scanner.finish

/-- The scanner with tokens before its own. -/
def Scanner.after (before : Array Token) (scanner : Scanner) : Scanner :=
  ⟨before ++ scanner.tokens, scanner.scanning⟩

private theorem begin_after (before tokens : Array Token) (char : Char) :
    Scanner.begin (before ++ tokens) char =
      (Scanner.begin tokens char).map (Scanner.after before) := by
  simp only [Scanner.begin]
  split
  next => rfl
  next =>
    split
    next => rfl
    next =>
      split
      next => rfl
      next =>
        split
        next => rfl
        next => cases mark? char <;> simp [Scanner.after]

/-- Tokens that have been read do not matter for those that follow. -/
theorem feed_after (before : Array Token) (scanner : Scanner) (char : Char) :
    (scanner.after before).feed char = (scanner.feed char).map (Scanner.after before) := by
  obtain ⟨tokens, scanning⟩ := scanner
  cases scanning with
  | nothing => exact begin_after before tokens char
  | word text =>
    have flushed := begin_after before (tokens.push (.word text)) char
    rw [Array.append_push] at flushed
    simp only [Scanner.feed, Scanner.after]
    split
    next => rfl
    next => exact flushed
  | number text =>
    have flushed := begin_after before (tokens.push (.number text)) char
    rw [Array.append_push] at flushed
    simp only [Scanner.feed, Scanner.after]
    split
    next => rfl
    next => exact flushed
  | string pieces =>
    simp only [Scanner.feed, Scanner.after]
    split
    next => simp [Scanner.after]
    next =>
      split
      next => rfl
      next => split <;> rfl
  | escape pieces =>
    simp only [Scanner.feed, Scanner.after]
    split
    next => rfl
    next => cases escaped? char <;> rfl
  | unicode pieces digits =>
    simp only [Scanner.feed, Scanner.after]
    split
    next => rfl
    next => split <;> rfl

private theorem finish_after (before : Array Token) (scanner : Scanner) :
    (scanner.after before).finish = scanner.finish.map (before.toList ++ ·) := by
  obtain ⟨tokens, scanning⟩ := scanner
  cases scanning <;> simp [Scanner.finish, Scanner.after]

private theorem scan_after (before : Array Token) (scanner : Scanner) (text : Text) :
    (text.foldlM Scanner.feed (scanner.after before)).bind Scanner.finish =
      ((text.foldlM Scanner.feed scanner).bind Scanner.finish).map (before.toList ++ ·) := by
  induction text generalizing scanner with
  | nil => exact finish_after before scanner
  | cons char rest ih =>
    have step := feed_after before scanner char
    simp only [List.foldlM_cons, Option.bind_eq_bind] at ih ⊢
    rw [step]
    cases scanner.feed char with
    | none => rfl
    | some next => exact ih next

/-- What a text leads to is scanned before the rest. -/
theorem scanFrom_append {first second : Scanning} {text : Text} {tokens : Array Token}
    (leads : text.foldlM Scanner.feed ⟨#[], first⟩ = some ⟨tokens, second⟩) (rest : Text) :
    scanFrom first (text ++ rest) = (scanFrom second rest).map (tokens.toList ++ ·) := by
  have whole : Scanner.after tokens ⟨#[], second⟩ = ⟨tokens, second⟩ := by
    simp [Scanner.after]
  rw [scanFrom, List.foldlM_append, leads, ← whole]
  exact scan_after tokens ⟨#[], second⟩ rest

/-! ## Tokens -/

/-- Nothing that would belong to a word or a number stands at the front. -/
def Closing (text : Text) : Prop :=
  ∀ char ∈ text.head?, char.isAlpha = false ∧ isNumberPart char = false

private theorem closing_cons {char : Char} (text : Text) (apart : char.isAlpha = false)
    (other : isNumberPart char = false) : Closing (char :: text) := by
  rintro _ ⟨⟩
  exact ⟨apart, other⟩

private theorem scan_blank {char : Char} (blank : char ∈ [' ', '\t', '\n', '\r']) (rest : Text) :
    scanFrom .nothing (char :: rest) = scanFrom .nothing rest := by
  have leads : [char].foldlM Scanner.feed ⟨#[], .nothing⟩ = some ⟨#[], .nothing⟩ := by
    simp only [List.mem_cons, List.not_mem_nil, or_false] at blank
    rcases blank with rfl | rfl | rfl | rfl <;> rfl
  exact (scanFrom_append leads rest).trans Option.map_id'

private theorem scan_mark {char : Char} {token : Token} (known : mark? char = some token)
    (rest : Text) :
    scanFrom .nothing (char :: rest) = (scanFrom .nothing rest).map (token :: ·) := by
  have leads : [char].foldlM Scanner.feed ⟨#[], .nothing⟩ = some ⟨#[token], .nothing⟩ := by
    unfold mark? at known
    split at known <;> cases known <;> rfl
  exact scanFrom_append leads rest

/-- A word or a number ends where nothing follows that would belong to it. -/
theorem scan_open {text : Text} {scanning : Scanning} {token : Token}
    (known : scanning = .word text ∧ token = .word text ∨
      scanning = .number text ∧ token = .number text)
    (leads : text.foldlM Scanner.feed ⟨#[], .nothing⟩ = some ⟨#[], scanning⟩)
    {rest : Text} (closing : Closing rest) :
    scanFrom .nothing (text ++ rest) = (scanFrom .nothing rest).map (token :: ·) := by
  have flushed : scanFrom scanning rest = (scanFrom .nothing rest).map (token :: ·) := by
    cases rest with
    | nil => rcases known with ⟨rfl, rfl⟩ | ⟨rfl, rfl⟩ <;> rfl
    | cons char others =>
      obtain ⟨apart, other⟩ := closing char rfl
      -- The token is only complete when the next character does not go on with it.
      have step : Scanner.feed ⟨#[], scanning⟩ char = Scanner.feed ⟨#[token], .nothing⟩ char := by
        rcases known with ⟨rfl, rfl⟩ | ⟨rfl, rfl⟩
        · simp only [Scanner.feed, apart, Bool.false_eq_true, if_false]
          rfl
        · simp only [Scanner.feed, other, Bool.false_eq_true, if_false]
          rfl
      have later := scan_after #[token] ⟨#[], .nothing⟩ (char :: others)
      rw [scanFrom, List.foldlM_cons, step, ← List.foldlM_cons]
      exact later
  rw [scanFrom_append leads, flushed]
  exact Option.map_id'

private theorem leads_number {first : Char} {others : Text}
    (begins : first.isDigit = true ∨ first = '-')
    (parts : ∀ char ∈ others, isNumberPart char = true) :
    (first :: others).foldlM Scanner.feed ⟨#[], .nothing⟩ =
      some ⟨#[], .number (first :: others)⟩ := by
  have later (text : Text) : others.foldlM Scanner.feed ⟨#[], .number text⟩ =
      some ⟨#[], .number (text ++ others)⟩ := by
    induction others generalizing text with
    | nil => simp
    | cons char others ih =>
      obtain ⟨part, parts⟩ := List.forall_mem_cons.mp parts
      have step : Scanner.feed ⟨#[], .number text⟩ char =
          some ⟨#[], .number (text ++ [char])⟩ := by
        simp only [Scanner.feed, part, if_true]
      rw [List.foldlM_cons, step]
      exact (ih parts _).trans (by rw [List.append_assoc]; rfl)
  have step : Scanner.feed ⟨#[], .nothing⟩ first = some ⟨#[], .number [first]⟩ := by
    have visible : isSpace first = false ∧ (first == '"') = false := by
      rcases begins with digit | rfl
      · constructor
        · simp only [isSpace, Bool.or_eq_false_iff, beq_eq_false_iff_ne]
          refine ⟨⟨⟨?_, ?_⟩, ?_⟩, ?_⟩ <;> rintro rfl <;> cases digit
        · rw [beq_eq_false_iff_ne]
          rintro rfl
          cases digit
      · exact ⟨rfl, rfl⟩
    have number : (first.isDigit || first == '-') = true := by
      rw [Bool.or_eq_true, beq_iff_eq]
      exact begins
    simp only [Scanner.feed, Scanner.begin, visible, number, Bool.false_eq_true, if_false, if_true]
  rw [List.foldlM_cons, step]
  exact later [first]

/-! ## Strings -/

/-- What digits begin with are digits too. -/
theorem natural?_of_append {base value : Nat} {front rest : Text}
    (read : Numeral.natural? base (front ++ rest) = some value) (filled : front ≠ []) :
    ∃ unit, Numeral.natural? base front = some unit := by
  cases front with
  | nil => exact absurd rfl filled
  | cons first front =>
    have extended : Numeral.extend? base 0 (first :: front ++ rest) = some value := read
    rw [Numeral.extend?_append] at extended
    obtain ⟨unit, found, -⟩ := Option.bind_eq_some_iff.mp extended
    exact ⟨unit, found⟩

/-- The induction is on the digits that are left; those before them are digits as well. -/
theorem leads_unicode {unit : Nat} {before digits : Text} (pieces : List StringPiece)
    (read : Numeral.natural? 16 (before ++ digits) = some unit)
    (four : (before ++ digits).length = 4) (filled : digits ≠ []) :
    digits.foldlM Scanner.feed ⟨#[], .unicode pieces before⟩ =
      some ⟨#[], .string (pieces ++ [StringPiece.ofUnit unit])⟩ := by
  induction digits generalizing before with
  | nil => exact absurd rfl filled
  | cons char rest ih =>
    rw [List.append_cons] at read four
    cases rest with
    | nil =>
      rw [List.append_nil] at read four
      simp [Scanner.feed, read, four]
    | cons second rest =>
      obtain ⟨value, found⟩ := natural?_of_append read (by simp)
      have short : (before ++ [char]).length < 4 := by
        rw [List.length_append] at four
        have more : 0 < (second :: rest).length := Nat.succ_pos _
        omega
      have step : Scanner.feed ⟨#[], .unicode pieces before⟩ char =
          some ⟨#[], .unicode pieces (before ++ [char])⟩ := by
        simp only [Scanner.feed, found, short, if_true]
      rw [List.foldlM_cons, step]
      exact ih read four (List.cons_ne_nil _ _)

private theorem leads_string {pieces : List StringPiece} {text : Text}
    (written : WritesString pieces text) (before : List StringPiece) :
    text.foldlM Scanner.feed ⟨#[], .string before⟩ = some ⟨#[], .string (before ++ pieces)⟩ := by
  induction written generalizing before with
  | nil => simp
  | @plain char pieces text printed quote backslash _ ih =>
    have step : Scanner.feed ⟨#[], .string before⟩ char =
        some ⟨#[], .string (before ++ [.char char])⟩ := by
      simp [Scanner.feed, quote, backslash, Nat.not_lt.mpr printed]
    rw [List.foldlM_cons, step]
    exact (ih _).trans (by rw [List.append_assoc]; rfl)
  | @escape letter meant pieces text known _ ih =>
    have step : ['\\', letter].foldlM Scanner.feed ⟨#[], .string before⟩ =
        some ⟨#[], .string (before ++ [.char meant])⟩ := by
      simp only [escapes, List.mem_cons, List.not_mem_nil, or_false, Prod.mk.injEq] at known
      rcases known with ⟨rfl, rfl⟩ | ⟨rfl, rfl⟩ | ⟨rfl, rfl⟩ | ⟨rfl, rfl⟩ | ⟨rfl, rfl⟩ |
        ⟨rfl, rfl⟩ | ⟨rfl, rfl⟩ | ⟨rfl, rfl⟩ <;> rfl
    have split : '\\' :: letter :: text = ['\\', letter] ++ text := rfl
    rw [split, List.foldlM_append, step]
    exact (ih _).trans (by rw [List.append_assoc]; rfl)
  | @unicode unit digits text pieces written four _ ih =>
    have filled := written.ne_nil
    have step : ('\\' :: 'u' :: digits).foldlM Scanner.feed ⟨#[], .string before⟩ =
        some ⟨#[], .string (before ++ [StringPiece.ofUnit unit])⟩ :=
      leads_unicode before (written.natural? (Nat.le_refl 16)) four filled
    rw [List.foldlM_append, step]
    exact (ih _).trans (by rw [List.append_assoc]; rfl)

private theorem scan_string {pieces : List StringPiece} {text : Text}
    (written : WritesString pieces text) (rest : Text) :
    scanFrom .nothing ('"' :: text ++ '"' :: rest) =
      (scanFrom .nothing rest).map (.string pieces :: ·) := by
  have leads : ('"' :: text ++ ['"']).foldlM Scanner.feed ⟨#[], .nothing⟩ =
      some ⟨#[.string pieces], .nothing⟩ := by
    have inside : ('"' :: text).foldlM Scanner.feed ⟨#[], .nothing⟩ =
        some ⟨#[], .string pieces⟩ := leads_string written []
    rw [List.foldlM_append, inside]
    rfl
  rw [List.append_cons]
  exact scanFrom_append leads rest

/-! ## Numbers -/

private theorem leadingDigits?_append {digits : Text} (known : Digits digits) (rest : Text)
    (ended : ∀ char ∈ rest.head?, char.isDigit = false) :
    leadingDigits? (digits ++ rest) = some (digits, rest) := by
  obtain ⟨filled, each⟩ := known
  have stops : rest.takeWhile Char.isDigit = [] ∧ rest.dropWhile Char.isDigit = rest := by
    cases rest with
    | nil => exact ⟨rfl, rfl⟩
    | cons char rest => simp [ended char rfl]
  rw [leadingDigits?, List.takeWhile_append_of_pos each, List.dropWhile_append_of_pos each,
    stops.1, stops.2, List.append_nil]
  cases digits with
  | nil => exact absurd rfl filled
  | cons first digits => rfl

private theorem isExponent_of_digits {sign digits : Text} (signed : sign ∈ [[], ['+'], ['-']])
    (known : Digits digits) : isExponent (sign ++ digits) = true := by
  have leading := leadingDigits?_append known [] nofun
  rw [List.append_nil] at leading
  simp only [List.mem_cons, List.not_mem_nil, or_false] at signed
  rcases signed with rfl | rfl | rfl
  · have unsigned {mark : Char} (foreign : mark.isDigit = false) (rest : Text) :
        digits = mark :: rest → False := by
      rintro rfl
      have digit := known.2 mark List.mem_cons_self
      exact Bool.false_ne_true (foreign.symm.trans digit)
    rw [List.nil_append, isExponent]
    · rw [leading]
    · exact unsigned rfl
    · exact unsigned rfl
  · simp [isExponent, leading]
  · simp [isExponent, leading]

private theorem isNumberPart_of_isDigit {char : Char} (digit : char.isDigit = true) :
    isNumberPart char = true := by
  simp [isNumberPart, digit]

private theorem Digits.parts {digits : Text} (known : Digits digits) :
    ∀ char ∈ digits, isNumberPart char = true :=
  fun char member => isNumberPart_of_isDigit (known.2 char member)

private theorem parts_of_sign {sign : Text} (signed : sign ∈ [[], ['+'], ['-']]) :
    ∀ char ∈ sign, isNumberPart char = true := by
  simp only [List.mem_cons, List.not_mem_nil, or_false] at signed
  rcases signed with rfl | rfl | rfl
  · exact nofun
  · exact List.forall_mem_singleton.mpr rfl
  · exact List.forall_mem_singleton.mpr rfl

/-- After its letter an exponent is read as one and consists of parts of a number. -/
theorem WritesExponent.eq_nil_or {exponent : Text} (written : WritesExponent exponent) :
    exponent = [] ∨ ∃ rest, (exponent = 'e' :: rest ∨ exponent = 'E' :: rest) ∧
      isExponent rest = true ∧ ∀ char ∈ rest, isNumberPart char = true := by
  cases written with
  | none => exact .inl rfl
  | @power letter sign digits known signed digit =>
    refine .inr ⟨sign ++ digits, ?_, isExponent_of_digits signed digit,
      List.forall_mem_append.mpr ⟨parts_of_sign signed, digit.parts⟩⟩
    simp only [List.mem_cons, List.not_mem_nil, or_false] at known
    rcases known with rfl | rfl
    · exact .inl rfl
    · exact .inr rfl

private theorem WritesExponent.ended {exponent : Text} (written : WritesExponent exponent) :
    ∀ char ∈ exponent.head?, char.isDigit = false := by
  rcases written.eq_nil_or with rfl | ⟨rest, rfl | rfl, -, -⟩
  · exact nofun
  · rintro _ ⟨⟩
    rfl
  · rintro _ ⟨⟩
    rfl

private theorem isFraction_append {fraction exponent : Text} (first : WritesFraction fraction)
    (second : WritesExponent exponent) : isFraction (fraction ++ exponent) = true := by
  cases first with
  | none =>
    rcases second.eq_nil_or with rfl | ⟨rest, rfl | rfl, power, -⟩
    · rfl
    · exact power
    · exact power
  | @point digits known =>
    have leading := leadingDigits?_append known _ second.ended
    simp only [isFraction, List.cons_append, leading, Option.map_some]
    rcases second.eq_nil_or with rfl | ⟨rest, rfl | rfl, power, -⟩
    · rfl
    · exact power
    · exact power

private theorem WritesWhole.known {value : Nat} {text : Text} (written : WritesWhole value text) :
    Digits text :=
  ⟨written.digits.ne_nil, written.digits.isDigit⟩

private theorem numberValue?_append {value : Nat} {sign whole : Text} (signed : sign ∈ [[], ['-']])
    (written : WritesWhole value whole) (rest : Text)
    (ended : ∀ char ∈ rest.head?, char.isDigit = false) :
    numberValue? (sign ++ (whole ++ rest)) =
      if rest.isEmpty && !(!sign.isEmpty && whole == ['0']) then
        some (.integer (if sign.isEmpty then value else -value))
      else if isFraction rest then some (.decimal (sign ++ (whole ++ rest)))
      else none := by
  have leading := leadingDigits?_append written.known _ ended
  have read := written.digits.natural? (show 10 ≤ 16 by decide)
  have zeros : (decide (whole.head? = some '0') && whole.length != 1) = false := by
    by_cases zero : whole.head? = some '0'
    · rw [written.first zero]
      rfl
    · simp [zero]
  simp only [List.mem_cons, List.not_mem_nil, or_false] at signed
  rcases signed with rfl | rfl
  · have unsigned (others : Text) : [] ++ (whole ++ rest) = '-' :: others → False := by
      intro same
      obtain ⟨filled, each⟩ := written.known
      cases whole with
      | nil => exact filled rfl
      | cons first whole =>
        cases same
        exact Bool.false_ne_true (each '-' List.mem_cons_self)
    rw [numberValue?]
    · simp [leading, read, zeros]
    · exact unsigned
  · simp [numberValue?, leading, read, zeros]

private theorem numberValue?_of_writes {value : JsonValue} {text : Text}
    (written : WritesNumber value text) : numberValue? text = some value := by
  cases written with
  | @natural value text written =>
    have read := numberValue?_append (show [] ∈ [[], ['-']] by simp) written [] nofun
    simpa using read
  | @negative value text written positive =>
    have read := numberValue?_append (show ['-'] ∈ [[], ['-']] by simp) written [] nofun
    have other : text ≠ ['0'] := by
      rintro rfl
      have zero := written.digits.natural? (show 10 ≤ 16 by decide)
      exact positive (Option.some.inj zero).symm
    simpa [other] using read
  | minusZero => rfl
  | @decimal value sign whole fraction exponent signed written first second filled =>
    have ended : ∀ char ∈ (fraction ++ exponent).head?, char.isDigit = false := by
      cases first with
      | none => exact second.ended
      | point _ =>
        rintro _ ⟨⟩
        rfl
    have read := numberValue?_append signed written _ ended
    rw [List.append_assoc, read, isFraction_append first second]
    simp [filled]

private theorem WritesFraction.parts {fraction : Text} (written : WritesFraction fraction) :
    ∀ char ∈ fraction, isNumberPart char = true := by
  cases written with
  | none => exact nofun
  | point known => exact List.forall_mem_cons.mpr ⟨rfl, known.parts⟩

private theorem WritesExponent.parts {exponent : Text} (written : WritesExponent exponent) :
    ∀ char ∈ exponent, isNumberPart char = true := by
  rcases written.eq_nil_or with rfl | ⟨rest, rfl | rfl, -, parts⟩
  · exact nofun
  · exact List.forall_mem_cons.mpr ⟨rfl, parts⟩
  · exact List.forall_mem_cons.mpr ⟨rfl, parts⟩

private theorem leads_of_writes {value : JsonValue} {text : Text}
    (written : WritesNumber value text) :
    text.foldlM Scanner.feed ⟨#[], .nothing⟩ = some ⟨#[], .number text⟩ := by
  have of_whole {whole : Text} (known : Digits whole) (rest : Text)
      (parts : ∀ char ∈ rest, isNumberPart char = true) :
      (whole ++ rest).foldlM Scanner.feed ⟨#[], .nothing⟩ =
        some ⟨#[], .number (whole ++ rest)⟩ := by
    cases whole with
    | nil => exact absurd rfl known.1
    | cons first whole =>
      have others := (List.forall_mem_cons.mp known.parts).2
      exact leads_number (.inl (known.2 first List.mem_cons_self))
        (List.forall_mem_append.mpr ⟨others, parts⟩)
  cases written with
  | natural written =>
    have leads := of_whole written.known [] nofun
    rwa [List.append_nil] at leads
  | negative written _ => exact leads_number (.inr rfl) written.known.parts
  | minusZero => rfl
  | @decimal value sign whole fraction exponent signed written first second _ =>
    have parts := List.forall_mem_append.mpr ⟨first.parts, second.parts⟩
    simp only [List.mem_cons, List.not_mem_nil, or_false] at signed
    rcases signed with rfl | rfl
    · exact of_whole written.known _ parts
    · exact leads_number (.inr rfl) (List.forall_mem_append.mpr ⟨written.known.parts, parts⟩)

/-! ## Reading -/

/-- What the reader makes of the rest of a text, when it expects something. -/
def parse (reading : Reading) (text : Text) : Option Reading :=
  (scanFrom .nothing text).bind fun tokens => tokens.foldlM Reading.feed reading

private theorem parse_of_scan {text rest : Text} {token : Token}
    (scan : scanFrom .nothing text = (scanFrom .nothing rest).map (token :: ·))
    {reading next : Reading} (step : reading.feed token = some next) :
    parse reading text = parse next rest := by
  rw [parse, scan, parse]
  cases scanFrom .nothing rest with
  | none => rfl
  | some tokens =>
    have first : (token :: tokens).foldlM Reading.feed reading =
        (reading.feed token).bind fun next => tokens.foldlM Reading.feed next := List.foldlM_cons
    rw [Option.map_some, Option.bind_some, first, step]
    rfl

private theorem parse_blanks {blanks : Text} (blank : Blanks blanks) (reading : Reading)
    (rest : Text) :
    parse reading (blanks ++ rest) = parse reading rest := by
  induction blanks with
  | nil => rfl
  | cons char blanks ih =>
    obtain ⟨first, others⟩ := List.forall_mem_cons.mp blank
    rw [← ih others, List.cons_append, parse, scan_blank first, parse]

private theorem closing_of_blanks {blanks rest : Text} (blank : Blanks blanks)
    (closing : Closing rest) :
    Closing (blanks ++ rest) := by
  cases blanks with
  | nil => exact closing
  | cons char blanks =>
    have first := blank char List.mem_cons_self
    simp only [List.mem_cons, List.not_mem_nil, or_false] at first
    rcases first with rfl | rfl | rfl | rfl <;> exact closing_cons _ rfl rfl

/-- The reader takes up a value with this stack, whatever the value is. -/
def Reading.Expects (reading : Reading) (stack : List Frame) : Prop :=
  ∀ token, token ≠ .closeArray → reading.feed token = Reading.begin stack token

/-- The reader takes up a key after members of an object. -/
def Reading.ExpectsKey (reading : Reading) (members : List (List StringPiece × JsonValue))
    (stack : List Frame) : Prop :=
  ∀ name, reading.feed (.string name) = some (.colon members name stack)

/-- The text is read as the phrase wherever the phrase may stand. -/
def ReadAs (text : Text) : Phrase → Prop
  | .value value => ∀ reading stack rest, Reading.Expects reading stack → Closing rest →
    parse reading (text ++ rest) = parse (.done value stack) rest
  | .spaced value => ∀ reading stack rest, Reading.Expects reading stack → Closing rest →
    parse reading (text ++ rest) = parse (.done value stack) rest
  | .items items => ∀ reading before stack rest,
    Reading.Expects reading (.array before :: stack) →
    parse reading (text ++ ']' :: rest) = parse (.done (.array (before ++ items)) stack) rest
  | .member key value => ∀ reading before stack rest, Reading.ExpectsKey reading before stack →
    Closing rest →
    parse reading (text ++ rest) = parse (.done value (.object before key :: stack)) rest
  | .members members => ∀ reading before stack rest, Reading.ExpectsKey reading before stack →
    parse reading (text ++ '\x7d' :: rest) =
      parse (.done (.object (before ++ members)) stack) rest

private theorem readAs_word {text : Text} {value : JsonValue} (known : wordValue? text = some value)
    (leads : text.foldlM Scanner.feed ⟨#[], .nothing⟩ = some ⟨#[], .word text⟩) :
    ReadAs text (.value value) := by
  intro reading stack rest expects closing
  refine parse_of_scan (scan_open (.inl ⟨rfl, rfl⟩) leads closing)
    ((expects (.word text) nofun).trans ?_)
  rw [Reading.begin, known]
  rfl

private theorem parse_mark {char : Char} {token : Token} (known : mark? char = some token)
    {reading next : Reading} (step : reading.feed token = some next) (rest : Text) :
    parse reading (char :: rest) = parse next rest :=
  parse_of_scan (scan_mark known rest) step

/-- The induction goes along the grammar. -/
theorem readAs_of_writes {phrase : Phrase} {text : Text} (written : Writes phrase text) :
    ReadAs text phrase := by
  induction written with
  | null => exact readAs_word rfl rfl
  | true => exact readAs_word rfl rfl
  | false => exact readAs_word rfl rfl
  | @number value text written =>
    intro reading stack rest expects closing
    have known := numberValue?_of_writes written
    have scan := scan_open (.inr ⟨rfl, rfl⟩) (leads_of_writes written) closing
    refine parse_of_scan scan ((expects (.number text) nofun).trans ?_)
    rw [Reading.begin, known]
    rfl
  | string written =>
    intro reading stack rest expects _
    have scan := scan_string written rest
    rw [List.append_assoc, List.singleton_append]
    exact parse_of_scan scan (expects _ nofun)
  | @emptyArray blanks blank =>
    intro reading stack rest expects _
    rw [List.append_assoc, List.singleton_append]
    calc parse reading ('[' :: (blanks ++ ']' :: rest))
      _ = parse (.firstItem stack) (blanks ++ ']' :: rest) :=
        parse_mark rfl (expects .openArray nofun) _
      _ = parse (.firstItem stack) (']' :: rest) := parse_blanks blank _ _
      _ = parse (.done (.array []) stack) rest := parse_mark rfl rfl _
  | @array items text written ih =>
    intro reading stack rest expects _
    rw [List.append_assoc, List.singleton_append]
    calc parse reading ('[' :: (text ++ ']' :: rest))
      _ = parse (.firstItem stack) (text ++ ']' :: rest) :=
        parse_mark rfl (expects .openArray nofun) _
      _ = parse (.done (.array items) stack) rest := by
        refine ih (.firstItem stack) [] stack rest ?_
        -- Where the first item may stand, only a closing bracket is taken in another way.
        intro token other
        cases token <;> first | rfl | exact absurd rfl other
  | @emptyObject blanks blank =>
    intro reading stack rest expects _
    rw [List.append_assoc, List.singleton_append]
    calc parse reading ('\x7b' :: (blanks ++ '\x7d' :: rest))
      _ = parse (.firstKey stack) (blanks ++ '\x7d' :: rest) :=
        parse_mark rfl (expects .openObject nofun) _
      _ = parse (.firstKey stack) ('\x7d' :: rest) := parse_blanks blank _ _
      _ = parse (.done (.object []) stack) rest := parse_mark rfl rfl _
  | @object members text written ih =>
    intro reading stack rest expects _
    rw [List.append_assoc, List.singleton_append]
    calc parse reading ('\x7b' :: (text ++ '\x7d' :: rest))
      _ = parse (.firstKey stack) (text ++ '\x7d' :: rest) :=
        parse_mark rfl (expects .openObject nofun) _
      _ = parse (.done (.object members) stack) rest :=
        ih (.firstKey stack) [] stack rest fun _ => rfl
  | @spaced value before text after blank written blanks ih =>
    intro reading stack rest expects closing
    rw [List.append_assoc, List.append_assoc, parse_blanks blank,
      ih reading stack _ expects (closing_of_blanks blanks closing), parse_blanks blanks]
  | @lastItem item text written ih =>
    intro reading before stack rest expects
    rw [ih reading _ _ expects (closing_cons rest rfl rfl)]
    exact parse_mark rfl rfl rest
  | @items item items text later written others first ih =>
    intro reading before stack rest expects
    rw [List.append_assoc, List.cons_append, first reading _ _ expects (closing_cons _ rfl rfl),
      List.append_cons before item items]
    calc parse (.done item (.array before :: stack)) (',' :: (later ++ ']' :: rest))
      _ = parse (.value (.array (before ++ [item]) :: stack)) (later ++ ']' :: rest) :=
        parse_mark rfl rfl _
      _ = parse (.done (.array (before ++ [item] ++ items)) stack) rest :=
        ih _ _ _ rest fun _ _ => rfl
  | @member key value before name between text blank named blanks written ih =>
    intro reading members stack rest expects closing
    calc parse reading ((before ++ '"' :: name ++ '"' :: between ++ ':' :: text) ++ rest)
      _ = parse reading (before ++ ('"' :: name ++ '"' :: (between ++ ':' :: (text ++ rest)))) := by
        simp only [List.append_assoc, List.cons_append]
      _ = parse reading ('"' :: name ++ '"' :: (between ++ ':' :: (text ++ rest))) :=
        parse_blanks blank _ _
      _ = parse (.colon members key stack) (between ++ ':' :: (text ++ rest)) :=
        parse_of_scan (scan_string named _) (expects key)
      _ = parse (.colon members key stack) (':' :: (text ++ rest)) := parse_blanks blanks _ _
      _ = parse (.value (.object members key :: stack)) (text ++ rest) :=
        parse_mark rfl rfl _
      _ = parse (.done value (.object members key :: stack)) rest :=
        ih _ _ _ (fun _ _ => rfl) closing
  | @lastMember key value text written ih =>
    intro reading before stack rest expects
    rw [ih reading _ _ _ expects (closing_cons rest rfl rfl)]
    exact parse_mark rfl rfl rest
  | @members key value members text later written others first ih =>
    intro reading before stack rest expects
    rw [List.append_assoc, List.cons_append, first reading _ _ _ expects (closing_cons _ rfl rfl),
      List.append_cons before (key, value) members]
    calc parse (.done value (.object before key :: stack)) (',' :: (later ++ '\x7d' :: rest))
      _ = parse (.key (before ++ [(key, value)]) stack) (later ++ '\x7d' :: rest) :=
        parse_mark rfl rfl _
      _ = parse (.done (.object (before ++ [(key, value)] ++ members)) stack) rest :=
        ih _ _ _ rest fun _ => rfl

/-- Every way of writing down a value is read as that value. -/
theorem read?_of_writes {value : JsonValue} {text : Text} (written : Writes (.spaced value) text) :
    read? text = some value := by
  have parsed : parse (.value []) (text ++ []) = parse (.done value []) [] :=
    readAs_of_writes written (.value []) [] [] (fun _ _ => rfl) nofun
  have whole : read? text = (parse (.value []) text).bind Reading.finish := by
    rw [read?, parse, Option.bind_assoc]
    rfl
  rw [List.append_nil] at parsed
  rw [whole, parsed]
  rfl

end WordMachine.Json
