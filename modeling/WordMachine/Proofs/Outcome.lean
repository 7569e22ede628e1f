import Mathlib.Data.List.Forall2

/-! Computations that may fail: what they can fail with, whether they repeat the successes of others
or correspond to them in successes and failures, and the condition under which they succeed. The
condition is stated apart from the computation, so it can be the reader's own. -/

set_option autoImplicit false

namespace WordMachine

variable {Failure Value Result : Type}

theorem ok_of_bind {computation : Except Failure Value} {next : Value → Except Failure Result}
    {result : Result} (done : computation >>= next = .ok result) :
    ∃ value, computation = .ok value ∧ next value = .ok result := by
  cases computation with
  | error failure => cases done
  | ok value => exact ⟨value, rfl, done⟩

theorem ok_of_mapError {Other : Type} {change : Failure → Other}
    {computation : Except Failure Value} {value : Value}
    (done : computation.mapError change = .ok value) : computation = .ok value := by
  cases computation with
  | error failure => cases done
  | ok found =>
    cases done
    rfl

/-- What is read off a result shows that there is one. -/
theorem ok_of_toOption {computation : Except Failure Value} {reading : Value → Result}
    {result : Result} (read : computation.toOption.map reading = some result) :
    ∃ value, computation = .ok value ∧ reading value = result := by
  cases computation with
  | error failure => cases read
  | ok value => exact ⟨value, rfl, Option.some.inj read⟩

theorem error_of_toOption {computation : Except Failure Value}
    (nothing : computation.toOption.isNone = true) : ∃ failure, computation = .error failure := by
  cases computation with
  | error failure => exact ⟨failure, rfl⟩
  | ok => cases nothing

private theorem error_of_bind {computation : Except Failure Value}
    {next : Value → Except Failure Result} {failure : Failure}
    (failed : computation >>= next = .error failure) :
    computation = .error failure ∨
      ∃ value, computation = .ok value ∧ next value = .error failure := by
  cases computation with
  | error first =>
    cases failed
    exact .inl rfl
  | ok value => exact .inr ⟨value, rfl, failed⟩

private theorem error_of_mapError {Other : Type} {change : Failure → Other}
    {computation : Except Failure Value} {failure : Other}
    (failed : computation.mapError change = .error failure) :
    ∃ cause, computation = .error cause ∧ failure = change cause := by
  cases computation with
  | error cause =>
    cases failed
    exact ⟨cause, rfl, rfl⟩
  | ok value => cases failed

/-- Every failure of the computation is an allowed one. -/
def FailsWithin (computation : Except Failure Value) (allowed : Failure → Prop) : Prop :=
  ∀ failure, computation = .error failure → allowed failure

namespace FailsWithin

variable {allowed : Failure → Prop}

theorem ok {value : Value} : FailsWithin (.ok value) allowed := nofun

theorem error {failure : Failure} (holds : allowed failure) :
    FailsWithin (.error failure : Except Failure Value) allowed := by
  intro other same
  cases same
  exact holds

theorem bind {computation : Except Failure Value} {next : Value → Except Failure Result}
    (first : FailsWithin computation allowed)
    (second : ∀ value, computation = .ok value → FailsWithin (next value) allowed) :
    FailsWithin (computation >>= next) allowed := by
  intro failure failed
  rcases error_of_bind failed with early | ⟨value, found, late⟩
  · exact first failure early
  · exact second value found failure late

theorem map {computation : Except Failure Value} {change : Value → Result}
    (fails : FailsWithin computation allowed) : FailsWithin (computation.map change) allowed := by
  intro failure failed
  cases computation with
  | error cause =>
    cases failed
    exact fails failure rfl
  | ok value => cases failed

theorem mapError {Other : Type} {change : Failure → Other} {others : Other → Prop}
    {computation : Except Failure Value}
    (fails : FailsWithin computation fun failure => others (change failure)) :
    FailsWithin (computation.mapError change) others := by
  intro other failed
  obtain ⟨cause, caused, rfl⟩ := error_of_mapError failed
  exact fails cause caused

theorem mono {others : Failure → Prop} {computation : Except Failure Value}
    (fails : FailsWithin computation allowed)
    (weaken : ∀ failure, allowed failure → others failure) : FailsWithin computation others :=
  fun failure failed => weaken failure (fails failure failed)

/-- A loop fails within what its steps allow. -/
theorem foldlM {Item : Type} {step : Value → Item → Except Failure Value} {items : List Item}
    (steps : ∀ item ∈ items, ∀ value, FailsWithin (step value item) allowed) (start : Value) :
    FailsWithin (items.foldlM step start) allowed := by
  induction items generalizing start with
  | nil => exact ok
  | cons item rest ih =>
    rw [List.foldlM_cons]
    apply (steps item List.mem_cons_self start).bind
    intro next _
    exact ih (fun other member => steps other (List.mem_cons_of_mem _ member)) next

end FailsWithin

/-- Where the other computation succeeds, this one does so with the same value. -/
def Repeats (computation other : Except Failure Value) : Prop :=
  ∀ value, other = .ok value → computation = .ok value

namespace Repeats

variable {computation other : Except Failure Value}

theorem refl (computation : Except Failure Value) : Repeats computation computation :=
  fun _ done => done

theorem bind {next after : Value → Except Failure Result} (first : Repeats computation other)
    (second : ∀ value, Repeats (next value) (after value)) :
    Repeats (computation >>= next) (other >>= after) := by
  intro result done
  obtain ⟨value, found, done⟩ := ok_of_bind done
  rw [first value found]
  exact second value result done

theorem map {change : Value → Result} (repeats : Repeats computation other) :
    Repeats (computation.map change) (other.map change) := by
  intro result done
  cases found : other with
  | error failure =>
    rw [found] at done
    cases done
  | ok value =>
    rw [found] at done
    rw [repeats value found]
    exact done

theorem mapError {Other : Type} {change : Failure → Other} (repeats : Repeats computation other) :
    Repeats (computation.mapError change) (other.mapError change) := by
  intro value done
  rw [repeats value (ok_of_mapError done)]
  rfl

theorem foldlM {Item : Type} {step earlier : Value → Item → Except Failure Value}
    (steps : ∀ value item, Repeats (step value item) (earlier value item)) (items : List Item)
    (start : Value) : Repeats (items.foldlM step start) (items.foldlM earlier start) := by
  induction items generalizing start with
  | nil => exact .refl _
  | cons item rest ih =>
    rw [List.foldlM_cons, List.foldlM_cons]
    exact (steps start item).bind ih

end Repeats

/-- The other computation does as this one does, with its values and its failures changed. -/
def Corresponds {Other Blame : Type} (change : Value → Other) (blame : Failure → Blame)
    (computation : Except Failure Value) (other : Except Blame Other) : Prop :=
  other = (computation.map change).mapError blame

namespace Corresponds

variable {Value' Result' Failure' : Type} {change : Value → Value'} {adapt : Result → Result'}
  {blame : Failure → Failure'} {computation : Except Failure Value} {other : Except Failure' Value'}

theorem ok (value : Value) : Corresponds change blame (.ok value) (.ok (change value)) := rfl

theorem error (failure : Failure) :
    Corresponds change blame (.error failure) (.error (blame failure)) := rfl

theorem bind {next : Value → Except Failure Result} {after : Value' → Except Failure' Result'}
    (first : Corresponds change blame computation other)
    (second : ∀ value, Corresponds adapt blame (next value) (after (change value))) :
    Corresponds adapt blame (computation >>= next) (other >>= after) := by
  subst first
  cases computation with
  | error failure => rfl
  | ok value => exact second value

theorem map {next : Value → Result} {after : Value' → Result'}
    (first : Corresponds change blame computation other)
    (second : ∀ value, after (change value) = adapt (next value)) :
    Corresponds adapt blame (computation.map next) (other.map after) := by
  subst first
  cases computation with
  | error failure => rfl
  | ok value => exact congrArg Except.ok (second value)

theorem mapError {Cause Cause' : Type} {wrap : Failure → Cause} {wrap' : Failure' → Cause'}
    {outer : Cause → Cause'} (first : Corresponds change blame computation other)
    (second : ∀ failure, wrap' (blame failure) = outer (wrap failure)) :
    Corresponds change outer (computation.mapError wrap) (other.mapError wrap') := by
  subst first
  cases computation with
  | error failure => exact congrArg Except.error (second failure)
  | ok value => rfl

theorem foldlM {Item Item' : Type} {adapt : Item → Item'}
    {step : Value → Item → Except Failure Value} {step' : Value' → Item' → Except Failure' Value'}
    (steps : ∀ value item,
      Corresponds change blame (step value item) (step' (change value) (adapt item)))
    (items : List Item) (start : Value) :
    Corresponds change blame (items.foldlM step start)
      ((items.map adapt).foldlM step' (change start)) := by
  induction items generalizing start with
  | nil => exact .ok start
  | cons item rest ih =>
    rw [List.map_cons, List.foldlM_cons, List.foldlM_cons]
    exact (steps start item).bind ih

end Corresponds

/-- The computation succeeds if and only if the condition holds; its value has the property. -/
structure SucceedsWhen (computation : Except Failure Value) (condition : Prop)
    (property : Value → Prop) : Prop where
  sound : ∀ value, computation = .ok value → condition ∧ property value
  complete : condition → ∃ value, computation = .ok value

namespace SucceedsWhen

variable {computation : Except Failure Value} {condition other : Prop}
  {property weaker : Value → Prop}

theorem ok {value : Value} (holds : condition) (has : property value) :
    SucceedsWhen (.ok value : Except Failure Value) condition property := by
  constructor
  · intro result same
    cases same
    exact ⟨holds, has⟩
  · intro _
    exact ⟨value, rfl⟩

theorem error {failure : Failure} (fails : ¬condition) :
    SucceedsWhen (.error failure : Except Failure Value) condition property :=
  ⟨nofun, fun holds => absurd holds fails⟩

theorem bind {later : Prop} {result : Result → Prop} {next : Value → Except Failure Result}
    (first : SucceedsWhen computation condition property)
    (second : ∀ value, property value → SucceedsWhen (next value) later result) :
    SucceedsWhen (computation >>= next) (condition ∧ later) result := by
  constructor
  · intro final done
    cases outcome : computation with
    | error failure => rw [outcome] at done; cases done
    | ok value =>
      rw [outcome] at done
      obtain ⟨holds, has⟩ := first.sound value outcome
      obtain ⟨more, good⟩ := (second value has).sound final done
      exact ⟨⟨holds, more⟩, good⟩
  · intro known
    obtain ⟨holds, more⟩ := known
    obtain ⟨value, outcome⟩ := first.complete holds
    obtain ⟨final, done⟩ := (second value (first.sound value outcome).2).complete more
    exact ⟨final, by rw [outcome]; exact done⟩

/-- A last step that cannot fail changes only the value. -/
theorem bind_ok {result : Result → Prop} {last : Value → Result}
    (first : SucceedsWhen computation condition property)
    (second : ∀ value, property value → result (last value)) :
    SucceedsWhen (computation >>= fun value => .ok (last value)) condition result := by
  constructor
  · intro final done
    cases outcome : computation with
    | error failure => rw [outcome] at done; cases done
    | ok value =>
      rw [outcome] at done
      cases done
      obtain ⟨holds, has⟩ := first.sound value outcome
      exact ⟨holds, second value has⟩
  · intro holds
    obtain ⟨value, outcome⟩ := first.complete holds
    exact ⟨last value, by rw [outcome]; rfl⟩

theorem mapError {Other : Type} {change : Failure → Other}
    (succeeds : SucceedsWhen computation condition property) :
    SucceedsWhen (computation.mapError change) condition property := by
  constructor
  · intro value done
    cases outcome : computation with
    | error failure => rw [outcome] at done; cases done
    | ok found =>
      rw [outcome] at done
      cases done
      exact succeeds.sound _ outcome
  · intro holds
    obtain ⟨value, outcome⟩ := succeeds.complete holds
    exact ⟨value, by rw [outcome]; rfl⟩

theorem congr (succeeds : SucceedsWhen computation condition property)
    (same : condition ↔ other) (weaken : ∀ value, property value → weaker value) :
    SucceedsWhen computation other weaker := by
  constructor
  · intro value done
    obtain ⟨holds, has⟩ := succeeds.sound value done
    exact ⟨same.mp holds, weaken value has⟩
  · intro holds
    exact succeeds.complete (same.mpr holds)

/-- A value that is known in advance is the only one. -/
theorem eq_ok_iff {expected : Value}
    (succeeds : SucceedsWhen computation condition (· = expected)) (value : Value) :
    computation = .ok value ↔ condition ∧ value = expected := by
  constructor
  · exact succeeds.sound value
  · intro known
    obtain ⟨holds, rfl⟩ := known
    obtain ⟨found, done⟩ := succeeds.complete holds
    rw [done, (succeeds.sound found done).2]

end SucceedsWhen

/-! ## Optional results -/

/-- Where every item has a result, all items have theirs together. -/
theorem mapM_of_forall₂ {function : Value → Option Result} {items : List Value}
    {results : List Result}
    (each : List.Forall₂ (fun item result => function item = some result) items results) :
    items.mapM function = some results := by
  induction each with
  | nil => rfl
  | cons first _ ih =>
    rw [List.mapM_cons, first, ih]
    rfl

theorem mapM_eq_some_map {function : Value → Option Result} {result : Value → Result}
    {items : List Value} (each : ∀ item ∈ items, function item = some (result item)) :
    items.mapM function = some (items.map result) :=
  mapM_of_forall₂ (List.forall₂_map_right_iff.mpr (List.forall₂_same.mpr each))

end WordMachine
