import WordMachine.Files.ImageFile
import WordMachine.Proofs.Outcome

/-! Files. What is written under a path is read under it again unless the system refuses that, and
it stands in the way of no other path: where a file could be written it still can be, and at the
same place. -/

set_option autoImplicit false

namespace WordMachine

/-- Pieces of which the last is empty end in a slash when they are joined. -/
theorem Text.getLast?_joinWith {before : List Text} (present : before ≠ []) :
    (joinWith ['/'] (before ++ [[]])).getLast? = some '/' := by
  induction before with
  | nil => exact absurd rfl present
  | cons first rest ih =>
    have later : rest ++ [[]] ≠ [] := List.append_ne_nil_of_right_ne_nil rest (List.cons_ne_nil _ _)
    rw [joinWith, List.cons_append, List.intercalate_cons_of_ne_nil later]
    cases rest with
    | nil => rw [List.nil_append, List.intercalate_singleton, List.append_nil, List.getLast?_concat]
    | cons second rest =>
      have last := ih (List.cons_ne_nil _ _)
      rw [joinWith] at last
      rw [List.getLast?_append, last, Option.some_or]

private theorem Path.getLast?_pieces {path : Path} (present : path.text ≠ [])
    (closed : path.text.getLast? ≠ some '/') : path.pieces.getLast? ≠ some [] := by
  intro void
  obtain ⟨before, split⟩ := List.getLast?_eq_some_iff.mp void
  have whole : Text.joinWith ['/'] path.pieces = path.text := List.intercalate_splitOn '/'
  rw [split] at whole
  rcases List.eq_nil_or_concat before with rfl | ⟨front, piece, rfl⟩
  · exact present whole.symm
  · apply closed
    rw [← whole]
    exact Text.getLast?_joinWith (by simp)

private theorem Path.dropWhile_pieces {path : Path} (present : path.text ≠ [])
    (closed : path.text.getLast? ≠ some '/') :
    path.pieces.reverse.dropWhile List.isEmpty = path.pieces.reverse := by
  have last := path.getLast?_pieces present closed
  rw [← List.head?_reverse] at last
  cases listed : path.pieces.reverse with
  | nil => rfl
  | cons piece rest =>
    rw [listed, List.head?_cons] at last
    have named : ¬piece.isEmpty = true := fun void =>
      last (congrArg some (List.isEmpty_iff.mp void))
    exact List.dropWhile_cons_of_neg named

namespace Directory

/-! ## Folders on the way to a place -/

/-- Every location above the place is a folder. -/
def Rooted (directory : Directory) (place : Location) : Prop :=
  ∀ above, above <+: place → above ≠ place → directory.isFolder above = true

private theorem isFolder_iff {directory : Directory} {location : Location} :
    directory.isFolder location = true ↔ isAnchor location = true ∨ location ∈ directory.folders ∨
      ∃ entry ∈ directory.files, location <+: entry.1 ∧ location ≠ entry.1 := by
  simp [isFolder, or_assoc]

private theorem isFolder_of_isAnchor {directory : Directory} {location : Location}
    (anchor : isAnchor location = true) : directory.isFolder location = true :=
  isFolder_iff.mpr (.inl anchor)

private theorem mem_files_put {directory : Directory} {place : Location} {bytes : List UInt8}
    {entry : Location × List UInt8} :
    entry ∈ (directory.put place bytes).files ↔
      entry = (place, bytes) ∨ (entry ∈ directory.files ∧ entry.1 ≠ place) := by
  simp [put]

/-- A file makes no folder of a location that is none. -/
theorem isFolder_put {directory : Directory} {place : Location} (rooted : directory.Rooted place)
    (bytes : List UInt8) (location : Location) :
    (directory.put place bytes).isFolder location = directory.isFolder location := by
  rw [Bool.eq_iff_iff]
  constructor
  · intro folder
    rcases isFolder_iff.mp folder with anchor | listed | ⟨entry, held, above, other⟩
    · exact isFolder_of_isAnchor anchor
    · exact isFolder_iff.mpr (.inr (.inl listed))
    · rcases mem_files_put.mp held with rfl | ⟨older, -⟩
      · exact rooted location above other
      · exact isFolder_iff.mpr (.inr (.inr ⟨entry, older, above, other⟩))
  · intro folder
    rcases isFolder_iff.mp folder with anchor | listed | ⟨entry, held, above, other⟩
    · exact isFolder_of_isAnchor anchor
    · exact isFolder_iff.mpr (.inr (.inl listed))
    · by_cases here : entry.1 = place
      · exact isFolder_iff.mpr
          (.inr (.inr ⟨(place, bytes), mem_files_put.mpr (.inl rfl), here ▸ above, here ▸ other⟩))
      · exact isFolder_iff.mpr
          (.inr (.inr ⟨entry, mem_files_put.mpr (.inr ⟨held, here⟩), above, other⟩))

private theorem isSome_file?_put {directory : Directory} {location : Location}
    (held : (directory.file? location).isSome = true) (place : Location) (bytes : List UInt8) :
    ((directory.put place bytes).file? location).isSome = true := by
  by_cases here : location = place
  · rw [here, file?_put_same]
    rfl
  · rwa [file?_put_other directory bytes here]

/-! ## Ways -/

private theorem rooted_of_isAnchor {directory : Directory} {location : Location}
    (anchor : isAnchor location = true) : directory.Rooted location := by
  intro above prefixed other
  apply isFolder_of_isAnchor
  rw [isAnchor, Bool.or_eq_true, beq_iff_eq, List.all_eq_true] at anchor ⊢
  rcases anchor with rfl | parents
  · rcases List.prefix_cons_iff.mp prefixed with rfl | ⟨rest, rfl, nothing⟩
    · exact .inr nofun
    · rw [List.prefix_nil.mp nothing] at other
      exact absurd rfl other
  · exact .inr fun piece listed => parents piece (prefixed.subset listed)

private theorem rooted_start (directory : Directory) (path : Path) :
    directory.Rooted (start path) := by
  apply rooted_of_isAnchor
  rw [start]
  split <;> rfl

private theorem Rooted.parent {directory : Directory} {location : Location}
    (rooted : directory.Rooted location) : directory.Rooted (parent location) := by
  rw [Directory.parent]
  split
  next => exact rooted
  next absolute =>
    split
    next anchor =>
      apply rooted_of_isAnchor
      rw [isAnchor, Bool.or_eq_true, List.all_eq_true] at anchor ⊢
      have parents := anchor.resolve_left absolute
      right
      intro piece listed
      rcases List.mem_append.mp listed with before | last
      · exact parents piece before
      · rw [List.mem_singleton.mp last, beq_self_eq_true]
    next low =>
      intro above prefixed other
      apply rooted above (prefixed.trans (List.dropLast_prefix location))
      rintro rfl
      have empty : above = [] := by
        have shorter := prefixed.length_le
        rw [List.length_dropLast] at shorter
        exact List.length_eq_zero_iff.mp (by omega)
      exact low (by rw [empty]; rfl)

private theorem Rooted.child {directory : Directory} {location : Location} {name : Text}
    (rooted : directory.Rooted location) (folder : directory.isFolder location = true) :
    directory.Rooted (location ++ [name]) := by
  intro above prefixed other
  rcases List.prefix_concat_iff.mp prefixed with whole | prefixed
  · exact absurd whole other
  · by_cases same : above = location
    · rwa [same]
    · exact rooted above prefixed same

private theorem eq_of_child {folder place : Location} {name : Text}
    (found : child folder name = .ok place) : place = folder ++ [name] := by
  rw [child] at found
  split at found
  next => cases found
  next =>
    cases found
    rfl

/-- A piece of a path stays in a folder, goes up from it or goes on to something that it holds. -/
inductive Enters (directory : Directory) (location : Location) (piece : Text) : Location → Prop
  | stay (void : Path.isVoid piece = true) : Enters directory location piece location
  | up (named : ¬Path.isVoid piece = true) (above : piece = Path.parentPiece) :
      Enters directory location piece (parent location)
  | on {next : Location} (named : ¬Path.isVoid piece = true) (below : piece ≠ Path.parentPiece)
      (found : child location piece = .ok next)
      (held : directory.isFolder next = true ∨ (directory.file? next).isSome = true) :
      Enters directory location piece next

private theorem enter_eq_ok {directory : Directory} {location next : Location} {piece : Text} :
    directory.enter location piece = .ok next ↔
      directory.isFolder location = true ∧ directory.Enters location piece next := by
  rw [enter]
  constructor
  · intro entered
    split at entered
    next => cases entered
    next folder =>
      refine ⟨by simpa using folder, ?_⟩
      split at entered
      next void =>
        cases entered
        exact .stay void
      next named =>
        split at entered
        next above =>
          cases entered
          exact .up named above
        next below =>
          obtain ⟨place, found, entered⟩ := ok_of_bind entered
          split at entered
          next held =>
            cases entered
            exact .on named below found (Bool.or_eq_true _ _ ▸ held)
          next => cases entered
  · rintro ⟨folder, enters⟩
    rw [folder]
    cases enters with
    | stay void => rw [if_pos void]; rfl
    | up named above => rw [if_neg named, if_pos above]; rfl
    | on named below found held =>
      have there : (directory.isFolder next || (directory.file? next).isSome) = true :=
        Bool.or_eq_true _ _ ▸ held
      rw [if_neg named, if_neg below, found]
      show (if (directory.isFolder next || (directory.file? next).isSome) = true then _ else _) = _
      rw [if_pos there]

private theorem Rooted.enter {directory : Directory} {location next : Location} {piece : Text}
    (rooted : directory.Rooted location) (entered : directory.enter location piece = .ok next) :
    directory.Rooted next := by
  obtain ⟨folder, enters⟩ := enter_eq_ok.mp entered
  cases enters with
  | stay => exact rooted
  | up => exact rooted.parent
  | on _ _ found =>
    rw [eq_of_child found]
    exact rooted.child folder

private theorem Rooted.walk {directory : Directory} {pieces : List Text} {location next : Location}
    (rooted : directory.Rooted location) (walked : directory.walk location pieces = .ok next) :
    directory.Rooted next := by
  induction pieces generalizing location with
  | nil =>
    cases walked
    exact rooted
  | cons piece rest ih =>
    rw [Directory.walk, List.foldlM_cons] at walked
    obtain ⟨middle, entered, rest⟩ := ok_of_bind walked
    exact ih (rooted.enter entered) rest

private theorem enter_put {directory : Directory} {place location next : Location} {piece : Text}
    (rooted : directory.Rooted place) (bytes : List UInt8)
    (entered : directory.enter location piece = .ok next) :
    (directory.put place bytes).enter location piece = .ok next := by
  obtain ⟨folder, enters⟩ := enter_eq_ok.mp entered
  refine enter_eq_ok.mpr ⟨(isFolder_put rooted bytes location).trans folder, ?_⟩
  cases enters with
  | stay void => exact .stay void
  | up named above => exact .up named above
  | on named below found held =>
    refine .on named below found (held.imp ?_ ?_)
    · exact (isFolder_put rooted bytes next).trans
    · exact fun present => isSome_file?_put present place bytes

private theorem walk_put {directory : Directory} {place location next : Location}
    {pieces : List Text} (rooted : directory.Rooted place) (bytes : List UInt8)
    (walked : directory.walk location pieces = .ok next) :
    (directory.put place bytes).walk location pieces = .ok next := by
  induction pieces generalizing location with
  | nil => exact walked
  | cons piece rest ih =>
    rw [walk, List.foldlM_cons] at walked ⊢
    obtain ⟨middle, entered, rest⟩ := ok_of_bind walked
    rw [enter_put rooted bytes entered]
    exact ih rest

/-- A way that ends in a folder has come through folders. -/
theorem isFolder_of_walk {directory : Directory} {location folder : Location} {pieces : List Text}
    (walked : directory.walk location pieces = .ok folder)
    (isFolder : directory.isFolder folder = true) : directory.isFolder location = true := by
  cases pieces with
  | nil =>
    cases walked
    exact isFolder
  | cons piece rest =>
    rw [walk, List.foldlM_cons] at walked
    obtain ⟨middle, entered, -⟩ := ok_of_bind walked
    exact (enter_eq_ok.mp entered).1

/-- A file that has been put somewhere opens no way to a folder. -/
theorem walk_of_walk_put {directory : Directory} {place location folder : Location}
    {pieces : List Text} {bytes : List UInt8} (rooted : directory.Rooted place)
    (walked : (directory.put place bytes).walk location pieces = .ok folder)
    (isFolder : directory.isFolder folder = true) :
    directory.walk location pieces = .ok folder := by
  induction pieces generalizing location with
  | nil => exact walked
  | cons piece rest ih =>
    rw [walk, List.foldlM_cons] at walked ⊢
    obtain ⟨middle, entered, later⟩ := ok_of_bind walked
    have inside : directory.isFolder middle = true := by
      rw [← isFolder_put rooted bytes] at isFolder ⊢
      exact isFolder_of_walk later isFolder
    obtain ⟨start, enters⟩ := enter_eq_ok.mp entered
    have here : directory.enter location piece = .ok middle := by
      refine enter_eq_ok.mpr ⟨(isFolder_put rooted bytes location).symm.trans start, ?_⟩
      cases enters with
      | stay void => exact .stay void
      | up named above => exact .up named above
      | on named below found => exact .on named below found (.inl inside)
    rw [here]
    exact ih later

private theorem walk_concat {directory : Directory} {location middle : Location}
    {pieces : List Text} (walked : directory.walk location pieces = .ok middle) (last : Text) :
    directory.walk location (pieces ++ [last]) = directory.enter middle last := by
  rw [walk] at walked ⊢
  rw [List.foldlM_append, walked]
  exact bind_pure (directory.enter middle last)

/-! ## Places for files -/

/-- How a path leads to a place for a file: through folders to one of them and on by a name. -/
structure Leads (directory : Directory) (path : Path) (before : List Text) (last : Text)
    (folder place : Location) : Prop where
  checked : checked path = .ok path
  pieces : path.pieces = before ++ [last]
  closed : path.text.getLast? ≠ some '/'
  walked : directory.walk (start path) before = .ok folder
  isFolder : directory.isFolder folder = true
  named : ¬Path.isVoid last = true
  below : last ≠ Path.parentPiece
  found : child folder last = .ok place
  free : directory.isFolder place = false

private theorem checked_eq_ok {path other : Path} (found : checked path = .ok other) :
    other = path ∧ path.text ≠ [] := by
  rw [checked] at found
  split at found
  next => cases found
  next =>
    split at found
    next => cases found
    next =>
      split at found
      next => cases found
      next present =>
        cases found
        exact ⟨rfl, by simpa using present⟩

private theorem exists_leads {directory : Directory} {path : Path} {place : Location}
    (found : directory.target path = .ok place) :
    ∃ before last folder, directory.Leads path before last folder place := by
  obtain ⟨other, checked, rest⟩ := ok_of_bind found
  obtain ⟨rfl, present⟩ := checked_eq_ok checked
  split at rest
  next => cases rest
  next last before split =>
    obtain ⟨folder, walked, rest⟩ := ok_of_bind rest
    split at rest
    next => cases rest
    next isFolder =>
      split at rest
      next => cases rest
      next name =>
        simp only [Bool.or_eq_true, decide_eq_true_eq, not_or] at name
        obtain ⟨⟨closed, named⟩, below⟩ := name
        obtain ⟨inside, child, rest⟩ := ok_of_bind rest
        split at rest
        next => cases rest
        next free =>
          cases rest
          rw [other.dropWhile_pieces present closed] at split
          refine ⟨before.reverse, last, folder, checked, ?_, closed, walked, ?_, named, below,
            child, ?_⟩
          · rw [← List.reverse_cons, ← split, List.reverse_reverse]
          · simpa using isFolder
          · simpa using free

namespace Leads

variable {directory : Directory} {path : Path} {before : List Text} {last : Text}
  {folder place : Location} (leads : directory.Leads path before last folder place)

include leads

private theorem target_eq : directory.target path = .ok place := by
  obtain ⟨-, present⟩ := checked_eq_ok leads.checked
  have split : path.pieces.reverse.dropWhile List.isEmpty = last :: before.reverse := by
    rw [path.dropWhile_pieces present leads.closed, leads.pieces, List.reverse_concat]
  have name : ¬(decide (path.text.getLast? = some '/') || Path.isVoid last ||
      decide (last = Path.parentPiece)) = true := by
    simp only [Bool.or_eq_true, decide_eq_true_eq, not_or]
    exact ⟨⟨leads.closed, leads.named⟩, leads.below⟩
  have walked := leads.walked
  rw [← before.reverse_reverse] at walked
  simp only [target, leads.checked, split, walked, leads.isFolder, if_neg name, leads.found,
    leads.free, bind, Except.bind]
  rfl

private theorem rooted : directory.Rooted place := by
  rw [eq_of_child leads.found]
  exact ((rooted_start directory path).walk leads.walked).child leads.isFolder

private theorem put {other : Location} (rooted : directory.Rooted other) (bytes : List UInt8) :
    (directory.put other bytes).Leads path before last folder place where
  checked := leads.checked
  pieces := leads.pieces
  closed := leads.closed
  walked := walk_put rooted bytes leads.walked
  isFolder := (isFolder_put rooted bytes folder).trans leads.isFolder
  named := leads.named
  below := leads.below
  found := leads.found
  free := (isFolder_put rooted bytes place).trans leads.free

omit leads in
private theorem of_put {other : Location} {bytes : List UInt8} (rooted : directory.Rooted other)
    (leads : (directory.put other bytes).Leads path before last folder place) :
    directory.Leads path before last folder place := by
  have isFolder := (isFolder_put rooted bytes folder).symm.trans leads.isFolder
  exact {
    checked := leads.checked
    pieces := leads.pieces
    closed := leads.closed
    walked := walk_of_walk_put rooted leads.walked isFolder
    isFolder := isFolder
    named := leads.named
    below := leads.below
    found := leads.found
    free := (isFolder_put rooted bytes place).symm.trans leads.free }

private theorem read_eq {bytes : List UInt8} (held : directory.file? place = some bytes) :
    directory.read path = (directory.refusal? place .read).elim (.ok bytes) .error := by
  have present : (directory.file? place).isSome = true := by
    rw [held]
    rfl
  have entered : directory.enter folder last = .ok place :=
    enter_eq_ok.mpr ⟨leads.isFolder, .on leads.named leads.below leads.found (.inr present)⟩
  have walked : directory.walk (start path) path.pieces = .ok place := by
    rw [leads.pieces, walk_concat leads.walked, entered]
  simp only [read, leads.checked, walked, held, bind, Except.bind]
  cases directory.refusal? place .read <;> rfl

end Leads

/-! ## Writing -/

variable {directory written : Directory} {path other : Path} {place : Location}
  {bytes held : List UInt8}

theorem write_of_target (found : directory.target path = .ok place)
    (granted : directory.refusal? place (.write bytes) = none) :
    directory.write path bytes = .ok (directory.put place bytes) := by
  simp only [write, found, granted, bind, Except.bind]

/-- What becomes of a file that is written: there is no place for it, or the system refuses it, or
it is put at its place. -/
inductive Writes (directory : Directory) (path : Path) (bytes : List UInt8) :
    Except IoError Directory → Prop where
  | nowhere {cause : IoError} : directory.target path = .error cause →
      Writes directory path bytes (.error cause)
  | refused {place : Location} {cause : IoError} : directory.target path = .ok place →
      directory.refusal? place (.write bytes) = some cause →
      Writes directory path bytes (.error cause)
  | put {place : Location} : directory.target path = .ok place →
      directory.refusal? place (.write bytes) = none →
      Writes directory path bytes (.ok (directory.put place bytes))

theorem writes_write (directory : Directory) (path : Path) (bytes : List UInt8) :
    Writes directory path bytes (directory.write path bytes) := by
  cases found : directory.target path with
  | error cause =>
    have failed : directory.write path bytes = .error cause := by
      rw [write, found]
      rfl
    rw [failed]
    exact .nowhere found
  | ok place =>
    cases refusal : directory.refusal? place (.write bytes) with
    | none =>
      rw [write_of_target found refusal]
      exact .put found refusal
    | some cause =>
      have failed : directory.write path bytes = .error cause := by
        simp only [write, found, refusal, bind, Except.bind]
      rw [failed]
      exact .refused found refusal

theorem exists_put (done : directory.write path bytes = .ok written) :
    ∃ place, directory.target path = .ok place ∧ written = directory.put place bytes := by
  have writes := directory.writes_write path bytes
  rw [done] at writes
  cases writes with
  | put found => exact ⟨_, found, rfl⟩

theorem writeImage_of_target {words : List Word} (found : directory.target path = .ok place)
    (granted : directory.refusal? place (.write (Image.ofWords words)) = none) :
    directory.writeImage path words = .ok (directory.put place (Image.ofWords words)) := by
  rw [writeImage, write_of_target found granted]
  rfl

/-- A place that a path leads to is found again when another file has been written. -/
theorem target_write (done : directory.write path bytes = .ok written)
    (found : directory.target other = .ok place) : written.target other = .ok place := by
  obtain ⟨beside, led, rfl⟩ := exists_put done
  obtain ⟨_, _, _, leads⟩ := exists_leads led
  obtain ⟨_, _, _, others⟩ := exists_leads found
  exact (others.put leads.rooted bytes).target_eq

/-- What has been written leads a path to no place to which it did not lead before. -/
theorem target_write_iff (done : directory.write path bytes = .ok written) :
    written.target other = .ok place ↔ directory.target other = .ok place := by
  constructor
  · intro found
    obtain ⟨beside, led, rfl⟩ := exists_put done
    obtain ⟨_, _, _, leads⟩ := exists_leads led
    obtain ⟨_, _, _, others⟩ := exists_leads found
    exact (Leads.of_put leads.rooted others).target_eq
  · exact target_write done

/-- A file that a path leads to is read unless the system refuses that. -/
theorem read_of_target (found : directory.target path = .ok place)
    (there : directory.file? place = some bytes) :
    directory.read path = (directory.refusal? place .read).elim (.ok bytes) .error := by
  obtain ⟨_, _, _, leads⟩ := exists_leads found
  exact leads.read_eq there

/-! ## Granted accesses -/

/-- The path leads to a place for a file, and no access to it is ever refused. -/
def Grants (directory : Directory) (path : Path) : Prop :=
  ∃ place, directory.target path = .ok place ∧
    ∀ files access, directory.refusals files place access = none

theorem Grants.refusal? (grants : directory.Grants path)
    (found : directory.target path = .ok place) (access : Access) :
    directory.refusal? place access = none := by
  obtain ⟨_, same, granted⟩ := grants
  cases found.symm.trans same
  exact granted directory.files access

/-- Access is granted to the same paths when a file has been written. -/
theorem Grants.write (grants : directory.Grants other)
    (done : directory.write path bytes = .ok written) : written.Grants other := by
  obtain ⟨place, found, granted⟩ := grants
  refine ⟨place, target_write done found, ?_⟩
  obtain ⟨_, -, rfl⟩ := exists_put done
  exact granted

theorem Grants.read_eq (grants : directory.Grants path)
    (found : directory.target path = .ok place) (there : directory.file? place = some bytes) :
    directory.read path = .ok bytes := by
  rw [read_of_target found there, grants.refusal? found .read]
  rfl

theorem read_write_other (grants : directory.Grants other)
    (done : directory.write path bytes = .ok written) (found : directory.target other = .ok place)
    (apart : directory.target path ≠ .ok place) (there : directory.file? place = some held) :
    written.read other = .ok held := by
  obtain ⟨beside, led, put⟩ := exists_put done
  apply (grants.write done).read_eq (target_write done found)
  have distinct : place ≠ beside := by
    rintro rfl
    exact apart led
  rw [put, file?_put_other directory bytes distinct, there]

end Directory

end WordMachine
