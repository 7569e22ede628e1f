import WordMachine.Text
import WordMachine.Text.Cluster.Class

/-!
Clusters: characters with all that belongs to them, which a reader takes for one sign. A line is cut
between its characters except where the two sides belong together.
-/

set_option autoImplicit false

namespace WordMachine.Text

/-- What the characters before a place offer to a character that could join them. -/
inductive Offer where
  | nothing
  /-- A pictograph and what extends it. -/
  | pictograph
  /-- The same and a joiner. -/
  | joinedPictograph
  /-- A consonant and what extends it. -/
  | consonant
  /-- The same with a linker in it. -/
  | linkedConsonant
  /-- A half of a flag without the other. -/
  | indicator
deriving DecidableEq

def Offer.next (offer : Offer) : ClusterClass → Offer
  | .pictograph => .pictograph
  | .consonant => .consonant
  | .indicator => if offer = .indicator then .nothing else .indicator
  | .linker =>
    match offer with
    | .pictograph => .pictograph
    | .consonant | .linkedConsonant => .linkedConsonant
    | _ => .nothing
  | .extending =>
    match offer with
    | .pictograph => .pictograph
    | .consonant => .consonant
    | .linkedConsonant => .linkedConsonant
    | _ => .nothing
  | .separator => if offer = .pictograph then .pictograph else .nothing
  | .joiner =>
    match offer with
    | .pictograph => .joinedPictograph
    | .consonant => .consonant
    | .linkedConsonant => .linkedConsonant
    | _ => .nothing
  | _ => .nothing

/-- Whether a character of a class takes the offer up. -/
def Offer.accepts : Offer → ClusterClass → Bool
  | .joinedPictograph, .pictograph => true
  | .linkedConsonant, .consonant => true
  | .indicator, .indicator => true
  | _, _ => false

/-- A place between characters, as far as what stands before it decides whether the text is cut
there. -/
structure Place where
  last : ClusterClass
  offer : Offer

namespace Place

/-- The start of a line. Nothing joins it, as nothing joins a control. -/
def start : Place := ⟨.control, .nothing⟩

def next (place : Place) (char : Char) : Place :=
  let cls := ClusterClass.ofChar char
  ⟨cls, place.offer.next cls⟩

/-- Whether two neighbours belong together whatever stands before them. -/
def attracts : ClusterClass → ClusterClass → Bool
  | .leading, .leading | .leading, .vowel | .leading, .openSyllable | .leading, .closedSyllable
  | .openSyllable, .vowel | .openSyllable, .trailing | .vowel, .vowel | .vowel, .trailing
  | .closedSyllable, .trailing | .trailing, .trailing => true
  | _, .extending | _, .separator | _, .linker | _, .joiner | _, .spacing => true
  | .prepended, _ => true
  | _, _ => false

/-- Whether a character belongs to what stands before the place. -/
def joins (place : Place) (char : Char) : Bool :=
  let cls := ClusterClass.ofChar char
  place.last != .control && cls != .control &&
    (attracts place.last cls || place.offer.accepts cls)

end Place

/-- The characters that belong to what stands before a place, and the clusters after them. -/
def clustersFrom (place : Place) : Text → Text × List Text
  | [] => ([], [])
  | char :: rest =>
    let following := clustersFrom (place.next char) rest
    if place.joins char then (char :: following.1, following.2)
    else ([], (char :: following.1) :: following.2)

def clusters (line : Text) : List Text := (clustersFrom .start line).2

end WordMachine.Text
