import WordMachine.Text.Blank
import WordMachine.Text.Cluster
import WordMachine.Text.Column

/-!
Text wrapped to a number of columns. A row ends before a word that would reach past its end; a word
that is too wide for any row is cut. Blanks are kept, except those that fit into the rest of a row
that has ended.
-/

set_option autoImplicit false

namespace WordMachine.Text

/-- Whether a row may end at a cluster: a blank that allows a break, or a space without width. -/
def allowsBreak (cluster : Text) : Bool :=
  cluster == ['\u200B'] || (cluster.all isBlank && cluster != ['\u00A0'])

structure Strip where
  /-- The clusters, the last one first. -/
  clusters : List Text
  columns : Nat

namespace Strip

def empty : Strip := ⟨[], 0⟩

def push (strip : Strip) (cluster : Text) (columns : Nat) : Strip :=
  ⟨cluster :: strip.clusters, strip.columns + columns⟩

def append (strip following : Strip) : Strip :=
  ⟨following.clusters ++ strip.clusters, strip.columns + following.columns⟩

/-- Whether there are no clusters. They may be there and take no columns. -/
def isEmpty (strip : Strip) : Bool := strip.clusters.isEmpty

def toList (strip : Strip) : List Text := strip.clusters.reverse

/-- Clusters without those at their start that fit into some columns. -/
def dropFitting (columns : Nat) : List Text → List Text
  | [] => []
  | cluster :: rest =>
    if cluster.columns ≤ columns then dropFitting (columns - cluster.columns) rest
    else cluster :: rest

def ofList (clusters : List Text) : Strip :=
  clusters.foldl (fun strip cluster => strip.push cluster cluster.columns) empty

end Strip

structure Wrapping where
  rows : Array (List Text)
  row : Strip
  gap : Strip
  word : Strip
  /-- Whether the cluster read last belongs to a word. -/
  inWord : Bool

namespace Wrapping

def start : Wrapping := ⟨#[], .empty, .empty, .empty, false⟩

def settle (wrapping : Wrapping) : Wrapping :=
  { wrapping with
    row := (wrapping.row.append wrapping.gap).append wrapping.word
    gap := .empty
    word := .empty }

def append (blank : Bool) (cluster : Text) (columns : Nat) (wrapping : Wrapping) : Wrapping :=
  if blank then { wrapping with gap := wrapping.gap.push cluster columns, inWord := false }
  else { wrapping with word := wrapping.word.push cluster columns, inWord := true }

/-- Ends the row. Blanks that fit into the rest of it are dropped. -/
def breakRow (width : Nat) (wrapping : Wrapping) : Wrapping :=
  { wrapping with
    rows := wrapping.rows.push wrapping.row.toList
    row := .empty
    gap := .ofList (Strip.dropFitting (width - wrapping.row.columns) wrapping.gap.toList) }

/-- Whether the row, the blanks and the word leave no room for another cluster. -/
def isFull (width columns : Nat) (wrapping : Wrapping) : Bool :=
  width ≤ wrapping.row.columns ||
    (0 < columns &&
      width ≤ wrapping.row.columns + wrapping.gap.columns + wrapping.word.columns)

/-- Whether the blanks and the word belong to the row before a cluster is read: the word has
ended, or there is nothing before it and no room after it. -/
def isSettled (width : Nat) (blank : Bool) (columns : Nat) (wrapping : Wrapping) : Bool :=
  (wrapping.inWord && blank) ||
    (wrapping.row.isEmpty && width < wrapping.word.columns + wrapping.gap.columns + columns)

/-- Takes the next cluster. One that is wider than a row is passed over, and so is a blank right
after the end of a row. -/
def feed (width : Nat) (wrapping : Wrapping) (cluster : Text) : Wrapping :=
  let columns := cluster.columns
  let blank := allowsBreak cluster
  if width < columns then wrapping
  else
    let settled := if wrapping.isSettled width blank columns then wrapping.settle else wrapping
    if settled.isFull width columns then
      let broken := settled.breakRow width
      if blank && broken.gap.isEmpty then broken else broken.append blank cluster columns
    else settled.append blank cluster columns

/-- All rows, once the line has ended. There is at least one. -/
def finish (wrapping : Wrapping) : List (List Text) :=
  let onlyBlanks := wrapping.row.isEmpty && wrapping.word.isEmpty && !wrapping.gap.isEmpty
  let ended := wrapping.rows.toList ++ (if onlyBlanks then [[]] else [])
  let last := wrapping.settle.row.toList
  if last.isEmpty && !ended.isEmpty then ended else ended ++ [last]

end Wrapping

def wrapped (width : Nat) (line : Text) : List (List Text) :=
  (line.clusters.foldl (Wrapping.feed width) .start).finish

end WordMachine.Text
