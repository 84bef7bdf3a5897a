/-
This file defines how many terminal columns a text occupies.
-/

import Reckon.Text.Cluster
import Reckon.Text.Terminal
import Reckon.Text.Width

namespace Reckon.Text

/-- The end of a measured text stands in a control sequence, or on the ground, or in a cluster that
began with `first` and has the width `width` so far. -/
inductive Pending where
  | sequence (mode : TerminalMode)
  | cluster (first : ClusterClass) (state : ClusterState) (width : Nat)

/-- The finished clusters of a measured text occupy `settled` columns. -/
structure Measure where
  settled : Nat
  pending : Pending

def Measure.empty : Measure :=
  ⟨0, .sequence .ground⟩

/-- This is the number of columns that the measured text occupies. -/
def Measure.total (measure : Measure) : Nat :=
  match measure.pending with
  | .sequence _ => measure.settled
  | .cluster _ _ width => measure.settled + width

/-- A picture has one column as text and two in colour, and a variation selector chooses. A flag and
a Hangul syllable are as wide as their first letter. Other clusters are as wide as their characters
together. -/
def clusterColumns (first : ClusterClass) (width : Nat) (character : Char) : Nat :=
  match first with
  | .pictograph =>
    if character.toNat == 0xFE0E then 1
    else if character.toNat == 0xFE0F then 2
    else width
  | .flagLetter | .leadingJamo => width
  | _ => width + characterColumns character

/-- The terminal shows the ASCII characters from the blank to the tilde. -/
def isShown (character : Char) : Bool :=
  0x20 ≤ character.toNat && character.toNat < 0x7F

/-- A character outside a cluster goes on with a control sequence, or begins a cluster if it is
beyond ASCII. -/
def Measure.outside (settled : Nat) (mode : TerminalMode) (character : Char) : Measure :=
  if character.toNat < 0x80 then
    let shown := if mode == .ground && isShown character then 1 else 0
    ⟨settled + shown, .sequence (mode.next character.toNat.toUInt8)⟩
  else if mode.holdsText then
    ⟨settled, .sequence ((String.utf8EncodeChar character).foldl TerminalMode.next mode)⟩
  else
    let first := clusterClass character
    ⟨settled, .cluster first (.ofFirst first) (characterColumns character)⟩

/-- This is the measure of a text with one more character. -/
def Measure.push (measure : Measure) (character : Char) : Measure :=
  match measure.pending with
  | .sequence mode => Measure.outside measure.settled mode character
  | .cluster first state width =>
    match state.extended? (clusterClass character) with
    | some extended =>
      ⟨measure.settled, .cluster first extended (clusterColumns first width character)⟩
    | none => Measure.outside (measure.settled + width) .ground character

/-- A text is measured from its beginning to its end. -/
def columns (text : String) : Nat :=
  (text.toList.foldl Measure.push .empty).total

end Reckon.Text
