/-
This file defines where one cluster of characters ends and the next one begins.
-/

import Reckon.Text.ClusterClass

namespace Reckon.Text

/-- This is what an unfinished cluster ends in. -/
inductive ClusterState where
  | plain
  | carriageReturn
  | control
  | prepended
  | leadingJamo
  | vowel
  | trailingConsonant
  | pictograph
  | joinedPictograph
  | oddFlagLetter
  | evenFlagLetter
  deriving DecidableEq

/-- A cluster begins with a character of this class. -/
def ClusterState.ofFirst : ClusterClass → ClusterState
  | .carriageReturn => .carriageReturn
  | .newline | .control => .control
  | .plain | .extender | .joiner | .spacingMark => .plain
  | .prepended => .prepended
  | .leadingJamo => .leadingJamo
  | .vowelJamo | .openSyllable => .vowel
  | .trailingJamo | .closedSyllable => .trailingConsonant
  | .flagLetter => .oddFlagLetter
  | .pictograph => .pictograph

/-- Some characters go on with a cluster because of what it ends in: a line end of two characters,
the letters of a Hangul syllable, pictures that are joined, and the two letters of a flag. -/
def ClusterState.completed? : ClusterState → ClusterClass → Option ClusterState
  | .carriageReturn, .newline => some .control
  | .leadingJamo, .leadingJamo => some .leadingJamo
  | .leadingJamo, .vowelJamo => some .vowel
  | .leadingJamo, .openSyllable => some .vowel
  | .leadingJamo, .closedSyllable => some .trailingConsonant
  | .vowel, .vowelJamo => some .vowel
  | .vowel, .trailingJamo => some .trailingConsonant
  | .trailingConsonant, .trailingJamo => some .trailingConsonant
  | .pictograph, .extender => some .pictograph
  | .pictograph, .joiner => some .joinedPictograph
  | .joinedPictograph, .pictograph => some .pictograph
  | .oddFlagLetter, .flagLetter => some .evenFlagLetter
  | _, _ => none

/-- Extenders, joiners and spacing marks go on with every cluster that is not a control character.
A prepended character goes on with whatever is not one. -/
def ClusterState.attaches : ClusterState → ClusterClass → Bool
  | .carriageReturn, _ | .control, _ => false
  | _, .extender | _, .joiner | _, .spacingMark => true
  | .prepended, .carriageReturn | .prepended, .newline | .prepended, .control => false
  | .prepended, _ => true
  | _, _ => false

/-- This is the cluster with one more character, if that character belongs to it. -/
def ClusterState.extended? (state : ClusterState) (next : ClusterClass) : Option ClusterState :=
  match state.completed? next with
  | some found => some found
  | none => if state.attaches next then some (.ofFirst next) else none

end Reckon.Text
