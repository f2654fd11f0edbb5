import Switchboard.Text.Case
import Switchboard.Text.ClusterTable

/-!
# Grapheme clusters

A text is cut into extended grapheme clusters: what a reader sees as one character, such as a letter
with its combining marks.  The rule that keeps conjuncts of Brahmic scripts together is left out: the
letters on both sides of such a break have no case, and no caller can tell.
-/

namespace Switchboard
namespace Text

/-- The break class of a character. -/
inductive Break where
  | carriageReturn | lineFeed | control | extending | joiner | regional | prepended | spacing
  | leading | vowel | trailing | leadingVowel | leadingVowelTrailing | pictographic | other
deriving DecidableEq, Repr

/-- The break class of a character; no table is read for the first 128. -/
def breakOf (c : Char) : Break :=
  let n := c.toNat
  if n == 13 then .carriageReturn
  else if n == 10 then .lineFeed
  else if n < 32 || n == 127 then .control
  else if n < 127 then .other
  else if n == 0x200D then .joiner
  else if 0x1F1E6 ≤ n && n ≤ 0x1F1FF then .regional
  else if (0x1100 ≤ n && n ≤ 0x115F) || (0xA960 ≤ n && n ≤ 0xA97C) then .leading
  else if (0x1160 ≤ n && n ≤ 0x11A7) || (0xD7B0 ≤ n && n ≤ 0xD7C6) then .vowel
  else if (0x11A8 ≤ n && n ≤ 0x11FF) || (0xD7CB ≤ n && n ≤ 0xD7FB) then .trailing
  else if 0xAC00 ≤ n && n ≤ 0xD7A3 then
    if (n - 0xAC00) % 28 == 0 then .leadingVowel else .leadingVowelTrailing
  else if inRanges ClusterTable.control n then .control
  else if inRanges ClusterTable.extending n then .extending
  else if inRanges ClusterTable.spacing n then .spacing
  else if inRanges ClusterTable.prepended n then .prepended
  else if inRanges ClusterTable.pictographic n then .pictographic
  else .other

/-- What the break rules remember of the characters read so far. -/
structure BreakContext where
  /-- The class of the last character. -/
  last : Break
  /-- Whether an odd number of regional indicators ends here. -/
  oddRegional : Bool
  /-- Whether a pictograph followed by extending characters ends here. -/
  afterPictograph : Bool
  /-- Whether such a pictograph followed by a joiner ends here. -/
  afterJoiner : Bool

/-- The context after a character of the given class. -/
def BreakContext.advance (before : Option BreakContext) (cls : Break) : BreakContext where
  last := cls
  oddRegional := cls == .regional && !(before.any (·.oddRegional))
  afterPictograph :=
    cls == .pictographic || (cls == .extending && before.any (·.afterPictograph))
  afterJoiner := cls == .joiner && before.any (·.afterPictograph)

/-- Whether a character of the given class belongs to the cluster read so far. -/
def BreakContext.continues (before : BreakContext) (cls : Break) : Bool :=
  match before.last, cls with
  | .carriageReturn, .lineFeed => true
  | .carriageReturn, _ | .lineFeed, _ | .control, _ => false
  | _, .carriageReturn | _, .lineFeed | _, .control => false
  | .leading, .leading | .leading, .vowel | .leading, .leadingVowel
  | .leading, .leadingVowelTrailing => true
  | .leadingVowel, .vowel | .leadingVowel, .trailing | .vowel, .vowel | .vowel, .trailing => true
  | .leadingVowelTrailing, .trailing | .trailing, .trailing => true
  | _, .extending | _, .joiner | _, .spacing => true
  | .prepended, _ => true
  | .joiner, .pictographic => before.afterJoiner
  | .regional, .regional => before.oddRegional
  | _, _ => false

/-- The clusters of what follows, where the first one continues the cluster before if the context
says so. -/
def clustersAfter : Option BreakContext → List Char → Bool × List (List Char)
  | _, [] => (false, [])
  | before, c :: rest =>
    let cls := breakOf c
    let continued := before.any (·.continues cls)
    match clustersAfter (some (BreakContext.advance before cls)) rest with
    | (true, cluster :: clusters) => (continued, (c :: cluster) :: clusters)
    | (_, clusters) => (continued, [c] :: clusters)

/-- The extended grapheme clusters of a text. -/
def clusters (cs : List Char) : List (List Char) :=
  (clustersAfter none cs).2

end Text
end Switchboard
