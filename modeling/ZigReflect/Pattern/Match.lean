import ZigReflect.Pattern.Regex
import ZigReflect.Text.Find
import ZigReflect.Text.Word

/-!
# Matching

Matching works on sets of positions in a text. An expression moves a set of
positions to the set of positions that it can lead to, and a text matches when
some position can be reached from some position. Whether a repetition prefers
more or fewer turns makes no difference to that.
-/

namespace ZigReflect.Pattern

/-- A set of positions: bit `i` stands for the position before character `i`. -/
abbrev Marks := Nat

namespace Marks

/-- The positions up to `n` that satisfy a condition. -/
def collect (n : Nat) (p : Nat → Bool) : Marks :=
  (List.range (n + 1)).foldl (fun s i => if p i then s ||| (1 <<< i) else s) 0

/-- Applies a step a number of times, and stops early when nothing changes. -/
def iterate (step : Marks → Marks) : Nat → Marks → Marks
  | 0, s => s
  | k + 1, s => let t := step s; if t = s then s else iterate step k t

end Marks

/-- Whether a condition on words holds between two places, of which it is known
whether they are in a word. -/
def WordAnchor.holds (before after : Bool) : WordAnchor → Bool
  | .boundary => before != after
  | .notBoundary => before == after
  | .first => !before && after
  | .last => before && !after
  | .firstHalf => !before
  | .lastHalf => !after

/-- Whether the condition holds at a position of a text. -/
def Anchor.holds (text : Array Char) (i : Nat) (a : Anchor) : Bool :=
  let before : Option Char := if i = 0 then none else text[i - 1]?
  let after := text[i]?
  match a with
  | .textStart => i = 0
  | .textEnd => i = text.size
  | .lineStart returns =>
    before.all fun c => c == '\n' || (returns && c == '\r' && after != some '\n')
  | .lineEnd returns =>
    after.all fun c =>
      if returns then c == '\r' || (c == '\n' && before != some '\r') else c == '\n'
  | .word w ascii =>
    let isWord := if ascii then Text.isWordAscii else Text.isWord
    w.holds (before.any isWord) (after.any isWord)

/-- How an expression moves positions of one text. -/
inductive Moves where
  /-- Stays at the positions that are marked. -/
  | stay (marks : Marks)
  /-- Goes one character on from the positions that are marked. -/
  | step (marks : Marks)
  | seq (a b : Moves)
  | alt (a b : Moves)
  /-- At least `min` turns, and at most `more` after them. -/
  | turns (min more : Nat) (m : Moves)

namespace Moves

/-- The positions that are reached from a set of positions. -/
def advance : Moves → Marks → Marks
  | .stay marks, s => s &&& marks
  | .step marks, s => (s &&& marks) <<< 1
  | .seq a b, s => b.advance (a.advance s)
  | .alt a b, s => a.advance s ||| b.advance s
  | .turns min more m, s =>
    Marks.iterate (fun s => s ||| m.advance s) more (Marks.iterate m.advance min s)

end Moves

namespace Regex

/-- One step over a character that satisfies a condition. -/
def stepMoves (text : Array Char) (p : Char → Bool) : Moves :=
  .step (Marks.collect text.size fun i => (text[i]?).any p)

mutual

/-- How the expression moves positions of a text. -/
def moves (text : Array Char) : Regex → Moves
  | .text cs =>
    cs.foldr (fun c m => .seq (stepMoves text (· == c)) m)
      (.stay (Marks.collect text.size fun _ => true))
  | .one s => stepMoves text s.has
  | .anchor a => .stay (Marks.collect text.size fun i => a.holds text i)
  | .turns min max r =>
    let more := match max with
      | some m => Nat.min (m - min) (text.size + 1)
      | none => text.size + 1
    .turns min more (r.moves text)
  | .group _ r => r.moves text
  | .seq rs => seqMoves text rs
  | .alt rs => altMoves text rs

/-- How expressions one after another move positions. -/
def seqMoves (text : Array Char) : List Regex → Moves
  | [] => .stay (Marks.collect text.size fun _ => true)
  | r :: rs => .seq (r.moves text) (seqMoves text rs)

/-- How one of several expressions moves positions. -/
def altMoves (text : Array Char) : List Regex → Moves
  | [] => .stay 0
  | r :: rs => .alt (r.moves text) (altMoves text rs)

end

/-- Whether the expression matches somewhere in a text. -/
def isMatch (r : Regex) (s : String) : Bool :=
  let text := s.toList.toArray
  (r.moves text).advance (Marks.collect text.size fun _ => true) != 0

end Regex

end ZigReflect.Pattern
