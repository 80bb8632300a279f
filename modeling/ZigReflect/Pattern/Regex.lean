import ZigReflect.Pattern.CharSet

/-!
# Regular expressions

Expressions are built by functions that keep them simple: texts and sequences
inside of a sequence are joined, alternatives that are single characters or sets
become one set, and what all alternatives start with is written once. None of
that changes which texts an expression matches.
-/

namespace ZigReflect.Pattern

/-- A condition on the characters around a position that can stand in words. -/
inductive WordAnchor where
  | boundary
  | notBoundary
  | first
  | last
  /-- No word character stands before. -/
  | firstHalf
  /-- No word character stands after. -/
  | lastHalf
deriving DecidableEq, Repr, Inhabited

/-- A condition on a position. -/
inductive Anchor where
  | textStart
  | textEnd
  /-- With `returns`, carriage returns end lines too. -/
  | lineStart (returns : Bool)
  | lineEnd (returns : Bool)
  /-- With `ascii`, only ASCII characters stand in words. -/
  | word (a : WordAnchor) (ascii : Bool)
deriving DecidableEq, Repr, Inhabited

/-- A regular expression. -/
inductive Regex where
  | text (cs : List Char)
  | one (s : CharSet)
  | anchor (a : Anchor)
  /-- At least `min` turns, and at most `max` when it is given. -/
  | turns (min : Nat) (max : Option Nat) (r : Regex)
  /-- A group that is counted. -/
  | group (index : Nat) (r : Regex)
  | seq (rs : List Regex)
  | alt (rs : List Regex)
deriving BEq, Repr, Inhabited

namespace Regex

/-- The expression that matches the empty text. -/
def empty : Regex := .text []

mutual

/-- Whether the expression can match only the empty text. -/
def isVoid : Regex → Bool
  | .text cs => cs.isEmpty
  | .one _ => false
  | .anchor _ => true
  | .turns _ _ r => r.isVoid
  | .group _ r => r.isVoid
  | .seq rs => areVoid rs
  | .alt rs => areVoid rs

/-- Whether all of some expressions can match only the empty text. -/
def areVoid : List Regex → Bool
  | [] => true
  | r :: rs => r.isVoid && areVoid rs

end

/-- The expression of a set. -/
def ofSet (s : CharSet) : Regex :=
  match s.only? with
  | some c => .text [c]
  | none => .one s

/-- The expression with turns. More turns than one of an expression that matches
only the empty text change nothing. -/
def repeated (min : Nat) (max : Option Nat) (r : Regex) : Regex :=
  let (min, max) :=
    if r.isVoid then (Nat.min min 1, some (Nat.min (max.getD 1) 1)) else (min, max)
  if max = some 0 then .empty
  else if min = 1 && max = some 1 then r
  else .turns min max r

/-- The parts of a sequence. -/
def seqParts : Regex → List Regex
  | .seq rs => rs
  | r => [r]

/-- The alternatives of an expression. -/
def altParts : Regex → List Regex
  | .alt rs => rs
  | r => [r]

/-- Joins texts that stand side by side, and leaves out empty ones. -/
def joinTexts : List Regex → List Regex
  | [] => []
  | .text cs :: rest =>
    if cs.isEmpty then joinTexts rest
    else
      match joinTexts rest with
      | .text more :: rest => .text (cs ++ more) :: rest
      | rest => .text cs :: rest
  | r :: rest => r :: joinTexts rest

/-- One expression after another. -/
def sequence (rs : List Regex) : Regex :=
  match joinTexts (rs.flatMap seqParts) with
  | [] => .empty
  | [r] => r
  | rs => .seq rs

/-- The character that an expression stands for. -/
def char? : Regex → Option Char
  | .text [c] => some c
  | _ => none

/-- The set that an expression stands for. -/
def set? : Regex → Option CharSet
  | .one s => some s
  | _ => none

/-- The one set that alternatives stand for: all are characters, or all are
sets. -/
def altSet? (rs : List Regex) : Option CharSet :=
  match rs.mapM char? with
  | some cs => some (.ofChars (cs.map fun c => (c, c)))
  | none => (rs.mapM set?).map fun sets => .ofRanges (sets.flatMap (·.ranges))

/-- How many parts two sequences have in common at their starts. -/
def sharedLength : List Regex → List Regex → Nat
  | a :: as, b :: bs => if a == b then sharedLength as bs + 1 else 0
  | _, _ => 0

/-- The parts of an expression that is a sequence. -/
def sequence? : Regex → Option (List Regex)
  | .seq rs => some rs
  | _ => none

/-- What all of some alternatives start with, and what follows it in each. -/
def sharedStart? (rs : List Regex) : Option (List Regex × List (List Regex)) :=
  match rs.mapM sequence? with
  | some (first :: others) =>
    let n := others.foldl (fun n other => Nat.min n (sharedLength first other)) first.length
    if n = 0 then none else some (first.take n, (first :: others).map (·.drop n))
  | _ => none

/-- One of several expressions; the number bounds how often a common start is
taken out. -/
def alternationUpTo : Nat → List Regex → Regex
  | bound, rs =>
    let rs := rs.flatMap altParts
    match rs with
    | [r] => r
    | rs =>
      match altSet? rs with
      | some s => .ofSet s
      | none =>
        match bound, sharedStart? rs with
        | bound + 1, some (start, ends) =>
          sequence (start ++ [alternationUpTo bound (ends.map sequence)])
        | _, _ => .alt rs

/-- One of several expressions. -/
def alternation (rs : List Regex) : Regex := alternationUpTo 250 rs

end Regex

end ZigReflect.Pattern
