import ZigReflect.Text.Blank

/-!
# The text of patterns

How the characters of a pattern are read under flags. In a spaced pattern,
blanks and comments may stand between most characters and mean nothing.
-/

namespace ZigReflect.Pattern

open ZigReflect.Text

/-- The flags of a group. -/
structure Flags where
  /-- Case makes no difference. -/
  ignoreCase : Bool := false
  /-- The text anchors hold at lines too. -/
  multiLine : Bool := false
  /-- A point stands for the ends of lines too. -/
  dotAll : Bool := false
  /-- Carriage returns end lines too. -/
  returns : Bool := false
  /-- Only ASCII characters are digits, blanks or in words, and have case. -/
  ascii : Bool := false
  /-- Blanks and comments in the pattern mean nothing. -/
  spaced : Bool := false
deriving DecidableEq, Repr, Inhabited

/-- Drops blanks and comments; a comment goes from a number sign to the end of
its line. -/
def dropGap (comment : Bool) : List Char → List Char
  | [] => []
  | c :: cs =>
    if comment then dropGap (c != '\n') cs
    else if isBlank c then dropGap false cs
    else if c == '#' then dropGap true cs
    else c :: cs

/-- What follows blanks and comments, where they mean nothing. -/
def Flags.gap (f : Flags) (cs : List Char) : List Char :=
  if f.spaced then dropGap false cs else cs

/-- The character that comes next, to decide whether a hyphen makes a range. In a
spaced pattern it is the next one that is not blank, be it in a comment. -/
def Flags.peek (f : Flags) (cs : List Char) : Option Char :=
  if f.spaced then
    let next := match cs.dropWhile isBlank with
      | '#' :: rest => rest.dropWhile isBlank
      | rest => rest
    next.head? <|> cs.head?
  else cs.head?

/-- Reads characters up to one that ends them, and passes over gaps. -/
def Flags.takeUntil (f : Flags) (stop : Char → Bool) (comment : Bool) :
    List Char → Option (List Char × List Char)
  | [] => none
  | c :: cs =>
    if comment then f.takeUntil stop (c != '\n') cs
    else if f.spaced && isBlank c then f.takeUntil stop false cs
    else if f.spaced && c == '#' then f.takeUntil stop true cs
    else if stop c then some ([], c :: cs)
    else (f.takeUntil stop false cs).map fun (taken, rest) => (c :: taken, rest)

/-- Reads a number of characters, and passes over gaps. -/
def Flags.takeSome (f : Flags) (comment : Bool) :
    Nat → List Char → Option (List Char × List Char)
  | 0, cs => some ([], cs)
  | _ + 1, [] => none
  | n + 1, c :: cs =>
    if comment then f.takeSome (c != '\n') (n + 1) cs
    else if f.spaced && isBlank c then f.takeSome false (n + 1) cs
    else if f.spaced && c == '#' then f.takeSome true (n + 1) cs
    else (f.takeSome false n cs).map fun (taken, rest) => (c :: taken, rest)

end ZigReflect.Pattern
