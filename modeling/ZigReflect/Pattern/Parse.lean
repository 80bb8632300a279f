import ZigReflect.Pattern.Automaton
import ZigReflect.Pattern.Bracket
import ZigReflect.Text.Letter

/-!
# Reading patterns

A pattern is read from left to right onto a stack of open groups. Flags hold
from where they are set to the end of their group. A pattern is refused when its
parts are nested too deep, or when its automaton is too large.
-/

namespace ZigReflect.Pattern

open ZigReflect.Text

/-- A part of a branch: what it stands for, and how deep it is nested. Flags are
parts that stand for nothing and cannot be repeated. -/
structure Part where
  regex : Option Regex
  depth : Nat := 0

/-- A group that is still open. -/
structure Group where
  /-- The flags around the group. -/
  outer : Flags
  /-- The number of the group, when it is counted. -/
  index : Option Nat := none
  /-- The branches before the last bar, newest first. -/
  branches : List (Regex × Nat) := []
  /-- The parts of the branch, newest first. -/
  parts : List Part := []

/-- A pattern while it is read. -/
structure Reader where
  flags : Flags := {}
  /-- The innermost group. -/
  group : Group := { outer := {} }
  /-- The groups around it. -/
  around : List Group := []
  names : List String := []
  /-- How many groups have been counted. -/
  counted : Nat := 0

/-- How deep a list of things is nested: two or more of them are nested in the
list. -/
def listDepth (depths : List Nat) : Nat :=
  match depths with
  | [] => 0
  | [d] => d
  | ds => ds.foldl Nat.max 0 + 1

/-- The branch read so far, and how deep it is nested. -/
def Group.branch (g : Group) : Regex × Nat :=
  (.sequence (g.parts.reverse.filterMap (·.regex)), listDepth (g.parts.map (·.depth)))

/-- The whole of a group, and how deep it is nested. -/
def Group.value (g : Group) : Regex × Nat :=
  let branches := (g.branch :: g.branches).reverse
  (.alternation (branches.map (·.1)), listDepth (branches.map (·.2)))

namespace Reader

/-- Adds a part to the branch. -/
def addPart (r : Reader) (p : Part) : Reader :=
  { r with group.parts := p :: r.group.parts }

/-- Adds an expression to the branch. -/
def add (r : Reader) (x : Regex) : Reader := r.addPart { regex := some x }

/-- Adds a character under the flags. -/
def addChar (r : Reader) (c : Char) : Reader := r.add (.ofSet (r.flags.fold (.single c)))

/-- Opens a group. -/
def openGroup (r : Reader) (index : Option Nat) (flags : Flags) : Reader :=
  { r with flags, group := { outer := r.flags, index }, around := r.group :: r.around }

/-- Opens a group that is counted. -/
def openCounted (r : Reader) : Reader :=
  { r with counted := r.counted + 1 }.openGroup (some (r.counted + 1)) r.flags

/-- Closes the innermost group. -/
def closeGroup (r : Reader) : Option Reader :=
  match r.around with
  | [] => none
  | next :: around =>
    let (inner, depth) := r.group.value
    let value := match r.group.index with
      | some i => .group i inner
      | none => inner
    some ({ r with flags := r.group.outer, group := next, around }.addPart
      { regex := some value, depth := depth + 1 })

/-- Ends a branch. -/
def bar (r : Reader) : Reader :=
  { r with group := { r.group with branches := r.group.branch :: r.group.branches, parts := [] } }

/-- Repeats the last part. -/
def repeatLast (r : Reader) (min : Nat) (max : Option Nat) : Option Reader :=
  match r.group.parts with
  | ⟨some x, depth⟩ :: rest =>
    some { r with group.parts := ⟨some (.repeated min max x), depth + 1⟩ :: rest }
  | _ => none

end Reader

/-- Sets or clears one flag. Whether repetitions prefer more or fewer turns can
be said and makes no difference. -/
def setFlag (f : Flags) (on : Bool) : Char → Option Flags
  | 'i' => some { f with ignoreCase := on }
  | 'm' => some { f with multiLine := on }
  | 's' => some { f with dotAll := on }
  | 'x' => some { f with spaced := on }
  | 'R' => some { f with returns := on }
  | 'u' => some { f with ascii := !on }
  | 'U' => some f
  | _ => none

/-- Reads flags up to a colon or closing parenthesis, which is given back. A
flag stands once, and something follows a hyphen. -/
def readFlags (flags : Flags) (on : Bool) (seen : List Char) :
    List Char → Option (Flags × List Char × Char × List Char)
  | [] => none
  | '-' :: rest =>
    match on, rest with
    | false, _ => none
    | true, ':' :: _ => none
    | true, ')' :: _ => none
    | true, rest => readFlags flags false seen rest
  | c :: rest =>
    if c = ':' || c = ')' then some (flags, seen, c, rest)
    else if seen.contains c then none
    else match setFlag flags on c with
      | some flags => readFlags flags on (c :: seen) rest
      | none => none

/-- Whether the characters can name a group. -/
def isGroupName : List Char → Bool
  | [] => false
  | c :: rest =>
    (c == '_' || isAnyLetter c) &&
      rest.all fun c =>
        isAnyLetter c || isNumeral c || c == '_' || c == '.' || c == '[' || c == ']'

/-- Opens a named group. -/
def openNamed (r : Reader) (cs : List Char) : Option (Reader × List Char) :=
  let name := cs.takeWhile (· != '>')
  let text := String.ofList name
  match cs.dropWhile (· != '>') with
  | _ :: rest =>
    if isGroupName name && !r.names.contains text then
      some ({ r with names := text :: r.names }.openCounted, rest)
    else none
  | [] => none

/-- Reads what follows an opening parenthesis. Groups that look around are not
patterns. -/
def readOpen (r : Reader) (cs : List Char) : Option (Reader × List Char) :=
  match r.flags.gap cs with
  | '?' :: '=' :: _ => none
  | '?' :: '!' :: _ => none
  | '?' :: '<' :: '=' :: _ => none
  | '?' :: '<' :: '!' :: _ => none
  | '?' :: 'P' :: '<' :: rest => openNamed r rest
  | '?' :: '<' :: rest => openNamed r rest
  | '?' :: rest =>
    match readFlags r.flags true [] rest with
    | some (flags, _, ':', rest) => some (r.openGroup none flags, rest)
    | some (_, [], _, _) => none
    | some (flags, _, _, rest) => some ({ r with flags }.addPart { regex := none }, rest)
    | none => none
  | rest => some (r.openCounted, rest)

/-- A number in a repetition, with blanks around it. -/
def readCount (f : Flags) (cs : List Char) : Option (Nat × List Char) :=
  (f.takeUntil (fun c => !isDigit c) false ((f.gap cs).dropWhile isBlank)).bind
    fun (ds, rest) =>
      let n := digitsValue ds
      if ds.isEmpty || Nat.pow 2 32 ≤ n then none else some (n, rest.dropWhile isBlank)

/-- The bounds of a repetition after its opening brace. -/
def readBounds (f : Flags) (cs : List Char) : Option (Nat × Option Nat × List Char) :=
  match readCount f cs with
  | some (n, '\x7d' :: rest) => some (n, some n, rest)
  | some (n, ',' :: rest) =>
    match f.gap rest with
    | '\x7d' :: rest => some (n, none, rest)
    | rest =>
      match readCount f rest with
      | some (m, '\x7d' :: rest) => if n ≤ m then some (n, some m, rest) else none
      | _ => none
  | _ => none

/-- Drops the mark of a repetition that prefers fewer turns. -/
def dropLazy : List Char → List Char
  | '?' :: rest => rest
  | rest => rest

/-- Adds what an escape stands for. -/
def addEscape (r : Reader) : Escape → Option Reader
  | .char c asByte => if r.flags.allows c asByte then some (r.addChar c) else none
  | .set s => some (r.add (.ofSet s))
  | .anchor a => some (r.add (.anchor a))

/-- What a point stands for under flags. -/
def pointSet? (f : Flags) : Option CharSet :=
  f.negate? true
    (if f.dotAll then .none
    else if f.returns then .ofChars [('\n', '\n'), ('\r', '\r')]
    else .single '\n')

/-- Reads one part of a pattern. -/
def readPart (r : Reader) : List Char → Option (Reader × List Char)
  | [] => none
  | '(' :: rest => readOpen r rest
  | ')' :: rest => r.closeGroup.map (·, rest)
  | '|' :: rest => some (r.bar, rest)
  | '*' :: rest => (r.repeatLast 0 none).map (·, dropLazy rest)
  | '+' :: rest => (r.repeatLast 1 none).map (·, dropLazy rest)
  | '?' :: rest => (r.repeatLast 0 (some 1)).map (·, dropLazy rest)
  | '\x7b' :: rest =>
    match readBounds r.flags rest with
    | some (min, max, rest) => (r.repeatLast min max).map (·, dropLazy (r.flags.gap rest))
    | none => none
  | '[' :: rest =>
    (bracketed? r.flags rest).map fun (s, rest) =>
      (r.addPart { regex := some (.ofSet s.set), depth := s.depth }, rest)
  | '\\' :: rest =>
    (escape? r.flags rest).bind fun (e, rest) => (addEscape r e).map (·, rest)
  | '^' :: rest =>
    some (r.add (.anchor
      (if r.flags.multiLine then .lineStart r.flags.returns else .textStart)), rest)
  | '$' :: rest =>
    some (r.add (.anchor
      (if r.flags.multiLine then .lineEnd r.flags.returns else .textEnd)), rest)
  | '.' :: rest => (pointSet? r.flags).map fun s => (r.add (.ofSet s), rest)
  | c :: rest => some (r.addChar c, rest)

/-- Reads a pattern to its end; the fuel is spent by one for each part. -/
def readAll : Nat → Reader → List Char → Option (Regex × Nat)
  | 0, _, _ => none
  | fuel + 1, r, cs =>
    match r.flags.gap cs with
    | [] => if r.around.isEmpty then some r.group.value else none
    | cs =>
      match readPart r cs with
      | some (r, rest) => readAll fuel r rest
      | none => none

/-- How deep the parts of a pattern can be nested. -/
def maxDepth : Nat := 250

/-- The expression that a pattern stands for, unless the pattern is not well
formed, nested too deep, or too large. -/
def parse? (pattern : String) : Option Regex := do
  let cs := pattern.toList
  let (r, depth) ← readAll (cs.length + 1) {} cs
  if depth ≤ maxDepth && r.isSmall then some r else none

end ZigReflect.Pattern
