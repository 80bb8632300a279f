import ZigReflect.Keyed
import ZigReflect.Tool.Edit

/-!
# The line editor

Runs a script on lines. Each line goes through the commands; what is left of it
is printed, then what was added to it, and the next line comes.
-/

namespace ZigReflect.Tool

/-- A text that commands work on, and whether its line has an end. -/
structure Space where
  bytes : List UInt8 := []
  ended : Bool := true

/-- What has been printed. A last line without an end gets one before more is
printed. -/
structure Printed where
  bytes : ByteArray := .empty
  isOpen : Bool := false
  /-- What ends a line. -/
  mark : UInt8 := 10

/-- Prints bytes, after the end that the last line lacks. -/
def Printed.add (p : Printed) (bytes : List UInt8) : Printed :=
  let start := if p.isOpen then p.bytes.push p.mark else p.bytes
  { p with bytes := bytes.foldl ByteArray.push start, isOpen := false }

/-- Prints a line. -/
def Printed.line (p : Printed) (s : Space) : Printed :=
  if s.ended then p.add (s.bytes ++ [p.mark]) else { p.add s.bytes with isOpen := true }

/-- How the editor works. -/
structure EditMode where
  /-- Whether a line is printed only when a command says so. -/
  quiet : Bool := false
  inPlace : Bool := false
  /-- What ends a line. -/
  mark : UInt8 := 10
  /-- How long the pieces of a listed line are. -/
  width : Nat := 70
  /-- What a file holds. -/
  file : List UInt8 → List UInt8

/-- What is printed after a line. -/
inductive Added where
  | text (bytes : List UInt8)
  | file (path : List UInt8)

/-- How far a range of lines has come. -/
inductive RangeState where
  | waiting
  /-- Open, up to a line when its number is known. -/
  | running (last : Option Nat)
deriving DecidableEq, Repr, Inhabited

/-- The editor at work. -/
structure Editor where
  /-- The lines to come. -/
  rest : List Space
  number : Nat := 0
  line : Space := {}
  held : Space := {}
  /-- The name of the file that is edited. -/
  name : List UInt8 := [45]
  /-- What is printed after the line. -/
  added : List Added := []
  /-- What has been written to files. -/
  written : List (List UInt8 × Printed) := []
  /-- What is left of the files that are read line by line. -/
  readers : List (List UInt8 × List UInt8) := []
  replaced : Bool := false
  ranges : Array RangeState
  lastPattern : Option LinePattern := none
  printed : Printed := {}

/-- What follows a run through the commands. -/
inductive Afterwards where
  /-- The line is over; it is printed or not. -/
  | over (print : Bool)
  /-- The commands start again without a new line. -/
  | restart
  /-- The editor ends with a code; the line is printed or not. -/
  | quit (code : Nat) (print : Bool)

/-- A run that may lack a pattern to use again. -/
abbrev Edited (α : Type) := Except String α

namespace Editor

/-- The pattern to use, which becomes the last that was used. -/
def usePattern (e : Editor) : Option LinePattern → Edited (LinePattern × Editor)
  | some p => .ok (p, { e with lastPattern := some p })
  | none =>
    match e.lastPattern with
    | some p => .ok (p, e)
    | none => .error "no previous regular expression"

/-- Whether an address picks out the line. -/
def atAddress (e : Editor) : Address → Edited (Bool × Editor)
  | .line n => .ok (n == e.number, e)
  | .last => .ok (e.rest.isEmpty, e)
  | .every first step =>
    .ok (if step = 0 then e.number == first
      else first ≤ e.number && (e.number - first) % step == 0, e)
  | .containing p => do
    let (p, e) ← e.usePattern p
    return (p.isFound e.line.bytes, e)

/-- Sets how far the range of a command has come. -/
def setRange (e : Editor) (i : Nat) (r : RangeState) : Editor :=
  { e with ranges := e.ranges.setIfInBounds i r }

/-- The last line of a range that starts here, when its number is known. -/
def lastOf (number : Nat) : RangeEnd → Option Nat
  | .upTo (.line n) => some n
  | .upTo _ => none
  | .further n => some (number + n)
  | .multiple n => some (if n = 0 then number else (number / n + 1) * n)

/-- Whether the addresses of a command pick out the line. -/
def isPicked (e : Editor) (i : Nat) (c : EditCommand) : Edited (Bool × Editor) :=
  match c.start, c.stop with
  | none, _ => .ok (true, e)
  | some a, none => e.atAddress a
  | some a, some stop =>
    match (e.ranges[i]?).getD .waiting with
    | .waiting => do
      let (found, e) ← e.atAddress a
      if !found then return (false, e)
      match lastOf e.number stop with
      | some n => return (true, if n ≤ e.number then e else e.setRange i (.running (some n)))
      | none => return (true, e.setRange i (.running none))
    | .running (some n) =>
      .ok (e.number ≤ n, if n ≤ e.number then e.setRange i .waiting else e)
    | .running none =>
      match stop with
      | .upTo a => do
        let (found, e) ← e.atAddress a
        return (true, if found then e.setRange i .waiting else e)
      | _ => .ok (true, e)

/-- Prints what was added to the line. -/
def printAdded (m : EditMode) (e : Editor) : Editor :=
  let put (p : Printed) (a : Added) : Printed :=
    match a with
    | .text bytes => p.add bytes
    | .file path =>
      let bytes := m.file path
      if bytes.isEmpty then p else p.add bytes
  { e with printed := e.added.foldl put e.printed, added := [] }

/-- Takes the next line. -/
def advance (m : EditMode) (e : Editor) : Option Editor :=
  match e.rest with
  | [] => none
  | line :: rest =>
    some { e.printAdded m with rest, line, number := e.number + 1, replaced := false }

/-! ## Files -/

/-- Writes a line to a file. -/
def writeTo (m : EditMode) (e : Editor) (path : List UInt8) (line : Space) : Editor :=
  if path = bytesOf "/dev/stdout" && !m.inPlace then { e with printed := e.printed.line line }
  else
    let old := (e.written.lookup path).getD { mark := m.mark }
    { e with written := Keyed.set e.written path (old.line line) }

/-- Takes a line of a file, to be printed after the line that is edited. -/
def readLineOf (m : EditMode) (e : Editor) (path : List UInt8) : Editor :=
  let bytes := (e.readers.lookup path).getD (m.file path)
  let line := bytes.takeWhile (· != m.mark)
  let rest := bytes.drop (line.length + 1)
  let e := { e with readers := Keyed.set e.readers path rest }
  if bytes.isEmpty then e
  else { e with added := e.added ++ [.text (bytes.take (line.length + 1))] }

/-- A byte as it is listed. -/
def listedByte (b : UInt8) : List UInt8 :=
  match b with
  | 92 => [92, 92]
  | 7 => [92, 97]
  | 8 => [92, 98]
  | 9 => [92, 116]
  | 10 => [92, 110]
  | 11 => [92, 118]
  | 12 => [92, 102]
  | 13 => [92, 114]
  | b =>
    if 32 ≤ b && b < 127 then [b] else [92, 48 + b / 64, 48 + b / 8 % 8, 48 + b % 8]

/-- The bytes of a line as they are listed, in pieces of some length; `column`
bytes of the last piece are there. -/
def listed (width : Nat) (column : Nat) : List UInt8 → List UInt8
  | [] => [36, 10]
  | b :: rest =>
    let shown := listedByte b
    if 0 < width && width - 1 < column + shown.length then
      92 :: 10 :: shown ++ listed width shown.length rest
    else shown ++ listed width (column + shown.length) rest

/-! ## Substitution -/

/-- The casing of a replacement: of all, and of the next letter. -/
abbrev Casing := Case × Case

/-- Writes a byte in a case. -/
def cased : Case → UInt8 → UInt8
  | .kept, b => b
  | .upper, b => upperByte b
  | .lower, b => lowerByte b

/-- Writes bytes in a casing. -/
def casedBytes (c : Casing) : List UInt8 → List UInt8 × Casing
  | [] => ([], c)
  | b :: rest =>
    if c.2 = .kept then ((b :: rest).map (cased c.1), c)
    else (cased c.2 b :: rest.map (cased c.1), (c.1, .kept))

/-- What stands in the place of a find. -/
def replacementBytes (text : Array UInt8) (start : Nat) (found : Place) :
    Casing → List Replacement → List UInt8
  | _, [] => []
  | c, .bytes bytes :: rest =>
    let (out, c) := casedBytes c bytes
    out ++ replacementBytes text start found c rest
  | c, .group i :: rest =>
    let taken := if i = 0 then (text.extract start found.pos).toList
      else LinePattern.taken text found.groups i
    let (out, c) := casedBytes c taken
    out ++ replacementBytes text start found c rest
  | _, .casing c :: rest => replacementBytes text start found (c, .kept) rest
  | c, .nextCasing n :: rest => replacementBytes text start found (c.1, n) rest

/-- Replaces finds from a position on; `count` numbers the next one, and a find
of nothing right after the last does not count. The flag says whether something
has been replaced. -/
def replaceFrom (s : Substitution) (p : LinePattern) (text : Array UInt8) :
    Nat → Nat → Nat → Option Nat → List UInt8 × Bool
  | 0, pos, _, _ => ((text.extract pos text.size).toList, false)
  | fuel + 1, pos, count, last =>
    match if text.size < pos then none else p.find? text pos with
    | none => ((text.extract pos text.size).toList, false)
    | some (start, found) =>
      let before := (text.extract pos start).toList
      let itself := (text.extract start found.pos).toList
      let isEmpty := found.pos = start
      let skipped := isEmpty && last == some start
      let isDue := !skipped && s.first ≤ count
      let put := if isDue then replacementBytes text start found (.kept, .kept) s.replacement
        else itself
      if isDue && !s.all then
        (before ++ put ++ (text.extract found.pos text.size).toList, true)
      else
        let (step, next) :=
          if isEmpty then ((text.extract start (start + 1)).toList, start + 1)
          else ([], found.pos)
        let (more, replaced) :=
          replaceFrom s p text fuel next (if skipped then count else count + 1) (some found.pos)
        (before ++ put ++ step ++ more, isDue || replaced)

/-- Substitutes in the line. -/
def substitute (m : EditMode) (e : Editor) (s : Substitution) : Edited Editor := do
  let (p, e) ← e.usePattern s.pattern
  let text := e.line.bytes.toArray
  let (bytes, replaced) := replaceFrom s p text (text.size + 2) 0 1 none
  if !replaced then return e
  let e := { e with line := { e.line with bytes }, replaced := true }
  let e := if s.print then { e with printed := e.printed.line e.line } else e
  return match s.target with
    | some path => e.writeTo m path e.line
    | none => e

/-! ## Commands -/

/-- The place of a label in a script. -/
def labelAt? (script : Array EditCommand) (name : List UInt8) : Option Nat :=
  script.findIdx? fun c => match c.edit with
    | .label other => other == name
    | _ => false

/-- Where a jump leads; without a label, to the end. -/
def jumpTarget (script : Array EditCommand) (name : List UInt8) : Nat :=
  if name.isEmpty then script.size else (labelAt? script name).getD script.size

/-- Runs the commands from a place on; the fuel is spent by one for each. -/
def run (script : Array EditCommand) (m : EditMode) :
    Nat → Nat → Editor → Edited (Afterwards × Editor)
  | 0, _, e => .ok (.over true, e)
  | fuel + 1, i, e =>
    match script[i]? with
    | none => .ok (.over true, e)
    | some c => do
      let (picked, e) ← e.isPicked i c
      let go (e : Editor) := run script m fuel (i + 1) e
      if picked == c.negated then
        match c.edit with
        | .block stop => run script m fuel (stop + 1) e
        | _ => go e
      else
        match c.edit with
        | .block _ => go e
        | .blockEnd => go e
        | .label _ => go e
        | .substitute s => do go (← e.substitute m s)
        | .mapBytes pairs =>
          go { e with line.bytes := e.line.bytes.map fun b => (pairs.lookup b).getD b }
        | .append text => go { e with added := e.added ++ [.text text] }
        | .insert text => go { e with printed := e.printed.add text }
        | .change text =>
          let isInside := match e.ranges[i]? with
            | some (.running _) => true
            | _ => false
          .ok (.over false, if isInside && !c.negated then e
            else { e with printed := e.printed.add text })
        | .delete => .ok (.over false, e)
        | .deleteFirst =>
          match e.line.bytes.dropWhile (· != m.mark) with
          | [] => .ok (.over false, e)
          | _ :: rest => .ok (.restart, { e with line.bytes := rest })
        | .print => go { e with printed := e.printed.line e.line }
        | .printFirst =>
          go { e with printed := e.printed.line ⟨e.line.bytes.takeWhile (· != m.mark), true⟩ }
        | .next =>
          let e' := if m.quiet then e else { e with printed := e.printed.line e.line }
          match e'.advance m with
          | some next => go next
          | none => .ok (.quit 0 true, e)
        | .appendNext =>
          match e.advance m with
          | some next =>
            go { next with line.bytes := e.line.bytes ++ m.mark :: next.line.bytes }
          | none => .ok (.quit 0 true, e)
        | .quit code => .ok (.quit code true, e)
        | .quitQuietly code => .ok (.quit code false, e)
        | .number => go { e with printed := e.printed.add (bytesOf (toString e.number ++ "\n")) }
        | .hold => go { e with held := e.line }
        | .appendHold => go { e with held.bytes := e.held.bytes ++ m.mark :: e.line.bytes }
        | .recall => go { e with line := e.held }
        | .appendRecall => go { e with line.bytes := e.line.bytes ++ m.mark :: e.held.bytes }
        | .exchange => go { e with line := e.held, held := e.line }
        | .clear => go { e with line.bytes := [] }
        | .list width =>
          go { e with printed := e.printed.add (listed (width.getD m.width) 0 e.line.bytes) }
        | .fileName => go { e with printed := e.printed.line ⟨e.name, true⟩ }
        | .readFile path => go { e with added := e.added ++ [.file path] }
        | .readLine path => go (e.readLineOf m path)
        | .writeFile path => go (e.writeTo m path e.line)
        | .writeFirst path =>
          go (e.writeTo m path ⟨e.line.bytes.takeWhile (· != m.mark), true⟩)
        | .version => go e
        | .jump name => run script m fuel (jumpTarget script name) e
        | .jumpIfReplaced name =>
          if e.replaced then
            run script m fuel (jumpTarget script name) { e with replaced := false }
          else go e
        | .jumpUnlessReplaced name =>
          if e.replaced then go { e with replaced := false }
          else run script m fuel (jumpTarget script name) e

/-- Prints the line, if it is to be printed, and what was added to it. -/
def finish (m : EditMode) (print : Bool) (e : Editor) : Editor :=
  (if print && !m.quiet then { e with printed := e.printed.line e.line } else e).printAdded m

/-- How many commands one line can go through. -/
def maxSteps : Nat := 100000

/-- Runs the script on all lines, the flag says whether a new line is taken
first; gives the code that the script ends with, when it ends by itself. -/
def runAll (script : Array EditCommand) (m : EditMode) :
    Nat → Bool → Editor → Edited (Option Nat × Editor)
  | 0, _, e => .ok (none, e)
  | fuel + 1, fresh, e =>
    match if fresh then e.advance m else some e with
    | none => .ok (none, e.printAdded m)
    | some e => do
      match ← run script m maxSteps 0 e with
      | (.over print, e) => runAll script m fuel true (e.finish m print)
      | (.restart, e) => runAll script m fuel false (e.printAdded m)
      | (.quit code print, e) => return (code, e.finish m print)

/-- The files that a script writes to. -/
def targets (script : Array EditCommand) : List (List UInt8) :=
  (script.toList.filterMap fun c => match c.edit with
    | .writeFile path => some path
    | .writeFirst path => some path
    | .substitute s => s.target
    | _ => none).eraseDups

/-- The editor before the first line. -/
def start (script : Array EditCommand) (m : EditMode) : Editor where
  rest := []
  ranges := script.map fun c => if c.fromZero then .running none else .waiting
  printed := { mark := m.mark }
  written := (targets script).map fun path => (path, { mark := m.mark })

end Editor

/-- The lines of a text, of which each but the last ends in a mark. -/
def splitLines (mark : UInt8) : List UInt8 → List Space
  | [] => []
  | b :: rest =>
    if b == mark then {} :: splitLines mark rest
    else
      match splitLines mark rest with
      | [] => [⟨[b], false⟩]
      | line :: lines => { line with bytes := b :: line.bytes } :: lines

/-- Edits a text: the code that the script ends with, when it ends by itself, and
the editor after it. -/
def editText (script : Array EditCommand) (m : EditMode) (e : Editor) (name text : List UInt8) :
    Edited (Option Nat × Editor) :=
  Editor.runAll script m (2 * text.length + 2) true
    { e with
      rest := splitLines m.mark text
      number := 0
      name
      printed := { mark := m.mark } }

end ZigReflect.Tool
