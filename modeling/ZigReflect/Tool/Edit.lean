import ZigReflect.Tool.LinePattern

/-!
# Scripts of the line editor

A script is a list of commands, each for the lines that its addresses pick out.
Blocks are kept in the list: a block that is passed over says where it ends.
-/

namespace ZigReflect.Tool

/-- Which lines an address picks out. -/
inductive Address where
  | line (number : Nat)
  | last
  /-- From a line on, every so many lines. -/
  | every (first step : Nat)
  /-- The lines in which a pattern is found; without one, the last that was
  used. -/
  | containing (pattern : Option LinePattern)

instance : Inhabited Address := ⟨.last⟩

/-- Where a range of lines ends. -/
inductive RangeEnd where
  | upTo (a : Address)
  /-- So many lines after its start. -/
  | further (count : Nat)
  /-- At the next multiple of a number. -/
  | multiple (of_ : Nat)

/-- How the letters of a replacement are written. -/
inductive Case where
  | kept
  | upper
  | lower
deriving DecidableEq, Repr, Inhabited

/-- A piece of a replacement. -/
inductive Replacement where
  | bytes (text : List UInt8)
  /-- What a group has taken; the group 0 is the whole. -/
  | group (index : Nat)
  /-- How all that follows is written. -/
  | casing (c : Case)
  /-- How the next letter is written. -/
  | nextCasing (c : Case)

/-- A substitution. -/
structure Substitution where
  /-- Without one, the last pattern that was used. -/
  pattern : Option LinePattern
  replacement : List Replacement
  all : Bool := false
  print : Bool := false
  /-- The first find that is replaced. -/
  first : Nat := 1
  /-- The file that the line is written to. -/
  target : Option (List UInt8) := none

/-- What a command does. -/
inductive Edit where
  /-- Starts a block, which ends at a command of that number. -/
  | block (stop : Nat)
  | blockEnd
  | substitute (s : Substitution)
  | mapBytes (pairs : List (UInt8 × UInt8))
  | append (text : List UInt8)
  | insert (text : List UInt8)
  | change (text : List UInt8)
  | delete
  | deleteFirst
  | print
  | printFirst
  | next
  | appendNext
  | quit (code : Nat)
  | quitQuietly (code : Nat)
  | number
  | hold
  | appendHold
  | recall
  | appendRecall
  | exchange
  | clear
  /-- Prints the line with all of its bytes visible, in pieces of some length. -/
  | list (width : Option Nat)
  | fileName
  | readFile (path : List UInt8)
  | readLine (path : List UInt8)
  | writeFile (path : List UInt8)
  | writeFirst (path : List UInt8)
  /-- Asks for a version of the editor, and does nothing. -/
  | version
  | label (name : List UInt8)
  | jump (name : List UInt8)
  | jumpIfReplaced (name : List UInt8)
  | jumpUnlessReplaced (name : List UInt8)

instance : Inhabited Edit := ⟨.blockEnd⟩

/-- A command with its addresses. -/
structure EditCommand where
  start : Option Address := none
  stop : Option RangeEnd := none
  /-- Whether it is for the lines that are not picked out. -/
  negated : Bool := false
  /-- Whether its range is open before the first line. -/
  fromZero : Bool := false
  edit : Edit

instance : Inhabited EditCommand := ⟨{ edit := .blockEnd }⟩

/-! ## Reading scripts -/

/-- What is wrong with a script, and how much of it is left there. -/
structure EditFault where
  left : Nat
  text : String

/-- A fault where some bytes are left. -/
def faultAt {α : Type} (rest : List UInt8) (text : String) : Except EditFault α :=
  .error ⟨rest.length, text⟩

/-- Drops blanks within a line. -/
def dropBlankBytes (bytes : List UInt8) : List UInt8 :=
  bytes.dropWhile fun b => isSpaceByte b && b != 10

/-- How far a bracket in a pattern has been read. -/
inductive InBracket where
  | no
  /-- A closing bracket would stand for itself. -/
  | first
  | inside
deriving DecidableEq, Repr, Inhabited

/-- The bytes up to a delimiter. In a pattern, a delimiter in brackets does not
count, and an escaped line feed is one; elsewhere, an escaped delimiter loses its
backslash. Without a delimiter in its line, what is left where the line ends. -/
def untilDelimiter (delimiter : UInt8) (isPattern : Bool) :
    InBracket → List UInt8 → List UInt8 → Except (List UInt8) (List UInt8 × List UInt8)
  | _, _, [] => .error []
  | .no, seen, 92 :: c :: rest =>
    if c == 110 && isPattern then untilDelimiter delimiter isPattern .no (10 :: seen) rest
    else if c == 10 || (c == delimiter && !(!isPattern && c == 38)) then
      untilDelimiter delimiter isPattern .no
        (if c == 10 && !isPattern then 10 :: 92 :: seen else c :: seen) rest
    else untilDelimiter delimiter isPattern .no (c :: 92 :: seen) rest
  | state, seen, b :: rest =>
    let again (state : InBracket) := untilDelimiter delimiter isPattern state (b :: seen) rest
    match state with
    | .no =>
      if b == delimiter then .ok (seen.reverse, rest)
      else if b == 10 then .error (b :: rest)
      else if b == 91 && isPattern then again .first
      else again .no
    | .first => again (if b == 94 && seen.head? == some 91 then .first else .inside)
    | .inside => again (if b == 93 then .no else .inside)

/-- The replacement after a backslash. -/
def escapedReplacement : List UInt8 → Replacement × List UInt8
  | [] => (.bytes [92], [])
  | c :: rest =>
    if isDigitByte c then (.group (c.toNat - 48), rest)
    else match c with
      | 85 => (.casing .upper, rest)
      | 76 => (.casing .lower, rest)
      | 69 => (.casing .kept, rest)
      | 117 => (.nextCasing .upper, rest)
      | 108 => (.nextCasing .lower, rest)
      | c =>
        match escapedByte? c, spelledByte? (c :: rest) with
        | some b, _ => (.bytes [b], rest)
        | none, some (b, rest) => (.bytes [b], rest)
        | none, none => (.bytes [c], rest)

/-- Reads a replacement; the number bounds its pieces. -/
def readReplacement : Nat → List UInt8 → List Replacement
  | 0, _ => []
  | _, [] => []
  | fuel + 1, 92 :: rest =>
    let (piece, rest) := escapedReplacement rest
    piece :: readReplacement fuel rest
  | fuel + 1, 38 :: rest => .group 0 :: readReplacement fuel rest
  | fuel + 1, b :: rest => .bytes [b] :: readReplacement fuel rest

/-- The greatest group that a replacement names. -/
def greatestGroup (rs : List Replacement) : Nat :=
  rs.foldl (fun n r => match r with
    | .group i => Nat.max n i
    | _ => n) 0

/-- The flags of a substitution. -/
structure SubstituteFlags where
  all : Bool := false
  print : Bool := false
  first : Option Nat := none
  ignoreCase : Bool := false
  multiLine : Bool := false
  target : Option (List UInt8) := none

/-- Reads the name of a file, up to the end of the line. -/
def readFileName (bytes : List UInt8) : Except EditFault (List UInt8 × List UInt8) :=
  let text := dropBlankBytes bytes
  let name := text.takeWhile (· != 10)
  if name.isEmpty then faultAt text "missing filename in r/R/w/W commands"
  else .ok (name, text.dropWhile (· != 10))

/-- Reads the flags of a substitution, up to the end of the command. A closing
brace is left. -/
def readSubstituteFlags : Nat → SubstituteFlags → List UInt8 →
    Except EditFault (SubstituteFlags × List UInt8)
  | 0, _, bytes => faultAt bytes "unknown option to \x60s'"
  | _, f, [] => .ok (f, [])
  | fuel + 1, f, b :: rest =>
    match b with
    | 103 =>
      if f.all then faultAt rest "multiple \x60g' options to \x60s' command"
      else readSubstituteFlags fuel { f with all := true } rest
    | 112 =>
      if f.print then faultAt rest "multiple \x60p' options to \x60s' command"
      else readSubstituteFlags fuel { f with print := true } rest
    | 105 => readSubstituteFlags fuel { f with ignoreCase := true } rest
    | 73 => readSubstituteFlags fuel { f with ignoreCase := true } rest
    | 109 => readSubstituteFlags fuel { f with multiLine := true } rest
    | 77 => readSubstituteFlags fuel { f with multiLine := true } rest
    | 119 => do
      let (name, rest) ← readFileName rest
      return ({ f with target := some name }, rest)
    | 59 => .ok (f, rest)
    | 10 => .ok (f, rest)
    | 125 => .ok (f, b :: rest)
    | 35 => .ok (f, b :: rest)
    | b =>
      if isDigitByte b then
        let digits := (b :: rest).takeWhile isDigitByte
        let rest := (b :: rest).dropWhile isDigitByte
        if f.first.isSome then faultAt rest "multiple number options to \x60s' command"
        else if numberOf digits = 0 then
          faultAt rest "number option to \x60s' command may not be zero"
        else readSubstituteFlags fuel { f with first := some (numberOf digits) } rest
      else if isSpaceByte b then readSubstituteFlags fuel f rest
      else faultAt rest "unknown option to \x60s'"

/-- Reads a pattern; an empty one stands for the last that was used. -/
def readLinePattern (extended ignoreCase multiLine : Bool) (pattern rest : List UInt8) :
    Except EditFault (Option LinePattern) :=
  if pattern.isEmpty then .ok none
  else
    match LinePattern.read extended ignoreCase multiLine pattern with
    | .ok p => .ok (some p)
    | .error text => faultAt rest text

/-- What comes of two texts behind one another, each up to the same delimiter. -/
def betweenDelimiters {α : Type} (command : String) (isPattern : Bool) (bytes : List UInt8)
    (f : List UInt8 → List UInt8 → List UInt8 → Except EditFault α) :
    Except EditFault α :=
  let unterminated (rest : List UInt8) : Except EditFault α :=
    faultAt rest ("unterminated \x60" ++ command ++ "' command")
  match bytes with
  | [] => unterminated []
  | delimiter :: rest =>
    match untilDelimiter delimiter isPattern .no [] rest with
    | .error rest => unterminated rest
    | .ok (first, rest) =>
      match untilDelimiter delimiter false .no [] rest with
      | .error rest => unterminated rest
      | .ok (second, rest) => f first second rest

/-- Reads a substitution after its letter. -/
def readSubstitution (extended : Bool) (bytes : List UInt8) :
    Except EditFault (Edit × List UInt8) :=
  betweenDelimiters "s" true bytes fun pattern text rest => do
    let (f, rest) ← readSubstituteFlags (rest.length + 1) {} rest
    let p ← readLinePattern extended f.ignoreCase f.multiLine pattern rest
    let replacement := readReplacement (text.length + 1) text
    let greatest := greatestGroup replacement
    if p.any (·.groups < greatest) then
      faultAt rest ("invalid reference \\" ++ toString greatest ++ " on \x60s' command's RHS")
    else
      .ok (.substitute ⟨p, replacement, f.all, f.print, f.first.getD 1, f.target⟩, rest)

/-- The bytes of one side of a mapping; the number bounds them. A backslash
that escapes nothing is dropped. -/
def mappingBytes : Nat → List UInt8 → List UInt8
  | 0, _ => []
  | _, [] => []
  | fuel + 1, 92 :: c :: rest =>
    match escapedByte? c, spelledByte? (c :: rest) with
    | some b, _ => b :: mappingBytes fuel rest
    | none, some (b, rest) => b :: mappingBytes fuel rest
    | none, none => c :: mappingBytes fuel rest
  | fuel + 1, b :: rest => b :: mappingBytes fuel rest

/-- What may follow a command: the end of its line, a closing brace or a
comment. -/
def commandEnd (bytes : List UInt8) : Except EditFault (List UInt8) :=
  match dropBlankBytes bytes with
  | [] => .ok []
  | 59 :: rest => .ok rest
  | 10 :: rest => .ok rest
  | 125 :: rest => .ok (125 :: rest)
  | 35 :: rest => .ok (35 :: rest)
  | _ :: rest => faultAt rest "extra characters after command"

/-- Reads a mapping after its letter. -/
def readMapping (bytes : List UInt8) : Except EditFault (Edit × List UInt8) :=
  betweenDelimiters "y" false bytes fun source target rest =>
    let source := mappingBytes (source.length + 1) source
    let target := mappingBytes (target.length + 1) target
    if source.length = target.length then
      (commandEnd rest).map fun rest => (.mapBytes (source.zip target), rest)
    else faultAt rest "strings for \x60y' command are different lengths"

/-- The lines of added text, and what follows them. A backslash keeps the end of
a line in the text. -/
def addedText : Nat → List UInt8 → List UInt8 × List UInt8
  | 0, rest => ([10], rest)
  | _, [] => ([10], [])
  | fuel + 1, 92 :: c :: rest =>
    let (b, rest) := match escapedByte? c, spelledByte? (c :: rest) with
      | some b, _ => (b, rest)
      | none, some (b, rest) => (b, rest)
      | none, none => (c, rest)
    let (text, rest) := addedText fuel rest
    (b :: text, rest)
  | fuel + 1, b :: rest =>
    if b == 10 then ([10], rest)
    else if b == 92 then addedText fuel rest
    else
      let (text, rest) := addedText fuel rest
      (b :: text, rest)

/-- Reads added text after its letter. -/
def readAdded (bytes : List UInt8) : Except EditFault (List UInt8 × List UInt8) :=
  match dropBlankBytes bytes with
  | [] => faultAt [] "expected \\ after \x60a', \x60c' or \x60i'"
  | 92 :: rest =>
    match dropBlankBytes rest with
    | 10 :: text => .ok (addedText (text.length + 1) text)
    | [] => .ok ([], [])
    | _ => .ok (addedText (rest.length + 1) rest)
  | text => .ok (addedText (text.length + 1) text)

/-- Reads a label. -/
def readLabel (bytes : List UInt8) : List UInt8 × List UInt8 :=
  let isEnd (b : UInt8) : Bool := isSpaceByte b || b == 59
  let text := dropBlankBytes bytes
  (text.takeWhile fun b => !isEnd b, text.dropWhile fun b => !isEnd b)

/-- Reads the code of a command that quits. -/
def readCode (make : Nat → Edit) (bytes : List UInt8) : Except EditFault (Edit × List UInt8) :=
  let text := dropBlankBytes bytes
  (commandEnd (text.dropWhile isDigitByte)).map fun rest =>
    (make (numberOf (text.takeWhile isDigitByte)), rest)

/-- Reads the flags of a pattern that is an address. -/
def readAddressFlags (ignoreCase multiLine : Bool) :
    List UInt8 → (Bool × Bool) × List UInt8
  | 73 :: rest => readAddressFlags true multiLine rest
  | 77 :: rest => readAddressFlags ignoreCase true rest
  | rest => ((ignoreCase, multiLine), rest)

/-- Reads an address, when there is one. -/
def readAddress (extended : Bool) (bytes : List UInt8) :
    Except EditFault (Option Address × List UInt8) :=
  let pattern (delimiter : UInt8) (rest : List UInt8) :
      Except EditFault (Option Address × List UInt8) :=
    match untilDelimiter delimiter true .no [] rest with
    | .error rest => faultAt rest "unterminated address regex"
    | .ok (text, rest) => do
      let ((ignoreCase, multiLine), rest) := readAddressFlags false false rest
      let p ← readLinePattern extended ignoreCase multiLine text rest
      return (some (.containing p), rest)
  match bytes with
  | 36 :: rest => .ok (some .last, rest)
  | 47 :: rest => pattern 47 rest
  | 92 :: delimiter :: rest => pattern delimiter rest
  | [92] => faultAt [] "unterminated address regex"
  | bytes =>
    let digits := bytes.takeWhile isDigitByte
    let rest := bytes.dropWhile isDigitByte
    if digits.isEmpty then .ok (none, bytes)
    else
      match dropBlankBytes rest with
      | 126 :: more =>
        let step := dropBlankBytes more
        .ok (some (.every (numberOf digits) (numberOf (step.takeWhile isDigitByte))),
          step.dropWhile isDigitByte)
      | _ => .ok (some (.line (numberOf digits)), rest)

/-- Reads the end of a range after its comma. -/
def readRangeEnd (extended : Bool) (bytes : List UInt8) :
    Except EditFault (RangeEnd × List UInt8) :=
  match bytes with
  | 43 :: rest =>
    .ok (.further (numberOf (rest.takeWhile isDigitByte)), rest.dropWhile isDigitByte)
  | 126 :: rest =>
    .ok (.multiple (numberOf (rest.takeWhile isDigitByte)), rest.dropWhile isDigitByte)
  | bytes => do
    match ← readAddress extended bytes with
    | (some a, rest) => return (.upTo a, rest)
    | (none, rest) => faultAt (rest.drop 1) "unexpected \x60,'"

/-- Reads the negation of addresses: exclamation marks, of which one is allowed. -/
def readNegation (negated : Bool) : List UInt8 → Except EditFault (Bool × List UInt8)
  | [] => .ok (negated, [])
  | b :: rest =>
    if b == 33 then
      if negated then faultAt rest "multiple \x60!'s" else readNegation true rest
    else if isSpaceByte b && b != 10 then readNegation negated rest
    else .ok (negated, b :: rest)

/-- Reads the addresses of a command. -/
def readAddresses (extended : Bool) (bytes : List UInt8) :
    Except EditFault (EditCommand × List UInt8) := do
  let isRelative := bytes.head? == some 43 || bytes.head? == some 126
  if isRelative && bytes.tail.head?.any isDigitByte then
    faultAt (bytes.tail.dropWhile isDigitByte) "invalid usage of +N or ~N as first address"
  let (start, rest) ← readAddress extended (if isRelative then bytes.tail else bytes)
  let gap := if start.isSome then dropBlankBytes rest else rest
  let (stop, rest) ← match start, gap with
    | some _, 44 :: more => do
      let (stop, rest) ← readRangeEnd extended (dropBlankBytes more)
      pure (some stop, rest)
    | _, _ => pure (none, rest)
  let isZero := match start with
    | some (.line 0) => true
    | _ => false
  let endsInPattern := match stop with
    | some (.upTo (.containing _)) => true
    | _ => false
  if isZero && !endsInPattern then faultAt (rest.drop 1) "invalid usage of line address 0"
  let (negated, rest) ← readNegation false rest
  return ({ start, stop, negated, fromZero := isZero, edit := .blockEnd }, rest)

/-- A script while it is read. -/
structure EditScript where
  commands : Array EditCommand := #[]
  /-- The blocks that are open, innermost first: the command that starts each, and
  the number of the script that it stands in. -/
  blocks : List (Nat × Nat) := []
  /-- The number of the script that is read. -/
  number : Nat := 1

/-- The script with one more command. -/
def EditScript.push (s : EditScript) (c : EditCommand) (e : Edit) : EditScript :=
  { s with commands := s.commands.push { c with edit := e } }

/-- Reads a command after its addresses. -/
def readCommand (extended : Bool) (s : EditScript) (c : EditCommand) :
    List UInt8 → Except EditFault (EditScript × List UInt8)
  | [] => faultAt [] "missing command"
  | letter :: rest =>
    let plain (e : Edit) : Except EditFault (EditScript × List UInt8) :=
      (commandEnd rest).map fun rest => (s.push c e, rest)
    let one (read : Except EditFault (Edit × List UInt8)) :
        Except EditFault (EditScript × List UInt8) :=
      if c.stop.isSome then faultAt rest "command only uses one address"
      else read.map fun (e, rest) => (s.push c e, rest)
    let jump (make : List UInt8 → Edit) : Except EditFault (EditScript × List UInt8) :=
      let (name, rest) := readLabel rest
      .ok (s.push c (make name), rest)
    let file (make : List UInt8 → Edit) : Except EditFault (EditScript × List UInt8) :=
      (readFileName rest).map fun (name, rest) => (s.push c (make name), rest)
    match letter with
    | 123 =>
      .ok ({ s.push c (.block 0) with blocks := (s.commands.size, s.number) :: s.blocks }, rest)
    | 125 =>
      match s.blocks with
      | [] => faultAt rest "unexpected \x60\x7d'"
      | (start, _) :: blocks =>
        if c.start.isSome then faultAt rest "\x7d doesn't want any addresses"
        else
          (commandEnd rest).map fun rest =>
            let closed := s.commands.modify start fun b =>
              { b with edit := .block s.commands.size }
            ({ (({ s with commands := closed } : EditScript).push c .blockEnd) with blocks }, rest)
    | 115 => (readSubstitution extended rest).map fun (e, rest) => (s.push c e, rest)
    | 121 => (readMapping rest).map fun (e, rest) => (s.push c e, rest)
    | 97 => (readAdded rest).map fun (text, rest) => (s.push c (.append text), rest)
    | 105 => (readAdded rest).map fun (text, rest) => (s.push c (.insert text), rest)
    | 99 => (readAdded rest).map fun (text, rest) => (s.push c (.change text), rest)
    | 100 => plain .delete
    | 68 => plain .deleteFirst
    | 112 => plain .print
    | 80 => plain .printFirst
    | 110 => plain .next
    | 78 => plain .appendNext
    | 61 => plain .number
    | 104 => plain .hold
    | 72 => plain .appendHold
    | 103 => plain .recall
    | 71 => plain .appendRecall
    | 120 => plain .exchange
    | 122 => plain .clear
    | 70 => plain .fileName
    | 108 =>
      let text := dropBlankBytes rest
      let digits := text.takeWhile isDigitByte
      let width := if digits.isEmpty then none else some (numberOf digits)
      (commandEnd (text.drop digits.length)).map fun rest => (s.push c (.list width), rest)
    | 114 => file .readFile
    | 82 => file .readLine
    | 119 => file .writeFile
    | 87 => file .writeFirst
    | 118 =>
      let (_, rest) := readLabel rest
      .ok (s.push c .version, rest)
    | 113 => one (readCode .quit rest)
    | 81 => one (readCode .quitQuietly rest)
    | 98 => jump .jump
    | 116 => jump .jumpIfReplaced
    | 84 => jump .jumpUnlessReplaced
    | 58 =>
      if c.start.isSome then faultAt rest ": doesn't want any addresses"
      else
        let (name, rest) := readLabel rest
        if name.isEmpty then faultAt rest "\":\" lacks a label"
        else .ok (s.push c (.label name), rest)
    | 59 => faultAt rest "missing command"
    | 10 => faultAt rest "missing command"
    | letter =>
      faultAt rest ("unknown command: \x60" ++ String.ofList [Char.ofNat letter.toNat] ++ "'")

/-- Reads the commands of a script; the number bounds them. -/
def readEdits (extended : Bool) : Nat → EditScript → List UInt8 → Except EditFault EditScript
  | 0, s, _ => .ok s
  | fuel + 1, s, bytes =>
    match bytes.dropWhile fun b => isSpaceByte b || b == 59 with
    | [] => .ok s
    | 35 :: rest => readEdits extended fuel s (rest.dropWhile (· != 10))
    | bytes => do
      let (c, rest) ← readAddresses extended bytes
      let (s, rest) ← readCommand extended s c rest
      readEdits extended fuel s rest

end ZigReflect.Tool
