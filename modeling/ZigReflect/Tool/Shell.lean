import ZigReflect.Machine
import ZigReflect.Text.Lossy
import ZigReflect.Tool.Parse
import ZigReflect.Tool.Sed
import ZigReflect.Tool.Sum

/-!
# Running scripts

The shell as a state that commands change: the files, the variables, what has
been printed and complained of, and how the last command ended.
-/

namespace ZigReflect.Tool

/-- Where output goes. -/
inductive Sink where
  | printed
  | complaint
  | file (l : Location)
  | nowhere
deriving DecidableEq, Repr, Inhabited

/-- How a script goes on. -/
inductive Flow where
  | on
  | exit
  | killed (signal : Nat)
  /-- Out of a function. -/
  | back
  /-- Out of a number of loops. -/
  | out (loops : Nat)
  /-- To the next turn of a loop, out of those inside of it. -/
  | again (loops : Nat)
deriving DecidableEq, Repr, Inhabited

/-- A shell at work. -/
structure Shell where
  tree : Tree
  cwd : Location
  /-- The name of the script. -/
  name : String
  args : List String := []
  vars : List (String × String) := []
  fixed : List String := []
  /-- The variables that other shells take over. -/
  exported : List String := []
  functions : List (String × Command) := []
  /-- What a complaint says before all else. -/
  within : String := ""
  code : Nat := 0
  line : Nat := 1
  input : List UInt8 := []
  out : Sink := .printed
  err : Sink := .complaint
  printed : ByteArray := .empty
  complaint : ByteArray := .empty
  flow : Flow := .on
  /-- Whether a failure ends the script. -/
  careful : Bool := false
  /-- Whether a missing value ends the script. -/
  strict : Bool := false
  /-- Whether commands are shown before they run. -/
  shown : Bool := false
  /-- What runs when the script ends. -/
  atExit : Option String := none
  /-- Whether a function is running. -/
  inFunction : Bool := false
  /-- What the variables that a function has of its own were before, the last
  first. -/
  locals : List (String × Option String) := []
  /-- How many loops are running. -/
  loops : Nat := 0

namespace Shell

/-! ## Output and values -/

/-- Puts bytes where they go. -/
def put (s : Shell) (bytes : List UInt8) : Sink → Shell
  | .printed => { s with printed := bytes.foldl ByteArray.push s.printed }
  | .complaint => { s with complaint := bytes.foldl ByteArray.push s.complaint }
  | .nowhere => s
  | .file l =>
    match s.tree.get? l with
    | some (.file old) => { s with tree := s.tree.put l (.file (bytes.foldl ByteArray.push old)) }
    | _ => s

/-- Complains. -/
def complain (s : Shell) (code : Nat) (text : String) : Shell :=
  let line := s.name ++ ": " ++ toString s.line ++ ": " ++ s.within ++ text ++ "\n"
  { s.put (bytesOf line) s.err with code }

/-- Complains and ends the script. -/
def abort (s : Shell) (text : String) : Shell := { s.complain 2 text with flow := .exit }

/-- Whether the script goes on. -/
def isOn (s : Shell) : Bool := s.flow = .on

/-- The process number of a script. -/
def processNumber : String := "1"

/-- The characters between which words are split. -/
def separators (s : Shell) : List Char := ((s.vars.lookup "IFS").getD " \t\n").toList

/-- Whether a character is blank. -/
def isBlank (c : Char) : Bool := c == ' ' || c == '\t' || c == '\n'

/-- The value of a parameter. -/
def value? (s : Shell) (name : String) : Option String :=
  match name with
  | "0" => some s.name
  | "?" => some (toString s.code)
  | "$" => some processNumber
  | "#" => some (toString s.args.length)
  | "@" => some (" ".intercalate s.args)
  | "*" => some ((String.ofList (s.separators.take 1)).intercalate s.args)
  | "!" => some ""
  | "-" => some ""
  | name =>
    match name.toNat? with
    | some n => s.args[n - 1]?
    | none => s.vars.lookup name

/-- Sets a variable. -/
def set (s : Shell) (name value : String) : Shell :=
  if s.fixed.contains name then s.abort (name ++ ": is read only")
  else { s with vars := Keyed.set s.vars name value }

/-- The number that a variable holds. -/
def number (s : Shell) (name : String) : Int := ((s.value? name).bind (·.toInt?)).getD 0

/-! ## Patterns of names -/

/-- A character of a pattern, and whether it stands for itself. -/
abbrev GlobChar := Char × Bool

/-- Whether a character is in a bracketed set of a pattern. -/
def inBrackets (c : Char) : List GlobChar → Bool
  | (lo, _) :: ('-', false) :: (hi, _) :: rest => (lo ≤ c && c ≤ hi) || inBrackets c rest
  | (d, _) :: rest => c == d || inBrackets c rest
  | [] => false

/-- Whether a pattern stands for a text. -/
def globMatch : Nat → List GlobChar → List Char → Bool
  | 0, _, _ => false
  | _, [], cs => cs.isEmpty
  | fuel + 1, ('*', false) :: p, cs =>
    globMatch fuel p cs || match cs with
      | [] => false
      | _ :: rest => globMatch fuel (('*', false) :: p) rest
  | fuel + 1, ('?', false) :: p, _ :: cs => globMatch fuel p cs
  | fuel + 1, ('[', false) :: p, c :: cs =>
    let (negated, p) := match p with
      | ('!', false) :: p => (true, p)
      | ('^', false) :: p => (true, p)
      | p => (false, p)
    let first := p.take 1
    let inner := first ++ (p.drop 1).takeWhile (· != (']', false))
    match p.drop inner.length with
    | _ :: rest => inBrackets c inner != negated && globMatch fuel rest cs
    | [] => c == '[' && globMatch fuel p cs
  | fuel + 1, (d, _) :: p, c :: cs => c == d && globMatch fuel p cs
  | _ + 1, _ :: _, [] => false

/-- Whether a pattern stands for a text. -/
def matchesGlob (p : List GlobChar) (cs : List Char) : Bool :=
  globMatch (p.length + cs.length + 1) p cs

/-- Cuts what a pattern stands for off the start or the end of a text. -/
def cutGlob (atEnd longest : Bool) (p : List GlobChar) (cs : List Char) : List Char :=
  let sizes := List.range (cs.length + 1)
  let cut (n : Nat) : Bool :=
    matchesGlob p (if atEnd then cs.drop (cs.length - n) else cs.take n)
  match (if longest then sizes.reverse else sizes).find? cut with
  | some n => if atEnd then cs.take (cs.length - n) else cs.drop n
  | none => cs

/-- Whether a word has a pattern in it. -/
def hasGlob (p : List GlobChar) : Bool :=
  p.any fun (c, quoted) => !quoted && (c == '*' || c == '?' || c == '[')

/-- The text of a word. -/
def globText (p : List GlobChar) : String := String.ofList (p.map (·.1))

/-- The parts of a word between its slashes. -/
def globParts : List GlobChar → List (List GlobChar)
  | [] => [[]]
  | (c, quoted) :: rest =>
    if c == '/' then [] :: globParts rest
    else
      match globParts rest with
      | [] => [[(c, quoted)]]
      | part :: parts => ((c, quoted) :: part) :: parts

/-- The names in a directory that a part of a word stands for. A name with a dot
in front has to be asked for. -/
def namesIn (s : Shell) (dir : String) (p : List GlobChar) : List String :=
  match s.tree.target s.cwd (.ofText (if dir.isEmpty then "." else dir)) with
  | .ok (.found _ (.dir entries)) =>
    let found := (entries.map (·.1)).filter fun name =>
      matchesGlob p name.toList &&
        !(name.toList.head? == some '.' && (p.map (·.1)).head? != some '.')
    found.mergeSort (· ≤ ·)
  | _ => []

/-- The paths that the parts of a word stand for, behind a path that is known. -/
def pathsBehind (s : Shell) (base : String) : List (List GlobChar) → List String
  | [] => [base]
  | [p] => if hasGlob p then (s.namesIn base p).map (base ++ ·) else [base ++ globText p]
  | p :: parts =>
    let here := if hasGlob p then s.namesIn base p else [globText p]
    here.flatMap fun name => pathsBehind s (base ++ name ++ "/") parts

/-- The paths that a word stands for, or the word itself. -/
def names (s : Shell) (p : List GlobChar) : List String :=
  if !hasGlob p then [globText p]
  else
    let found := (s.pathsBehind "" (globParts p)).filter fun path =>
      s.tree.exists? s.cwd (.ofText path)
    if found.isEmpty then [globText p] else found

/-! ## Words -/

/-- A piece of what a word stands for. -/
inductive Piece where
  | char (c : Char) (quoted : Bool)
  /-- A blank between fields. -/
  | gap
  /-- Where a field ends, be it empty. -/
  | stop
  /-- Something is there, be it empty. -/
  | present
deriving DecidableEq, Repr, Inhabited

/-- The pieces of a value, split at some characters unless it is quoted. -/
def valuePieces (separators : List Char) (quoted : Bool) (text : String) : List Piece :=
  if quoted then .present :: text.toList.map (.char · true)
  else text.toList.map fun c =>
    if !separators.contains c then .char c false else if isBlank c then .gap else .stop

/-- The fields of some pieces. -/
def fields : Option (List GlobChar) → List Piece → List (List GlobChar)
  | none, [] => []
  | some seen, [] => [seen.reverse]
  | none, .gap :: ps => fields none ps
  | some seen, .gap :: ps => seen.reverse :: fields none ps
  | seen, .stop :: ps => (seen.getD []).reverse :: fields none ps
  | seen, .present :: ps => fields (some (seen.getD [])) ps
  | seen, .char c quoted :: ps => fields (some ((c, quoted) :: seen.getD [])) ps

/-- The characters of some pieces. -/
def pieceChars (ps : List Piece) : List GlobChar :=
  ps.filterMap fun p => match p with
    | .char c quoted => some (c, quoted)
    | .gap => some (' ', false)
    | .stop => none
    | .present => none

/-! ## Conditions -/

/-- The number that a word spells, for a comparison. -/
def testNumber (w : String) : Except String Int :=
  match (String.ofList (w.toList.filter (· != ' '))).toInt? with
  | some n => .ok n
  | none => .error ("Illegal number: " ++ w)

/-- A condition on one word. -/
def testOne? (s : Shell) (op w : String) : Option Bool :=
  let p := FilePath.ofText w
  match op with
  | "-n" => some (!w.isEmpty)
  | "-z" => some w.isEmpty
  | "-e" => some (s.tree.exists? s.cwd p)
  | "-f" => some (s.tree.isFile s.cwd p)
  | "-d" => some (s.tree.isDir s.cwd p)
  | "-r" => some (s.tree.exists? s.cwd p)
  | "-w" => some (s.tree.exists? s.cwd p)
  | "-x" => some (s.tree.isDir s.cwd p)
  | "-s" =>
    match s.tree.target s.cwd p with
    | .ok (.found _ (.file bytes)) => some (bytes.size != 0)
    | .ok (.found _ (.dir _)) => some true
    | _ => some false
  | "-L" => some false
  | "-h" => some false
  | _ => none

/-- A condition on two words. -/
def testTwo? (op a b : String) : Option (Except String Bool) :=
  let compare (p : Int → Int → Bool) : Except String Bool := do
    return p (← testNumber a) (← testNumber b)
  match op with
  | "=" => some (.ok (a == b))
  | "==" => some (.ok (a == b))
  | "!=" => some (.ok (a != b))
  | "-eq" => some (compare (· == ·))
  | "-ne" => some (compare (· != ·))
  | "-lt" => some (compare (· < ·))
  | "-le" => some (compare (· ≤ ·))
  | "-gt" => some (compare (· > ·))
  | "-ge" => some (compare (· ≥ ·))
  | _ => none

/-- The condition that words spell; the number bounds them. -/
def test (s : Shell) : Nat → List String → Except String Bool
  | 0, _ => .ok false
  | _, [] => .ok false
  | _, [w] => .ok (!w.isEmpty)
  | fuel + 1, "!" :: rest => (s.test fuel rest).map (!·)
  | fuel + 1, words =>
    match words with
    | [op, w] =>
      match s.testOne? op w with
      | some b => .ok b
      | none =>
        .error (if (testTwo? w "" "").isSome then w ++ ": argument expected"
          else op ++ ": unexpected operator")
    | a :: op :: b :: rest =>
      match testTwo? op a b, s.testOne? a op, rest with
      | some r, _, [] => r
      | some r, _, "-a" :: rest => do return (← r) && (← s.test fuel rest)
      | some r, _, "-o" :: rest => do return (← r) || (← s.test fuel rest)
      | none, some r, rest =>
        match b, rest with
        | "-a", rest => (s.test fuel rest).map (r && ·)
        | "-o", rest => (s.test fuel rest).map (r || ·)
        | b, _ => .error (b ++ ": unexpected operator")
      | _, _, _ => .error (op ++ ": unexpected operator")
    | _ => .ok false

/-! ## Redirections -/

/-- Why a file cannot be opened. -/
def openCause (create : Bool) : FileError → String
  | .notFound => if create then "Directory nonexistent" else "No such file"
  | .notDirectory => if create then "Directory nonexistent" else "No such file"
  | e => cause e

/-- Sends the output of a descriptor somewhere. -/
def setSink (s : Shell) (fd : Nat) (sink : Sink) : Shell :=
  if fd = 2 then { s with err := sink } else if fd = 1 then { s with out := sink } else s

/-- Opens a file for output. -/
def openOutput (s : Shell) (fd : Nat) (append : Bool) (path : String) : Except String Shell :=
  if path = nowhere then .ok (s.setSink fd .nowhere)
  else if path = "/dev/stderr" then .ok (s.setSink fd s.err)
  else if path = "/dev/stdout" then .ok (s.setSink fd s.out)
  else
    let opened := if append && s.tree.isFile s.cwd (.ofText path) then .ok s.tree
      else s.tree.write s.cwd path .empty
    match opened with
    | .error e => .error ("cannot create " ++ path ++ ": " ++ openCause true e)
    | .ok t =>
      match t.target s.cwd (.ofText path) with
      | .ok (.found l _) => .ok ({ s with tree := t }.setSink fd (.file l))
      | _ => .ok { s with tree := t }

/-- Opens a file for input. -/
def openInput (s : Shell) (path : String) : Except String Shell :=
  if path = nowhere then .ok { s with input := [] }
  else
    match s.tree.readBytes s.cwd path with
    | .ok bytes => .ok { s with input := bytes.data.toList }
    | .error e => .error ("cannot open " ++ path ++ ": " ++ openCause false e)

/-- Sends the output of a descriptor where that of another goes. -/
def openSame (s : Shell) (fd : Nat) (target : String) : Except String Shell :=
  match target with
  | "1" => .ok (s.setSink fd s.out)
  | "2" => .ok (s.setSink fd s.err)
  | "-" => .ok (s.setSink fd .nowhere)
  | "0" => .ok s
  | target =>
    if target.toNat?.isSome then .error (target ++ ": Bad file descriptor")
    else .error "Syntax error: Bad fd number"

/-! ## Commands of the shell itself -/

/-- The commands of which a failure ends the script. -/
def specialCommands : List String :=
  [":", ".", "break", "continue", "eval", "exec", "exit", "export", "readonly", "return", "set",
    "shift", "times", "trap", "unset"]

/-- The signals that do nothing to a script. -/
def harmlessSignals : List String := ["0", "CHLD", "CONT", "URG", "WINCH", "17", "18", "23", "28"]

/-- The names of signals, in the order of their numbers from one on. -/
def signalNames : List String :=
  ["HUP", "INT", "QUIT", "ILL", "TRAP", "ABRT", "BUS", "FPE", "KILL", "USR1", "SEGV", "USR2",
    "PIPE", "ALRM", "TERM", "STKFLT", "CHLD", "CONT", "STOP", "TSTP", "TTIN", "TTOU", "URG",
    "XCPU", "XFSZ", "VTALRM", "PROF", "WINCH", "IO", "PWR", "SYS"]

/-- How the end by a signal is called, with the end of the line. -/
def signalTitle : Nat → String
  | 1 => "Hangup\n"
  | 2 => "\n"
  | 3 => "Quit\n"
  | 4 => "Illegal instruction\n"
  | 5 => "Trace/breakpoint trap\n"
  | 6 => "Aborted\n"
  | 7 => "Bus error\n"
  | 8 => "Floating point exception\n"
  | 9 => "Killed\n"
  | 10 => "User defined signal 1\n"
  | 11 => "Segmentation fault\n"
  | 12 => "User defined signal 2\n"
  | 14 => "Alarm clock\n"
  | 15 => "Terminated\n"
  | _ => ""

/-- Sends a signal. -/
def kill (s : Shell) (args : List String) : Shell :=
  let (signal, targets) := match args with
    | "-s" :: signal :: rest => (signal, rest)
    | "--" :: rest => ("TERM", rest)
    | arg :: rest =>
      match arg.toList with
      | '-' :: cs => (String.ofList cs, rest)
      | _ => ("TERM", arg :: rest)
    | [] => ("TERM", [])
  let plain := if Text.lower (String.ofList (signal.toList.take 3)) = "sig" then
      String.ofList (signal.toList.drop 3)
    else signal
  let isKnown := plain.toNat?.isSome || signalNames.contains (plain.map Char.toUpper)
  if targets.isEmpty then
    s.complain 2 ("kill: Usage: kill [-s sigspec | -signum | -sigspec] [pid | job]... or\n" ++
      "kill -l [exitstatus]")
  else if !isKnown then
    s.abort ("kill: Illegal option -" ++ String.ofList (plain.toList.take 1))
  else if targets.contains processNumber then
    if harmlessSignals.contains (plain.map Char.toUpper) then { s with code := 0 }
    else
      let number := plain.toNat?.getD
        (((signalNames.findIdx? (· == plain.map Char.toUpper)).map (· + 1)).getD 15)
      { s with flow := .killed number }
  else s.complain 1 "kill: No such process"

/-- The code that a word spells. -/
def exitCode? (w : String) : Option Nat :=
  if !w.isEmpty && w.toList.all Text.isDigit then some (Text.digitsValue w.toList) else none

/-- Ends with the code that the first argument spells, or with the last one. -/
def leave (s : Shell) (command : String) (flow : Flow) (args : List String) : Shell :=
  match args with
  | [] => { s with flow }
  | w :: _ =>
    match exitCode? w with
    | some n => { s with code := n % 256, flow }
    | none => s.abort (command ++ ": Illegal number: " ++ w)

/-- Leaves loops, at most as many as are running. -/
def leaveLoops (s : Shell) (command : String) (make : Nat → Flow) (args : List String) : Shell :=
  let count := match args with
    | [] => some 1
    | w :: _ => exitCode? w
  match count, args with
  | some (n + 1), _ =>
    if s.loops = 0 then { s with code := 0 }
    else { s with code := 0, flow := make (min (n + 1) s.loops) }
  | _, args => s.abort (command ++ ": Illegal number: " ++ args.headD "")

/-- Reads words of a line into variables; the last takes what is left. -/
def readInto (s : Shell) : List String → List Char → Shell
  | [], _ => s
  | [name], cs =>
    let isGap (c : Char) : Bool := isBlank c && s.separators.contains c
    s.set name (String.ofList ((cs.dropWhile isGap).reverse.dropWhile isGap).reverse)
  | name :: names, cs =>
    let isGap (c : Char) : Bool := isBlank c && s.separators.contains c
    let isInner (c : Char) : Bool := !s.separators.contains c
    let text := cs.dropWhile isGap
    let rest := match (text.dropWhile isInner).dropWhile isGap with
      | c :: rest => if isInner c then c :: rest else rest
      | [] => []
    readInto (s.set name (String.ofList (text.takeWhile isInner))) names rest

/-- A line of input, what follows it, and whether it has an end. A backslash takes
the next byte as it is, unless the line is raw. -/
def inputLine (raw : Bool) : List UInt8 → List UInt8 × List UInt8 × Bool
  | [] => ([], [], false)
  | 92 :: c :: rest =>
    let (line, after, ends) := inputLine raw rest
    if raw then
      if c == 10 then ([92], rest, true) else (92 :: c :: line, after, ends)
    else if c == 10 then (line, after, ends) else (c :: line, after, ends)
  | b :: rest =>
    if b == 10 then ([], rest, true)
    else
      let (line, after, ends) := inputLine raw rest
      (b :: line, after, ends)

/-- Reads a line of input. -/
def read (s : Shell) (args : List String) : Shell :=
  let (options, names) := splitOptions args
  if names.isEmpty then s.complain 2 "read: arg count"
  else
    let (line, rest, ends) := inputLine (hasOption options 'r') s.input
    let s := readInto { s with input := rest } names (Text.lossy line).toList
    { s with code := if ends then 0 else 1 }

/-- Sets options and arguments of the script. -/
def setOptions (s : Shell) : List String → Shell
  | [] => { s with code := 0 }
  | "--" :: args => { s with args, code := 0 }
  | arg :: rest =>
    match arg.toList with
    | '-' :: cs =>
      setOptions { s with
        careful := s.careful || cs.contains 'e'
        strict := s.strict || cs.contains 'u'
        shown := s.shown || cs.contains 'x' } rest
    | '+' :: cs =>
      setOptions { s with
        careful := s.careful && !cs.contains 'e'
        strict := s.strict && !cs.contains 'u'
        shown := s.shown && !cs.contains 'x' } rest
    | _ => { s with args := arg :: rest, code := 0 }

/-- The name of the variable that an argument sets. -/
def assignedName (arg : String) : String := String.ofList (arg.toList.takeWhile (· != '='))

/-- Sets the variables that arguments name. -/
def setAll (s : Shell) (args : List String) : Shell :=
  args.foldl (fun s arg =>
    let name := arg.toList.takeWhile (· != '=')
    match arg.toList.drop name.length with
    | _ :: value => s.set (String.ofList name) (String.ofList value)
    | [] => s) { s with code := 0 }

/-- Sets variables that a function has of its own. -/
def setLocals (s : Shell) (args : List String) : Shell :=
  args.foldl (fun s arg =>
    let name := assignedName arg
    { s with locals := (name, s.vars.lookup name) :: s.locals }.setAll [arg])
    { s with code := 0 }

/-- Gives variables the values that they had before. -/
def reset (s : Shell) (old : List (String × Option String)) : Shell :=
  old.foldl (fun s (name, value) =>
    match value with
    | some value => { s with vars := Keyed.set s.vars name value }
    | none => { s with vars := s.vars.filter fun v => v.1 != name }) s

/-- The options that a shell is started with. -/
structure StartOptions where
  careful : Bool := false
  strict : Bool := false
  shown : Bool := false
  /-- Whether the script is the first argument. -/
  isScript : Bool := false
  fromInput : Bool := false
  /-- Whether the script is only read. -/
  idle : Bool := false
  /-- The first letter that is no option. -/
  unknown : Option Char := none
  rest : List String := []

/-- Takes a letter among the options of a shell. -/
def StartOptions.letter (o : StartOptions) (on : Bool) (c : Char) : StartOptions :=
  match c with
  | 'e' => { o with careful := on }
  | 'u' => { o with strict := on }
  | 'x' => { o with shown := on }
  | 'c' => { o with isScript := true }
  | 's' => { o with fromInput := true }
  | 'n' => { o with idle := on }
  | c => if "abfilmqvCEIV".toList.contains c then o else { o with unknown := o.unknown.or (some c) }

/-- Takes the name of an option of a shell. -/
def StartOptions.named (o : StartOptions) (on : Bool) (name : String) : StartOptions :=
  match name with
  | "errexit" => { o with careful := on }
  | "nounset" => { o with strict := on }
  | "xtrace" => { o with shown := on }
  | "noexec" => { o with idle := on }
  | _ => o

/-- Reads the options that a shell is started with. -/
def shellOptions (o : StartOptions) : List String → StartOptions
  | [] => o
  | arg :: rest =>
    match arg.toList, rest with
    | ['-', '-'], rest => { o with rest }
    | ['-'], rest => { o with rest }
    | ['-', 'o'], name :: rest => shellOptions (o.named true name) rest
    | ['+', 'o'], name :: rest => shellOptions (o.named false name) rest
    | '-' :: cs, rest => shellOptions (cs.foldl (fun o c => o.letter true c) o) rest
    | '+' :: cs, rest => shellOptions (cs.foldl (fun o c => o.letter false c) o) rest
    | _, rest => { o with rest := arg :: rest }

/-- Goes to another directory. -/
def changeDir (s : Shell) (args : List String) : Shell :=
  match (splitOptions args).2 with
  | [] => { s with code := 0 }
  | path :: _ =>
    match s.tree.target s.cwd (.ofText path) with
    | .ok (.found l (.dir _)) => { s with cwd := l, code := 0 }
    | _ => s.complain 2 ("cd: can't cd to " ++ path)

/-- What a tool leaves behind. -/
def absorb (s : Shell) (r : Result) : Shell :=
  let input := if r.spent then [] else s.input
  let s := { s with tree := r.tree, code := r.code, input }
  (s.put r.printed s.out).put r.complaint s.err

/-- Runs a command of the shell itself that runs no other. -/
def builtin? (s : Shell) (name : String) (args : List String) : Option Shell :=
  match name with
  | ":" => some { s with code := 0 }
  | "true" => some { s with code := 0 }
  | "false" => some { s with code := 1 }
  | "exit" => some (s.leave "exit" .exit args)
  | "return" => some (s.leave "return" (if s.inFunction then .back else .exit) args)
  | "break" => some (s.leaveLoops "break" .out args)
  | "continue" => some (s.leaveLoops "continue" .again args)
  | "kill" => some (s.kill args)
  | "read" => some (s.read args)
  | "set" => some (s.setOptions args)
  | "export" =>
    let s := s.setAll args
    some { s with exported := s.exported ++ args.map assignedName }
  | "readonly" =>
    let s := s.setAll args
    some { s with fixed := s.fixed ++ args.map assignedName }
  | "local" =>
    some (if s.inFunction then s.setLocals args else s.abort "local: not in a function")
  | "unset" => some { s with vars := s.vars.filter fun v => !args.contains v.1, code := 0 }
  | "shift" =>
    let n := (args.head?.bind exitCode?).getD 1
    some (if s.args.length < n then s.abort "shift: can't shift that many"
      else { s with args := s.args.drop n, code := 0 })
  | "cd" => some (s.changeDir args)
  | "pwd" =>
    some (({ s with code := 0 }).put (bytesOf ("/" ++ "/".intercalate s.cwd ++ "\n")) s.out)
  | "wait" => some { s with code := 0 }
  | "umask" => some (({ s with code := 0 }).put (bytesOf "0022\n") s.out)
  | "trap" =>
    match args with
    | action :: signals =>
      some (if signals.contains "EXIT" || signals.contains "0" then
        { s with atExit := some action, code := 0 } else { s with code := 0 })
    | [] => some { s with code := 0 }
  | "test" =>
    match s.test (args.length + 1) args with
    | .ok b => some { s with code := if b then 0 else 1 }
    | .error text => some (s.complain 2 ("test: " ++ text))
  | "[" =>
    if args.getLast? != some "]" then some (s.complain 2 "[: missing ]")
    else
      match s.test args.length args.dropLast with
      | .ok b => some { s with code := if b then 0 else 1 }
      | .error text => some (s.complain 2 ("[: " ++ text))
  | "echo" =>
    let (ending, args) := match args with
      | "-n" :: args => ("", args)
      | args => ("\n", args)
    let (bytes, ends) := unescape (" ".intercalate args)
    some (({ s with code := 0 }).put (bytes ++ if ends then [] else bytesOf ending) s.out)
  | "printf" =>
    match (match args with | "--" :: rest => rest | args => args) with
    | [] => some (s.complain 2 "printf: usage: printf format [arg ...]")
    | form :: args =>
      let f := formatAll form args
      let s := ({ s with code := 0 }).put f.printed s.out
      some (f.faults.foldl (fun s fault =>
        s.complain (if f.ends then 2 else 1) ("printf: " ++ fault)) s)
  | _ => none

/-- The commands of the shell itself beside those of which a failure ends the
script. -/
def plainCommands : List String :=
  ["[", "alias", "bg", "cd", "command", "echo", "false", "fg", "getopts", "hash", "jobs", "kill",
    "local", "printf", "pwd", "read", "test", "true", "type", "ulimit", "umask", "unalias", "wait"]

/-- The tools that run a command. -/
def runningTools : List String := ["sh", "dash", "env"]

/-- What a name stands for: how it is called, and how it is described. -/
def meaning? (s : Shell) (name : String) : Option (String × String) :=
  if reservedWords.contains name then some (name, name ++ " is a shell keyword")
  else if (s.functions.lookup name).isSome then some (name, name ++ " is a shell function")
  else if specialCommands.contains name then
    some (name, name ++ " is a special shell builtin")
  else if plainCommands.contains name then some (name, name ++ " is a shell builtin")
  else if (tools.lookup name).isSome || runningTools.contains name then
    some ("/usr/bin/" ++ name, name ++ " is /usr/bin/" ++ name)
  else none

/-- Tells what names stand for. -/
def describe (s : Shell) (isShort : Bool) (names : List String) : Shell :=
  names.foldl (fun s name =>
    match s.meaning? name with
    | some (short, long) => s.put (bytesOf ((if isShort then short else long) ++ "\n")) s.out
    | none =>
      let missing := if isShort then "" else name ++ ": not found\n"
      { s.put (bytesOf missing) s.out with code := 127 }) { s with code := 0 }

/-- The tool that a command names, or why there is none: the code and the
complaint. -/
def tool? (s : Shell) (name : String) : Except (Nat × String) String :=
  if name.toList.contains '/' then
    match s.tree.target s.cwd (.ofText name) with
    | .ok (.vacant ["bin", tool]) => .ok tool
    | .ok (.vacant ["usr", "bin", tool]) => .ok tool
    | .ok (.vacant _) => .error (127, "not found")
    | .ok (.found _ _) => .error (126, cause .denied)
    | .error .notFound => .error (127, "not found")
    | .error .notDirectory => .error (127, "not found")
    | .error e => .error (126, cause e)
  else .ok name

/-! ## Running -/

/-- The shell that goes on after a part of the script that ran by itself: only
the files and what it printed and complained of are left of it. -/
def afterPart (s part : Shell) : Shell :=
  { s with
    tree := part.tree
    printed := part.printed
    complaint := part.complaint
    code := part.code
    input := part.input
    flow := match part.flow with
      | .killed signal => .killed signal
      | _ => s.flow }

/-- The shell in which a part of the script runs by itself. -/
def apart (s : Shell) : Shell := { s with atExit := none }

/-- The descriptors as they were before a command with redirections; input that
was not redirected is left as the command has left it. -/
def restore (s before : Shell) (redirects : List Redirect) : Shell :=
  let isInput (r : Redirect) : Bool := match r with
    | .read _ => true
    | .here _ => true
    | _ => false
  { s with
    input := if redirects.any isInput then before.input else s.input
    out := before.out
    err := before.err }

/-- What is left when a command has ended by a signal: a complaint and a code. -/
def reaped (s : Shell) : Shell :=
  match s.flow with
  | .killed signal =>
    { s.put (bytesOf (signalTitle signal)) s.err with code := 128 + signal, flow := .on }
  | _ => s

/-- Whether an argument is an option or sets a variable, and so stands before the
command that another runs. -/
def isBeforeCommand (arg : String) : Bool :=
  arg.toList.contains '=' || arg.toList.head? == some '-'

/-- What is left of a shell after a turn of a loop: whether the loop goes on. -/
def afterTurn (s : Shell) : Shell × Bool :=
  match s.flow with
  | .on => (s, true)
  | .out n => ({ s with flow := if n ≤ 1 then .on else .out (n - 1) }, false)
  | .again n => if n ≤ 1 then ({ s with flow := .on }, true)
      else ({ s with flow := .again (n - 1) }, false)
  | _ => (s, false)

mutual

/-- The pieces of what a word stands for. -/
def expand : Nat → Bool → Word → Shell → Shell × List Piece
  | 0, _, _, s => (s, [])
  | _, _, [], s => (s, [])
  | fuel + 1, splits, segment :: rest, s =>
    let (s, pieces) := expandSegment fuel splits segment s
    let (s, more) := expand fuel splits rest s
    (s, pieces ++ more)

/-- The pieces of what a segment stands for. -/
def expandSegment : Nat → Bool → Segment → Shell → Shell × List Piece
  | 0, _, _, s => (s, [])
  | _, _, .text cs quoted, s =>
    (s, (if quoted then [.present] else []) ++ cs.map (.char · quoted))
  | fuel + 1, splits, .parameter name change operand quoted, s =>
    let value := s.value? name
    let isMissing (orNull : Bool) : Bool := value.isNone || (orNull && value == some "")
    let separators := if splits then s.separators else []
    let plain (text : String) : List Piece := valuePieces separators quoted text
    match change with
    | .plain =>
      if name = "@" && quoted && splits then
        (s, (s.args.map fun a => valuePieces [] true a).intersperse [.gap] |>.flatten)
      else if value.isNone && s.strict then (s.abort (name ++ ": parameter not set"), [])
      else (s, plain (value.getD ""))
    | .invalid => (s.abort "Bad substitution", [])
    | .length => (s, plain (toString (value.getD "").length))
    | .default orNull =>
      if isMissing orNull then expand fuel splits operand s else (s, plain (value.getD ""))
    | .instead orNull => if isMissing orNull then (s, []) else expand fuel splits operand s
    | .assign orNull =>
      if isMissing orNull then
        let (s, text) := expandText fuel operand s
        (s.set name text, plain text)
      else (s, plain (value.getD ""))
    | .demand orNull =>
      if isMissing orNull then
        let (s, text) := expandText fuel operand s
        let reason := if !text.isEmpty then text
          else if orNull then "parameter not set or null" else "parameter not set"
        (s.abort (name ++ ": " ++ reason), [])
      else (s, plain (value.getD ""))
    | .cut atEnd longest =>
      let (s, pieces) := expand fuel false operand s
      (s, plain (String.ofList
        (cutGlob atEnd longest (pieceChars pieces) (value.getD "").toList)))
  | fuel + 1, splits, .output script quoted, s =>
    let part := runText fuel script
      { s.apart with printed := .empty, out := .printed }
    let text := (Text.lossy part.printed.data.toList).toList
    let cut := String.ofList (text.reverse.dropWhile (· == '\n')).reverse
    let separators := if splits then s.separators else []
    ((s.afterPart { part with printed := s.printed }), valuePieces separators quoted cut)
  | fuel + 1, _, .sum expression quoted, s =>
    let (s, text) := match readWord (2 * expression.length + 2) .nothing [] expression with
      | .ok (w, _) => expandText fuel w s
      | .error _ => (s, String.ofList expression)
    match sum s.number text.toList with
    | .ok n => (s, valuePieces [] quoted (toString n))
    | .error fault =>
      (s.abort ("arithmetic expression: " ++ fault.text ++ ": \"" ++ text ++ "\""), [])

/-- The text that a word stands for. -/
def expandText : Nat → Word → Shell → Shell × String
  | 0, _, s => (s, "")
  | fuel + 1, w, s =>
    let (s, pieces) := expand fuel false w s
    (s, globText (pieceChars pieces))

/-- The words that words stand for. -/
def expandAll : Nat → List Word → Shell → Shell × List String
  | 0, _, s => (s, [])
  | _, [], s => (s, [])
  | fuel + 1, w :: ws, s =>
    let (s, pieces) := expand fuel true w s
    let here := (fields none pieces).flatMap s.names
    let (s, more) := expandAll fuel ws s
    (s, here ++ more)

/-- Sets variables one after another. -/
def assignAll : Nat → List (String × Word) → Shell → Shell
  | 0, _, s => s
  | _, [], s => s
  | fuel + 1, (name, w) :: rest, s =>
    let (s, text) := expandText fuel w s
    assignAll fuel rest (s.set name text)

/-- Redirects input and output. -/
def redirect : Nat → List Redirect → Shell → Except (Shell × String) Shell
  | 0, _, s => .ok s
  | _, [], s => .ok s
  | fuel + 1, r :: rest, s =>
    let (s, opened) := match r with
      | .write fd append w =>
        let (s, path) := expandText fuel w s
        (s, s.openOutput fd append path)
      | .read w =>
        let (s, path) := expandText fuel w s
        (s, s.openInput path)
      | .same fd w =>
        let (s, target) := expandText fuel w s
        (s, s.openSame fd target)
      | .here w =>
        let (s, text) := expandText fuel w s
        (s, .ok { s with input := bytesOf text })
    match opened with
    | .ok s => redirect fuel rest s
    | .error text => .error (s, text)

/-- Runs a tool, when there is one with the name. -/
def runTool? : Nat → String → List String → Shell → Option Shell
  | 0, _, _, _ => none
  | fuel + 1, tool, args, s =>
    match tools.lookup tool with
    | some run => some (s.absorb (run ⟨s.tree, s.cwd, s.input⟩ args))
    | none =>
      match tool with
      | "sh" => some (runShell fuel args s)
      | "dash" => some (runShell fuel args s)
      | "test" => s.builtin? "test" args
      | "[" =>
        if args.getLast? != some "]" then some (s.absorb (complaining s.tree 2 "[: missing ']'"))
        else s.builtin? "[" args
      | "env" =>
        let before := args.takeWhile isBeforeCommand
        let set := before.filter (·.toList.contains '=')
        let s := { s.setAll set with exported := s.exported ++ set.map assignedName }
        match args.drop before.length with
        | [] => some { s with code := 0 }
        | name :: args =>
          match s.tool? name with
          | .ok tool => some ((runTool? fuel tool args s).getD
              (s.absorb (complaining s.tree 127 ("env: '" ++ name ++ "': " ++ cause .notFound))))
          | .error (code, _) =>
            let why := if code = 126 then cause .denied else cause .notFound
            some (s.absorb (complaining s.tree code ("env: '" ++ name ++ "': " ++ why)))
      | _ => none

/-- Runs a command with its arguments. -/
def call : Nat → String → List String → Shell → Shell
  | 0, _, _, s => s
  | fuel + 1, name, args, s =>
    match s.functions.lookup name, { s with within := "" }.builtin? name args with
    | some body, _ =>
      let inner := run fuel false body
        { s with args, inFunction := true, locals := [], loops := 0 }
      { inner.reset inner.locals with
        args := s.args
        inFunction := s.inFunction
        locals := s.locals
        loops := s.loops
        flow := if inner.flow = .back then .on else inner.flow }
    | none, some after => { after with within := s.within }
    | none, none =>
      match name with
      | "eval" =>
        let after := runText fuel (" ".intercalate args).toList
          { s with code := 0, within := "eval: " }
        { after with within := s.within }
      | "exec" =>
        match args with
        | [] => { s with code := 0 }
        | name :: args =>
          match s.tool? name with
          | .error (code, text) =>
            { { s with within := "" }.complain code ("exec: " ++ name ++ ": " ++ text) with
              flow := .exit }
          | .ok tool =>
            match runTool? fuel tool args s with
            | some s => if s.isOn then { s with flow := .exit } else s
            | none =>
              { { s with within := "" }.complain 127 ("exec: " ++ name ++ ": not found") with
                flow := .exit }
      | "type" => s.describe false args
      | "command" =>
        match args with
        | [] => { s with code := 0 }
        | "-v" :: names => s.describe true names
        | "-V" :: names => s.describe false names
        | name :: args =>
          { call fuel name args { s with functions := [] } with functions := s.functions }
      | "." =>
        match args with
        | path :: _ =>
          let plain := { s with within := "" }
          if !path.toList.contains '/' then plain.abort (".: " ++ path ++ ": not found")
          else
            match s.tree.readBytes s.cwd path with
            | .ok bytes =>
              let after := runText fuel (Text.lossy bytes.data.toList).toList
                { s with within := path ++ ": " }
              { after with within := s.within }
            | .error e => plain.abort (".: cannot open " ++ path ++ ": " ++ openCause false e)
        | [] => { s with code := 0 }
      | name =>
        match s.tool? name with
        | .error (code, text) => s.complain code (name ++ ": " ++ text)
        | .ok tool =>
          match runTool? fuel tool args s with
          | some after => { after.reaped with vars := s.vars, exported := s.exported }
          | none => s.complain 127 (name ++ ": not found")

/-- Runs a shell inside of the shell. -/
def runShell : Nat → List String → Shell → Shell
  | 0, _, s => s
  | fuel + 1, args, s =>
    let o := shellOptions {} args
    let start (name : String) (args : List String) : Shell :=
      { tree := s.tree, cwd := s.cwd, name, args, input := s.input, out := s.out, err := s.err,
        printed := s.printed, complaint := s.complaint, exported := s.exported,
        vars := s.vars.filter fun v => s.exported.contains v.1,
        careful := o.careful, strict := o.strict, shown := o.shown }
    let refused (text : String) : Shell :=
      s.afterPart ({ start "sh" [] with line := 0 }.complain 2 text)
    let go (script : List Char) (inner : Shell) : Shell :=
      s.afterPart (if o.idle then inner else runWhole fuel script inner)
    match o.unknown, o.isScript, o.rest with
    | some c, _, _ => refused ("Illegal option -" ++ String.ofList [c])
    | none, true, [] => refused "-c requires an argument"
    | none, true, script :: args => go script.toList (start (args.headD "sh") args.tail)
    | none, false, [] => go (Text.lossy s.input).toList (start "sh" [])
    | none, false, path :: args =>
      if o.fromInput then go (Text.lossy s.input).toList (start "sh" (path :: args))
      else
        match s.tree.readBytes s.cwd path with
        | .ok bytes => go (Text.lossy bytes.data.toList).toList (start path args)
        | .error .isDirectory => go [] (start path args)
        | .error e => refused ("cannot open " ++ path ++ ": " ++ openCause false e)

/-- Runs a command; a failure that is tested does not end the script. -/
def run : Nat → Bool → Command → Shell → Shell
  | 0, _, _, s => { s with code := 2, flow := .exit }
  | fuel + 1, tested, c, s =>
    if !s.isOn then s
    else
      match c with
      | .nothing => s
      | .simple line assigns words redirects => runSimple fuel tested line assigns words redirects s
      | .seq a b => run fuel tested b (run fuel tested a s)
      | .both a b =>
        let s := run fuel true a s
        if s.code = 0 then run fuel tested b s else s
      | .either a b =>
        let s := run fuel true a s
        if s.code = 0 then s else run fuel tested b s
      | .negate c =>
        let s := run fuel true c s
        if s.isOn then { s with code := if s.code = 0 then 1 else 0 } else s
      | .aside c =>
        let part := run fuel true c { s.apart with input := [] }
        { s.afterPart part with code := 0, input := s.input }
      | .subshell c => (s.afterPart (run fuel tested c s.apart)).checked tested
      | .pipe a b =>
        let left := run fuel true a { s.apart with printed := .empty, out := .printed }
        let s' := s.afterPart { left with printed := s.printed }
        let right := run fuel true b { s'.apart with input := left.printed.data.toList }
        (s'.afterPart { right with input := s'.input }).checked tested
      | .redirected line c redirects =>
        match redirect fuel redirects { s with line } with
        | .ok inner => (run fuel tested c inner).restore s redirects
        | .error (s', text) => (s'.complain 2 text).restore s redirects
      | .branch condition yes no =>
        let s := run fuel true condition s
        if !s.isOn then s
        else if s.code = 0 then run fuel tested yes { s with code := 0 }
        else run fuel tested no { s with code := 0 }
      | .loop whileFailing condition body =>
        let after := runLoop fuel tested whileFailing condition body 0
          { s with loops := s.loops + 1 }
        { after with loops := s.loops }
      | .each name words body =>
        let (s, values) := match words with
          | some words => expandAll fuel words s
          | none => (s, s.args)
        let after := runEach fuel tested name values body
          { s with code := 0, loops := s.loops + 1 }
        { after with loops := s.loops }
      | .select w cases =>
        let (s, text) := expandText fuel w s
        runCases fuel tested text cases { s with code := 0 }
      | .define name body =>
        { s with functions := Keyed.set s.functions name body, code := 0 }

/-- Runs a simple command. -/
def runSimple : Nat → Bool → Nat → List (String × Word) → List Word → List Redirect → Shell → Shell
  | 0, _, _, _, _, _, s => s
  | fuel + 1, tested, line, assigns, words, redirects, s =>
    let (s, fields) := expandAll fuel words { s with line }
    if !s.isOn then s
    else
      let isSpecial := fields.head?.any specialCommands.contains
      match redirect fuel redirects s with
      | .error (s', text) =>
        let s := (s'.complain 2 text).restore s redirects
        if isSpecial then { s with flow := .exit } else s.checked tested
      | .ok inner =>
        let hasOutput := assigns.any fun a => a.2.any fun (p : Segment) => match p with
          | .output _ _ => true
          | _ => false
        let names := assigns.map (·.1)
        let inner := assignAll fuel assigns
          (if fields.isEmpty then if hasOutput then inner else { inner with code := 0 }
            else { inner with exported := inner.exported ++ names })
        if !inner.isOn then inner.restore s redirects
        else
          let set := assigns.map fun (name, _) => name ++ "=" ++ (inner.value? name).getD ""
          let shown := if inner.shown then
              inner.put (bytesOf ("+ " ++ " ".intercalate (set ++ fields) ++ "\n")) inner.err
            else inner
          match fields with
          | [] => (shown.restore s redirects).checked tested
          | name :: args =>
            let after := call fuel name args shown
            let after := if isSpecial then after
              else
                { after.reset (names.map fun name => (name, s.vars.lookup name)) with
                  exported := s.exported ++ after.exported.drop shown.exported.length }
            if name = "exec" && args.isEmpty then after
            else (after.restore s redirects).checked tested

/-- Runs a loop; the code is that of the last turn. -/
def runLoop : Nat → Bool → Bool → Command → Command → Nat → Shell → Shell
  | 0, _, _, _, _, _, s => s
  | fuel + 1, tested, whileFailing, condition, body, code, s =>
    let s := run fuel true condition s
    if !s.isOn then s.afterTurn.1
    else if (s.code == 0) == whileFailing then { s with code }
    else
      let (s, goesOn) := (run fuel tested body s).afterTurn
      if goesOn then runLoop fuel tested whileFailing condition body s.code s else s

/-- Runs a command for each value of a variable. -/
def runEach : Nat → Bool → String → List String → Command → Shell → Shell
  | 0, _, _, _, _, s => s
  | _, _, _, [], _, s => s
  | fuel + 1, tested, name, value :: rest, body, s =>
    let (s, goesOn) := (run fuel tested body (s.set name value)).afterTurn
    if goesOn then runEach fuel tested name rest body s else s

/-- Runs the first case that a text belongs to. -/
def runCases : Nat → Bool → String → List (List Word × Command) → Shell → Shell
  | 0, _, _, _, s => s
  | _, _, _, [], s => s
  | fuel + 1, tested, text, (patterns, body) :: rest, s =>
    let isMatch := patterns.any fun w =>
      matchesGlob (pieceChars (expand fuel false w s).2) text.toList
    if isMatch then run fuel tested body s else runCases fuel tested text rest s

/-- Runs a script line by line. -/
def runLines : Nat → Nat → List Placed → Shell → Shell
  | 0, _, _, s => s
  | _, _, [], s => s
  | fuel + 1, last, ts, s =>
    match scriptLine last (ts.length + 1) ts with
    | .error fault =>
      { s with line := fault.line }.abort ("Syntax error: " ++ fault.text)
    | .ok (c, rest) =>
      let s := run fuel false c s
      if s.isOn then runLines fuel last rest s else s

/-- Runs the text of a script. -/
def runText : Nat → List Char → Shell → Shell
  | 0, _, s => s
  | fuel + 1, script, s =>
    runLines fuel (1 + feedCount script) (tokens (2 * script.length + 2) 1 script) s

/-- Runs a whole script, and at its end what it has set aside for that. -/
def runWhole : Nat → List Char → Shell → Shell
  | 0, _, s => s
  | fuel + 1, script, s =>
    let s := runText fuel script s
    match s.atExit with
    | none => s
    | some action =>
      match s.flow with
      | .killed _ => s
      | _ =>
        let after := runText fuel action.toList { s with flow := .on, atExit := none }
        if after.flow = .on then { after with code := s.code } else after

/-- Ends the script after a failure that is not tested, if it is careful. -/
def checked (s : Shell) (tested : Bool) : Shell :=
  if s.careful && !tested && s.code != 0 && s.isOn then { s with flow := .exit } else s

end

/-- How many steps a script can take. -/
def maxSteps : Nat := 20000

/-- How a shell has ended. -/
def ending (s : Shell) : Ending :=
  let complaint := Text.lossy s.complaint.data.toList
  match s.flow with
  | .killed _ => .killed complaint
  | _ => .exited s.code complaint

end Shell

/-- The tool that a command names: by its name, or by a path into one of the
directories of tools. -/
def toolName? (cwd : Location) (t : Tree) (command : String) : Except FileError String :=
  if command.toList.contains '/' then
    match t.target cwd (.ofText command) with
    | .error e => .error e
    | .ok (.found _ _) => .error .denied
    | .ok (.vacant ["bin", name]) => .ok name
    | .ok (.vacant ["usr", "bin", name]) => .ok name
    | .ok (.vacant _) => .error .notFound
  else if FilePath.isDots command then .error .denied
  else if 255 < command.utf8ByteSize then .error .nameTooLong
  else .ok command

/-- What a command does in a working directory. A command that is no tool is
not found, and one that is a file or a directory cannot be run. -/
def launch (cwd : Location) (t : Tree) (command : String) (args : List String) : Tree × Ending :=
  if (command :: args).any Tree.hasNul then (t, .unavailable .badArgument)
  else
    match toolName? cwd t command with
    | .error e => (t, .unavailable e)
    | .ok name =>
      match Shell.runTool? Shell.maxSteps name args { tree := t, cwd, name := "sh" } with
      | some s => (s.tree, s.ending)
      | none => (t, .unavailable .notFound)

end ZigReflect.Tool
