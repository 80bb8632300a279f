import ZigReflect.Files.Tree
import ZigReflect.Tool.Format

/-!
# Small tools

The commands that a run can carry out by itself: they read, write and remove
files of a tree, take input, print, complain, and end with a code.
-/

namespace ZigReflect.Tool

/-- What a tool finds: the files, where relative paths start, and the input. -/
structure Setting where
  tree : Tree
  cwd : Location
  input : List UInt8 := []

/-- What a tool leaves behind. -/
structure Result where
  tree : Tree
  printed : List UInt8 := []
  complaint : List UInt8 := []
  code : Nat := 0
  /-- Whether the input has been read. -/
  spent : Bool := false

/-- The array of some bytes. -/
def arrayOf (bytes : List UInt8) : ByteArray := ⟨bytes.toArray⟩

/-- Why a tool cannot use a file, without the number of the error. -/
def cause : FileError → String
  | .notFound => "No such file or directory"
  | .denied => "Permission denied"
  | .exists => "File exists"
  | .notDirectory => "Not a directory"
  | .isDirectory => "Is a directory"
  | .nameTooLong => "File name too long"
  | .notText => "Invalid or incomplete multibyte or wide character"
  | .badName | .badArgument => "Invalid argument"

/-- A tool that only ends with a code. -/
def quietly (t : Tree) (code : Nat) : Result := { tree := t, code := code }

/-- A tool that prints a text. -/
def printing (t : Tree) (text : String) : Result := { tree := t, printed := bytesOf text }

/-- A tool that complains. -/
def complaining (t : Tree) (code : Nat) (text : String) : Result :=
  { tree := t, code := code, complaint := bytesOf (text ++ "\n") }

/-- One tool after another: what they print and complain of is joined, and the
greater code counts. -/
def Result.andThen (r : Result) (f : Tree → Result) : Result :=
  let next := f r.tree
  { tree := next.tree
    printed := r.printed ++ next.printed
    complaint := r.complaint ++ next.complaint
    code := max r.code next.code
    spent := r.spent || next.spent }

/-- Does something with each file. -/
def forFiles (f : Tree → String → Result) (t : Tree) (paths : List String) : Result :=
  paths.foldl (fun r path => r.andThen fun t => f t path) (quietly t 0)

/-- The file that gives nothing and keeps nothing. -/
def nowhere : String := "/dev/null"

namespace Setting

/-- The bytes of a file; a hyphen stands for the input. -/
def read (s : Setting) (path : String) : Except FileError (List UInt8) :=
  if path = "-" then .ok s.input
  else if path = nowhere then .ok []
  else (s.tree.readBytes s.cwd path).map (·.data.toList)

/-- Whether a path leads to a directory. -/
def isDir (s : Setting) (path : String) : Bool := s.tree.isDir s.cwd (.ofText path)

/-- The files that are read, or the input when there is none: what can be read
and what there is to complain of. -/
def readAll (s : Setting) (refusal : String → FileError → String) (paths : List String) :
    List UInt8 × List String :=
  (if paths.isEmpty then ["-"] else paths).foldl (fun (bytes, complaints) path =>
    match s.read path with
    | .ok more => (bytes ++ more, complaints)
    | .error e => (bytes, complaints ++ [refusal path e]))
    (([] : List UInt8), ([] : List String))

/-- A tool that makes something of all that it reads. -/
def filter (s : Setting) (refusal : String → FileError → String) (paths : List String)
    (f : List UInt8 → List UInt8) : Result :=
  let (bytes, complaints) := s.readAll refusal paths
  { tree := s.tree
    printed := f bytes
    complaint := complaints.flatMap fun c => bytesOf (c ++ "\n")
    code := if complaints.isEmpty then 0 else 1
    spent := paths.isEmpty || paths.contains "-" }

end Setting

/-- The complaint of a tool about a file: its path and the cause. -/
def plainRefusal (tool path : String) (e : FileError) : String :=
  tool ++ ": " ++ path ++ ": " ++ cause e

/-- The complaint of a tool about a file that it opens to read from. -/
def readingRefusal (tool path : String) (e : FileError) : String :=
  if e = .isDirectory then tool ++ ": error reading '" ++ path ++ "': " ++ cause e
  else tool ++ ": cannot open '" ++ path ++ "' for reading: " ++ cause e

/-- The hint at the end of a complaint about arguments. -/
def helpHint (tool : String) : String := "\nTry '" ++ tool ++ " --help' for more information."

/-- The complaint about an option that is none. -/
def badOption (t : Tree) (tool : String) (c : Char) : Result :=
  complaining t 1 (tool ++ ": invalid option -- '" ++ String.ofList [c] ++ "'" ++ helpHint tool)

/-- Splits the options, which start with a hyphen, from the other arguments. -/
def splitOptions : List String → List String × List String
  | [] => ([], [])
  | "--" :: rest => ([], rest)
  | arg :: rest =>
    let (options, others) := splitOptions rest
    if arg.toList.head? == some '-' && arg != "-" then (arg :: options, others)
    else (options, arg :: others)

/-- Whether a letter is among the options. -/
def hasOption (options : List String) (c : Char) : Bool :=
  options.any fun o => o.toList.contains c

/-- The first letter of short options that is none of some. -/
def badLetter? (letters : String) (options : List String) : Option Char :=
  options.findSome? fun o =>
    if o.toList.take 2 == ['-', '-'] then none
    else (o.toList.drop 1).find? fun c => !letters.toList.contains c

/-! ## Files -/

/-- Removes files; with force, files that are missing are passed over. -/
def rm (s : Setting) (args : List String) : Result :=
  let (options, paths) := splitOptions args
  let force := hasOption options 'f'
  let deep := hasOption options 'r' || hasOption options 'R'
  if paths.isEmpty && !force then complaining s.tree 1 ("rm: missing operand" ++ helpHint "rm")
  else
    forFiles (fun t path =>
      let refused (e : FileError) : Result :=
        complaining t 1 ("rm: cannot remove '" ++ path ++ "': " ++ cause e)
      match t.remove s.cwd path with
      | .ok t => quietly t 0
      | .error .notFound => if force then quietly t 0 else refused .notFound
      | .error .isDirectory =>
        match deep, t.target s.cwd (.ofText path) with
        | true, .ok (.found l _) => quietly (t.erase l) 0
        | _, _ => refused .isDirectory
      | .error e => refused e) s.tree paths

/-- Makes files that are missing, unless it is told not to. -/
def touch (s : Setting) (args : List String) : Result :=
  let (options, paths) := splitOptions args
  if paths.isEmpty then
    complaining s.tree 1 ("touch: missing file operand" ++ helpHint "touch")
  else
    forFiles (fun t path =>
      if t.exists? s.cwd (.ofText path) || hasOption options 'c' then quietly t 0
      else
        match t.write s.cwd path .empty with
        | .ok t => quietly t 0
        | .error e => complaining t 1 ("touch: cannot touch '" ++ path ++ "': " ++ cause e))
      s.tree paths

/-- Makes directories. -/
def mkdir (s : Setting) (args : List String) : Result :=
  let (options, paths) := splitOptions args
  forFiles (fun t path =>
    let refused (e : FileError) : Result :=
      complaining t 1 ("mkdir: cannot create directory '" ++ path ++ "': " ++ cause e)
    if hasOption options 'p' then
      match t.makeDirs s.cwd (.ofText path) with
      | (t, .ok _) => quietly t 0
      | (_, .error e) => refused e
    else
      match t.makeDir s.cwd (.ofText path) with
      | .ok t => quietly t 0
      | .error e => refused e) s.tree paths

/-- Removes directories that hold nothing. -/
def rmdir (s : Setting) (args : List String) : Result :=
  forFiles (fun t path =>
    let refused (why : String) : Result :=
      complaining t 1 ("rmdir: failed to remove '" ++ path ++ "': " ++ why)
    match t.target s.cwd (.ofText path) with
    | .ok (.found l (.dir [])) => quietly (t.erase l) 0
    | .ok (.found _ (.dir _)) => refused "Directory not empty"
    | .ok (.found _ (.file _)) => refused (cause .notDirectory)
    | .ok (.vacant _) => refused (cause .notFound)
    | .error e => refused (cause e)) s.tree (splitOptions args).2

/-- The path of a file that is put at a path or into a directory. -/
def placeAt (s : Setting) (t : Tree) (source target : String) : String :=
  if t.isDir s.cwd (.ofText target) then
    FilePath.join target ((FilePath.ofText source).fileName?.getD "")
  else target

/-- Whether one place lies below another. -/
def isBelow (l base : Location) : Bool :=
  base.length < l.length && l.take base.length == base

/-- Copies or moves a file or a directory to a path or into a directory. -/
def transfer (s : Setting) (tool : String) (moves deep : Bool) (target : String)
    (t : Tree) (source : String) : Result :=
  let refused (text : String) : Result := complaining t 1 (tool ++ ": " ++ text)
  let verb := if moves then "move" else "copy"
  match t.target s.cwd (.ofText source) with
  | .error e => refused ("cannot stat '" ++ source ++ "': " ++ cause e)
  | .ok (.vacant _) => refused ("cannot stat '" ++ source ++ "': " ++ cause .notFound)
  | .ok (.found l node) =>
    let place := placeAt s t source target
    let isDir := match node with
      | .dir _ => true
      | .file _ => false
    if isDir && !moves && !deep then
      refused ("-r not specified; omitting directory '" ++ source ++ "'")
    else
      match t.target s.cwd (.ofText place) with
      | .ok (.found other old) =>
        if other = l then
          refused ("'" ++ source ++ "' and '" ++ place ++ "' are the same file")
        else
          match node, old with
          | .dir _, .file _ =>
            refused ("cannot overwrite non-directory '" ++ place ++ "' with directory '" ++
              source ++ "'")
          | .file _, .dir _ =>
            refused ("cannot overwrite directory '" ++ place ++ "' with non-directory '" ++
              source ++ "'")
          | _, _ => quietly ((if moves then t.erase l else t).put other node) 0
      | .ok (.vacant other) =>
        if isDir && isBelow other l then
          if moves then
            refused ("cannot " ++ verb ++ " '" ++ source ++ "' to a subdirectory of itself, '" ++
              place ++ "'")
          else
            (quietly (t.put other node) 0).andThen fun t =>
              complaining t 1 (tool ++ ": cannot copy a directory, '" ++ source ++
                "', into itself, '" ++ place ++ "'")
        else quietly ((if moves then t.erase l else t).put other node) 0
      | .error e =>
        if moves then
          refused ("cannot move '" ++ source ++ "' to '" ++ place ++ "': " ++ cause e)
        else
          refused ("cannot create " ++ (if isDir then "directory" else "regular file") ++ " '" ++
            place ++ "': " ++ cause e)

/-- Copies or moves files: one to a path, or several into a directory. -/
def transferAll (s : Setting) (tool : String) (moves : Bool) (args : List String) : Result :=
  let (options, paths) := splitOptions args
  let deep := hasOption options 'r' || hasOption options 'R' || hasOption options 'a'
  match paths.getLast?, paths.dropLast with
  | none, _ => complaining s.tree 1 (tool ++ ": missing file operand" ++ helpHint tool)
  | some source, [] =>
    complaining s.tree 1 (tool ++ ": missing destination file operand after '" ++ source ++ "'" ++
      helpHint tool)
  | some target, [source] => transfer s tool moves deep target s.tree source
  | some target, sources =>
    if s.isDir target then forFiles (transfer s tool moves deep target) s.tree sources
    else
      let why := if s.tree.exists? s.cwd (.ofText target) then .notDirectory else .notFound
      complaining s.tree 1 (tool ++ ": target '" ++ target ++ "': " ++ cause why)

/-- Copies files. -/
def cp (s : Setting) (args : List String) : Result := transferAll s "cp" false args

/-- Moves files. -/
def mv (s : Setting) (args : List String) : Result := transferAll s "mv" true args

/-- Prints its input, and writes it to files. -/
def tee (s : Setting) (args : List String) : Result :=
  let (options, paths) := splitOptions args
  let written := forFiles (fun t path =>
    let old := if hasOption options 'a' then (t.readBytes s.cwd path).toOption.getD .empty
      else .empty
    if path = nowhere then quietly t 0
    else
      match t.write s.cwd path (old ++ arrayOf s.input) with
      | .ok t => quietly t 0
      | .error e => complaining t 1 ("tee: " ++ path ++ ": " ++ cause e)) s.tree paths
  { written with printed := s.input, spent := true }

/-- Prints the names in directories. -/
def ls (s : Setting) (args : List String) : Result :=
  let paths := (splitOptions args).2
  forFiles (fun t path =>
    match t.target s.cwd (.ofText path) with
    | .ok (.found _ (.dir entries)) =>
      let names := (entries.map (·.1)).filter fun name => name.toList.head? != some '.'
      printing t (String.join ((names.mergeSort (· ≤ ·)).map (· ++ "\n")))
    | .ok (.found _ (.file _)) => printing t (path ++ "\n")
    | .ok (.vacant _) =>
      complaining t 2 ("ls: cannot access '" ++ path ++ "': " ++ cause .notFound)
    | .error e => complaining t 2 ("ls: cannot access '" ++ path ++ "': " ++ cause e)) s.tree
    (if paths.isEmpty then ["."] else paths)

/-! ## Lines -/

/-- The lines of some bytes, each with its end. -/
def lineBytes : List UInt8 → List (List UInt8)
  | [] => []
  | b :: rest =>
    if b == 10 then [10] :: lineBytes rest
    else
      match lineBytes rest with
      | [] => [[b]]
      | line :: lines => (b :: line) :: lines

/-- Prints files, with the numbers of their lines where they are asked for. -/
def cat (s : Setting) (args : List String) : Result :=
  let (options, paths) := splitOptions args
  match badLetter? "AbeEnstTuv" options with
  | some c => badOption s.tree "cat" c
  | none =>
    s.filter (plainRefusal "cat") paths fun bytes =>
      if hasOption options 'n' then
        (lineBytes bytes).zipIdx.flatMap fun (line, i) =>
          ({ width := 6 } : Layout).pad (digitBytes 10 (i + 1)) ++ 9 :: line
      else bytes

/-- What a tool that takes the first or the last of its input counts: lines or
bytes, how many, and whether from the start on. -/
structure Count where
  isBytes : Bool := false
  number : Nat := 10
  fromStart : Bool := false

/-- Reads a number of a count. -/
def Count.read? (isBytes : Bool) (text : String) : Option Count :=
  let (fromStart, digits) := match text.toList with
    | '+' :: cs => (true, cs)
    | '-' :: cs => (false, cs)
    | cs => (false, cs)
  if digits.isEmpty || !digits.all Text.isDigit then none
  else some ⟨isBytes, Text.digitsValue digits, fromStart⟩

/-- Reads the options of a tool that counts, and its other arguments; a count that
is no number is an error. -/
def readCount (c : Count) : List String → Except (Bool × String) (Count × List String)
  | [] => .ok (c, [])
  | arg :: rest => do
    let take (isBytes : Bool) (text : String) : Except (Bool × String) Count :=
      match Count.read? isBytes text with
      | some c => .ok c
      | none => .error (isBytes, text)
    match arg.toList, rest with
    | ['-', 'n'], text :: rest => readCount (← take false text) rest
    | ['-', 'c'], text :: rest => readCount (← take true text) rest
    | '-' :: 'n' :: cs, rest => readCount (← take false (String.ofList cs)) rest
    | '-' :: 'c' :: cs, rest => readCount (← take true (String.ofList cs)) rest
    | '-' :: d :: ds, rest =>
      if Text.isDigit d then readCount (← take false (String.ofList (d :: ds))) rest
      else readCount c rest
    | _, rest => do
      let (c, others) ← readCount c rest
      return (c, arg :: others)

/-- A tool that prints a part of what it reads. -/
def countTool (s : Setting) (tool : String) (args : List String)
    (part : {α : Type} → Count → List α → List α) : Result :=
  match readCount {} args with
  | .error (isBytes, text) =>
    let what := if isBytes then "bytes" else "lines"
    complaining s.tree 1 (tool ++ ": invalid number of " ++ what ++ ": '" ++ text ++ "'")
  | .ok (c, paths) =>
    s.filter (readingRefusal tool) paths fun bytes =>
      if c.isBytes then part c bytes else (part c (lineBytes bytes)).flatten

/-- Prints the first lines or bytes. -/
def head (s : Setting) (args : List String) : Result :=
  countTool s "head" args fun c xs => xs.take c.number

/-- Prints the last lines or bytes, or with a plus those from a number on. -/
def tail (s : Setting) (args : List String) : Result :=
  countTool s "tail" args fun c xs =>
    if c.fromStart then xs.drop (c.number - 1) else xs.drop (xs.length - c.number)

/-- Whether one line comes before another or is equal to it. -/
def lineLe : List UInt8 → List UInt8 → Bool
  | [], _ => true
  | _ :: _, [] => false
  | a :: as, b :: bs => if a == b then lineLe as bs else a < b

/-- Takes the file that output goes to out of some arguments. -/
def splitTarget : List String → Option String × List String
  | "-o" :: path :: rest => (some path, rest)
  | arg :: rest =>
    let (target, others) := splitTarget rest
    (target, arg :: others)
  | [] => (none, [])

/-- The files that cannot be read, those that are missing first. -/
def Setting.unreadable (s : Setting) (paths : List String) : List (String × FileError) :=
  let faults := paths.filterMap fun path => match s.read path with
    | .error e => some (path, e)
    | .ok _ => none
  faults.filter (·.2 != .isDirectory) ++ faults.filter (·.2 == .isDirectory)

/-- Prints lines in order, or writes them to a file. -/
def sort (s : Setting) (args : List String) : Result :=
  let (target, args) := splitTarget args
  let (options, paths) := splitOptions args
  match s.unreadable paths with
  | (path, e) :: _ =>
    let what := if e = .isDirectory then "read failed: " else "cannot read: "
    complaining s.tree 2 ("sort: " ++ what ++ path ++ ": " ++ cause e)
  | [] =>
    let sorted := s.filter (plainRefusal "sort") paths fun bytes =>
      let lines := (lineBytes bytes).map fun l => l.filter (· != 10)
      let sorted := lines.mergeSort lineLe
      let unique := if hasOption options 'u' then sorted.eraseDups else sorted
      let ordered := if hasOption options 'r' then unique.reverse else unique
      ordered.flatMap (· ++ [10])
    match target with
    | none => sorted
    | some path =>
      match sorted.tree.write s.cwd path (arrayOf sorted.printed) with
      | .ok t => { sorted with tree := t, printed := [] }
      | .error e => complaining s.tree 2 ("sort: open failed: " ++ path ++ ": " ++ cause e)

/-- How many words stand between blanks; the flag says whether one has begun. -/
def wordCount : Bool → List UInt8 → Nat
  | _, [] => 0
  | inWord, b :: rest =>
    let isGap := b == 32 || (9 ≤ b && b ≤ 13)
    wordCount (!isGap) rest + if !isGap && !inWord then 1 else 0

/-- Counts lines, words and bytes of its input. -/
def wc (s : Setting) (args : List String) : Result :=
  let (options, paths) := splitOptions args
  s.filter (plainRefusal "wc") paths fun bytes =>
    let asked (c : Char) : Bool := options.isEmpty || hasOption options c
    let counts :=
      (if asked 'l' then [(bytes.filter (· == 10)).length] else []) ++
      (if asked 'w' then [wordCount false bytes] else []) ++
      (if asked 'c' || hasOption options 'm' then [bytes.length] else [])
    let width := if counts.length ≤ 1 then 0
      else if paths.isEmpty then 7 else (digitBytes 10 bytes.length).length
    let shown := counts.map fun n => ({ width } : Layout).pad (digitBytes 10 n)
    let name := match paths with
      | [path] => bytesOf (" " ++ path)
      | _ => []
    [32].intercalate shown ++ name ++ [10]

/-- The bytes that a set of a mapping names. -/
def mappingSet : Nat → List UInt8 → List UInt8
  | 0, _ => []
  | _, [] => []
  | fuel + 1, 92 :: c :: rest =>
    match escapedByte? c, numberedByte? 8 3 (c :: rest) with
    | some b, _ => b :: mappingSet fuel rest
    | none, some (b, rest) => b :: mappingSet fuel rest
    | none, none => c :: mappingSet fuel rest
  | fuel + 1, 91 :: 58 :: rest =>
    match byteClass? (rest.takeWhile (· != 58)) with
    | some isMember =>
      ((List.range 256).map Nat.toUInt8).filter isMember ++
        mappingSet fuel ((rest.dropWhile (· != 58)).drop 2)
    | none => 91 :: mappingSet fuel (58 :: rest)
  | fuel + 1, lo :: 45 :: hi :: rest =>
    ((List.range 256).map Nat.toUInt8).filter (fun b => lo ≤ b && b ≤ hi) ++
      mappingSet fuel rest
  | fuel + 1, b :: rest => b :: mappingSet fuel rest

/-- Maps or deletes bytes of its input. -/
def tr (s : Setting) (args : List String) : Result :=
  let (options, sets) := splitOptions args
  let setOf (text : String) : List UInt8 :=
    let bytes := bytesOf text
    mappingSet (bytes.length + 1) bytes
  let without (members : List UInt8) : Result :=
    { tree := s.tree, printed := s.input.filter fun b => !members.contains b, spent := true }
  match sets with
  | [] => complaining s.tree 1 ("tr: missing operand" ++ helpHint "tr")
  | [source] =>
    if hasOption options 'd' || hasOption options 's' then without (setOf source)
    else
      complaining s.tree 1 ("tr: missing operand after '" ++ source ++
        "'\nTwo strings must be given when translating." ++ helpHint "tr")
  | [source, target] =>
    let members := setOf source
    let images := setOf target
    if hasOption options 'd' then without members
    else
      { tree := s.tree
        printed := s.input.map fun b =>
          match members.findIdx? (· == b) with
          | some i => (images[i]?).getD (images.getLast?.getD b)
          | none => b
        spent := true }
  | _ :: _ :: extra :: _ =>
    complaining s.tree 1 ("tr: extra operand '" ++ extra ++ "'" ++ helpHint "tr")

/-- Prints the lines in which a pattern is found. -/
def grep (s : Setting) (args : List String) : Result :=
  let (options, others) := splitOptions args
  match others with
  | [] =>
    complaining s.tree 2 ("Usage: grep [OPTION]... PATTERNS [FILE]...\n" ++
      "Try 'grep --help' for more information.")
  | pattern :: paths =>
    match LinePattern.read (hasOption options 'E') (hasOption options 'i') false
        (bytesOf pattern) with
    | .error text => complaining s.tree 2 ("grep: " ++ text)
    | .ok p =>
      let (bytes, complaints) := s.readAll (plainRefusal "grep") paths
      let found := (lineBytes bytes).zipIdx.filter fun (l, _) =>
        p.isFound (l.filter (· != 10)) != hasOption options 'v'
      let printed := found.flatMap fun (l, i) =>
        (if hasOption options 'n' then digitBytes 10 (i + 1) ++ [58] else []) ++
          if l.getLast? == some 10 then l else l ++ [10]
      { tree := s.tree
        printed := if hasOption options 'q' then []
          else if hasOption options 'c' then bytesOf (toString found.length ++ "\n")
          else printed
        complaint := complaints.flatMap fun c => bytesOf (c ++ "\n")
        code := if !complaints.isEmpty then 2 else if found.isEmpty then 1 else 0
        spent := paths.isEmpty || paths.contains "-" }

/-! ## Texts -/

/-- Prints its arguments on a line. -/
def echo (t : Tree) : List String → Result
  | "-n" :: args => printing t (" ".intercalate args)
  | args => printing t (" ".intercalate args ++ "\n")

/-- Prints the last name of a path. -/
def basename (t : Tree) : List String → Result
  | [path] => printing t ((FilePath.ofText path).trimmed.pieces.getLast?.getD "/" ++ "\n")
  | path :: ending :: _ =>
    let name := (FilePath.ofText path).trimmed.pieces.getLast?.getD "/"
    let cut := if Text.endsWith name ending && name != ending then
        String.ofList (name.toList.take (name.length - ending.length))
      else name
    printing t (cut ++ "\n")
  | [] => complaining t 1 ("basename: missing operand" ++ helpHint "basename")

/-- Prints the directory of a path. -/
def dirname (t : Tree) : List String → Result
  | path :: _ =>
    let parent := ((FilePath.ofText path).parent?.map (·.text)).getD path
    printing t ((if parent.isEmpty then "." else parent) ++ "\n")
  | [] => complaining t 1 ("dirname: missing operand" ++ helpHint "dirname")

/-- Prints numbers. -/
def seq (t : Tree) (args : List String) : Result :=
  let (first, last) := match args.map (·.toNat?.getD 0) with
    | [last] => (1, last)
    | first :: last :: _ => (first, last)
    | [] => (1, 0)
  match args.find? (·.toInt?.isNone) with
  | some arg =>
    complaining t 1 ("seq: invalid floating point argument: '" ++ arg ++ "'" ++ helpHint "seq")
  | none =>
    printing t (String.join ((List.range' first (last + 1 - first)).map fun n =>
      toString n ++ "\n"))

/-- Waits for some time, which here goes by at once. -/
def sleep (t : Tree) (args : List String) : Result :=
  let isTime (arg : String) : Bool :=
    let cs := match arg.toList.getLast? with
      | some c => if "smhd".toList.contains c then arg.toList.dropLast else arg.toList
      | none => []
    !cs.isEmpty && cs.all fun c => Text.isDigit c || c == '.'
  let wrong := args.filter (!isTime ·)
  if args.isEmpty then complaining t 1 ("sleep: missing operand" ++ helpHint "sleep")
  else if wrong.isEmpty then quietly t 0
  else
    complaining t 1 ("\n".intercalate (wrong.map fun arg =>
      "sleep: invalid time interval '" ++ arg ++ "'") ++ helpHint "sleep")

/-- Prints its arguments under a format. -/
def printf (t : Tree) (args : List String) : Result :=
  match (match args with | "--" :: rest => rest | args => args) with
  | [] => complaining t 1 ("printf: missing operand" ++ helpHint "printf")
  | form :: args =>
    let f := formatAll form args
    { tree := t
      printed := f.printed
      complaint := f.faults.flatMap fun fault => bytesOf ("printf: " ++ fault ++ "\n")
      code := if f.faults.isEmpty then 0 else 1 }

end ZigReflect.Tool
