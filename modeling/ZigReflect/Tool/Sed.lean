import ZigReflect.Text.Lossy
import ZigReflect.Tool.Basic
import ZigReflect.Tool.Editor

/-!
# The line editor as a tool

Reads the options and scripts of the line editor, and runs it on files: on all of
them together, or, in place, on each by itself.
-/

namespace ZigReflect.Tool

/-- Where a script comes from. -/
inductive ScriptSource where
  | argument (text : String)
  | file (path : String)

/-- The options of the line editor, its scripts and its files. -/
structure SedArgs where
  quiet : Bool := false
  extended : Bool := false
  separate : Bool := false
  /-- Whether a zero byte ends a line. -/
  zeroEnded : Bool := false
  width : Nat := 70
  /-- What is added to the name of a file to keep it when it is edited in place. -/
  inPlace : Option String := none
  scripts : List ScriptSource := []
  others : List String := []
  /-- Whether the editor only tells of itself. -/
  isInfo : Bool := false
  /-- What is wrong with the options. -/
  fault : Option String := none

/-- What an option takes from the next argument. -/
inductive SedValue where
  | script
  | scriptFile
  | width
deriving DecidableEq, Repr, Inhabited

/-- The arguments with a value for an option. -/
def SedArgs.take (a : SedArgs) (text : String) : SedValue → SedArgs
  | .script => { a with scripts := a.scripts ++ [.argument text] }
  | .scriptFile => { a with scripts := a.scripts ++ [.file text] }
  | .width => { a with width := text.toNat?.getD 70 }

/-- Reads letters of one argument; gives the value that is still to come. -/
def sedLetters (a : SedArgs) : List Char → SedArgs × Option SedValue
  | [] => (a, none)
  | 'n' :: rest => sedLetters { a with quiet := true } rest
  | 'E' :: rest => sedLetters { a with extended := true } rest
  | 'r' :: rest => sedLetters { a with extended := true } rest
  | 's' :: rest => sedLetters { a with separate := true } rest
  | 'u' :: rest => sedLetters a rest
  | 'z' :: rest => sedLetters { a with zeroEnded := true } rest
  | 'i' :: rest => ({ a with inPlace := some (String.ofList rest) }, none)
  | c :: rest =>
    let value? := match c with
      | 'e' => some .script
      | 'f' => some .scriptFile
      | 'l' => some .width
      | _ => none
    match value? with
    | none => ({ a with fault := some ("invalid option -- '" ++ String.ofList [c] ++ "'") }, none)
    | some v => if rest.isEmpty then (a, some v) else (a.take (String.ofList rest) v, none)

/-- Reads a long option; gives the value that is still to come. -/
def sedLong (a : SedArgs) (option : String) : SedArgs × Option SedValue :=
  let name := String.ofList (option.toList.takeWhile (· != '='))
  let value? := match option.toList.drop name.length with
    | _ :: value => some (String.ofList value)
    | [] => none
  let take (v : SedValue) : SedArgs × Option SedValue :=
    match value? with
    | some value => (a.take value v, none)
    | none => (a, some v)
  match name with
  | "--quiet" => ({ a with quiet := true }, none)
  | "--silent" => ({ a with quiet := true }, none)
  | "--regexp-extended" => ({ a with extended := true }, none)
  | "--separate" => ({ a with separate := true }, none)
  | "--null-data" => ({ a with zeroEnded := true }, none)
  | "--zero-terminated" => ({ a with zeroEnded := true }, none)
  | "--unbuffered" => (a, none)
  | "--posix" => (a, none)
  | "--debug" => (a, none)
  | "--sandbox" => (a, none)
  | "--follow-symlinks" => (a, none)
  | "--version" => ({ a with isInfo := true }, none)
  | "--help" => ({ a with isInfo := true }, none)
  | "--in-place" => ({ a with inPlace := some (value?.getD "") }, none)
  | "--expression" => take .script
  | "--file" => take .scriptFile
  | "--line-length" => take .width
  | _ => ({ a with fault := some ("unrecognized option '" ++ option ++ "'") }, none)

/-- Reads the arguments of the line editor, of which the first may be the value of
an option. -/
def sedArgs (a : SedArgs) : Option SedValue → List String → SedArgs
  | _, [] => a
  | some v, text :: rest => sedArgs (a.take text v) none rest
  | none, arg :: rest =>
    if a.fault.isSome then a
    else
      match arg.toList with
      | ['-', '-'] => { a with others := a.others ++ rest }
      | '-' :: '-' :: _ =>
        let (a, next) := sedLong a arg
        sedArgs a next rest
      | '-' :: c :: cs =>
        let (a, next) := sedLetters a (c :: cs)
        sedArgs a next rest
      | _ => sedArgs { a with others := a.others ++ [arg] } none rest

/-- The complaint that a script has a fault, or lacks a pattern. -/
def scriptComplaint (t : Tree) (number place : Nat) (text : String) : Result :=
  complaining t 1 ("sed: -e expression #" ++ toString number ++ ", char " ++ toString place ++
    ": " ++ text)

/-- Reads scripts one after another. The fault of one names its number or its
file, and the place in it. -/
def readScripts (s : Setting) (extended : Bool) : EditScript → List ScriptSource →
    Except Result EditScript
  | e, [] =>
    match e.blocks with
    | [] => .ok e
    | (_, number) :: _ => .error (scriptComplaint s.tree number 0 "unmatched \x60\x7b'")
  | e, .argument script :: rest =>
    let bytes := bytesOf script
    match readEdits extended (bytes.length + 1) e bytes with
    | .ok e => readScripts s extended { e with number := e.number + 1 } rest
    | .error fault =>
      .error (scriptComplaint s.tree e.number (bytes.length - fault.left) fault.text)
  | e, .file path :: rest =>
    match s.read path with
    | .error cause_ =>
      .error (complaining s.tree 4 ("sed: couldn't open file " ++ path ++ ": " ++ cause cause_))
    | .ok bytes =>
      match readEdits extended (bytes.length + 1) e bytes with
      | .ok e => readScripts s extended e rest
      | .error fault =>
        let before := bytes.take (bytes.length - fault.left)
        .error (complaining s.tree 1 ("sed: file " ++ path ++ " line " ++
          toString ((before.filter (· == 10)).length + 1) ++ ": " ++ fault.text))

/-- The first label that is jumped to and does not stand in a script. -/
def missingLabel? (script : Array EditCommand) : Option (List UInt8) :=
  script.toList.findSome? fun c =>
    let name? := match c.edit with
      | .jump name => some name
      | .jumpIfReplaced name => some name
      | .jumpUnlessReplaced name => some name
      | _ => none
    name?.filter fun name => !name.isEmpty && (Editor.labelAt? script name).isNone

/-- Joins scripts that end in a backslash with the next. -/
def joinScripts : List ScriptSource → List ScriptSource
  | .argument a :: .argument b :: rest =>
    if Text.endsWith a "\\" then joinScripts (.argument (a ++ "\n" ++ b) :: rest)
    else .argument a :: joinScripts (.argument b :: rest)
  | source :: rest => source :: joinScripts rest
  | [] => []
termination_by scripts => scripts.length

/-- What the files hold that a script has written to, apart from the streams. -/
def sedWritten (s : Setting) (t : Tree) (e : Editor) : Result :=
  e.written.foldl (fun r (path, p) =>
    let bytes := p.bytes.data.toList
    if path = bytesOf "/dev/stdout" then { r with printed := r.printed ++ bytes }
    else if path = bytesOf "/dev/stderr" then { r with complaint := r.complaint ++ bytes }
    else if path = bytesOf nowhere then r
    else
      let name := Text.lossy path
      match r.tree.write s.cwd name p.bytes with
      | .ok t => { r with tree := t }
      | .error e =>
        { r with
          complaint := r.complaint ++ bytesOf ("sed: couldn't open file " ++ name ++ ": " ++
            cause e ++ "\n")
          code := 4 }) (quietly t 0)

/-- The path at which a file is kept before it is edited in place: a star in what
is added stands for its name. -/
def keptPath (path kept : String) : String :=
  if !kept.toList.contains '*' then path ++ kept
  else
    let name := ((FilePath.ofText path).fileName?).getD path
    let base := String.ofList (path.toList.take (path.length - name.length))
    let renamed := kept.toList.flatMap fun c => if c == '*' then name.toList else [c]
    if renamed.contains '/' then String.ofList renamed else base ++ String.ofList renamed

/-- Edits files in place, one after another, until the script ends by itself. -/
def sedFiles (s : Setting) (script : Array EditCommand) (m : EditMode) (kept : String) :
    Editor → Result → List String → Result
  | e, r, [] => r.andThen fun t => sedWritten s t e
  | e, r, path :: rest =>
    match r.tree.readBytes s.cwd path with
    | .error .isDirectory =>
      sedFiles s script m kept e (r.andThen fun t =>
        complaining t 4 ("sed: couldn't edit " ++ path ++ ": not a regular file")) rest
    | .error cause_ =>
      sedFiles s script m kept e (r.andThen fun t =>
        complaining t 2 ("sed: can't read " ++ path ++ ": " ++ cause cause_)) rest
    | .ok bytes =>
      match editText script m e (bytesOf path) bytes.data.toList with
      | .error text => r.andThen fun t => scriptComplaint t 1 0 text
      | .ok (code?, e) =>
        let r := r.andThen fun t =>
          let t := if kept.isEmpty then t
            else ((t.write s.cwd (keptPath path kept) bytes).toOption).getD t
          match t.write s.cwd path e.printed.bytes with
          | .ok t => quietly t (code?.getD 0)
          | .error _ => quietly t 4
        if code?.isSome then r.andThen fun t => sedWritten s t e
        else sedFiles s script m kept e r rest

/-- The bytes of files, or why they cannot all be read: what there is to complain
of, or a directory, which ends the editor. -/
def sedInput (s : Setting) (paths : List String) : List UInt8 × List String × Option String :=
  (if paths.isEmpty then ["-"] else paths).foldl
    (fun (bytes, complaints, directory) path =>
      if directory.isSome then (bytes, complaints, directory)
      else
        match s.read path with
        | .ok more => (bytes ++ more, complaints, none)
        | .error .isDirectory => (bytes, complaints, some path)
        | .error e =>
          (bytes, complaints ++ ["sed: can't read " ++ path ++ ": " ++ cause e], none))
    (([] : List UInt8), ([] : List String), (none : Option String))

/-- Edits all files together and prints the outcome. -/
def sedStream (s : Setting) (script : Array EditCommand) (m : EditMode)
    (paths : List String) : Result :=
  let (bytes, complaints, directory) := sedInput s paths
  let all := complaints ++ (directory.map fun path =>
    "sed: read error on " ++ path ++ ": " ++ cause .isDirectory).toList
  match editText script m (Editor.start script m) (bytesOf (paths.headD "-")) bytes with
  | .error text => scriptComplaint s.tree 1 0 text
  | .ok (code?, e) =>
    let r : Result := {
      tree := s.tree
      printed := e.printed.bytes.data.toList
      complaint := all.flatMap fun c => bytesOf (c ++ "\n")
      code := if directory.isSome then 4 else if all.isEmpty then code?.getD 0 else 2
      spent := paths.isEmpty || paths.contains "-" }
    r.andThen fun t => sedWritten s t e

/-- Whether a script asks for quiet in its first line. -/
def asksQuiet : List UInt8 → Bool
  | 35 :: 110 :: rest => rest.isEmpty || rest.head? == some 10
  | _ => false

/-- Edits files line by line. -/
def sed (s : Setting) (args : List String) : Result :=
  let a := sedArgs {} none args
  let (scripts, paths) := match a.scripts, a.others with
    | [], script :: paths => ([ScriptSource.argument script], paths)
    | scripts, paths => (scripts, paths)
  let isQuiet := a.quiet || match scripts with
    | .argument text :: _ => asksQuiet (bytesOf text)
    | .file path :: _ => ((s.read path).toOption).any asksQuiet
    | [] => false
  match a.fault with
  | some text => complaining s.tree 1 ("sed: " ++ text)
  | none =>
    if a.isInfo then quietly s.tree 0
    else
      match readScripts s a.extended {} (joinScripts scripts) with
      | .error r => r
      | .ok script =>
        let m : EditMode := {
          quiet := isQuiet
          inPlace := a.inPlace.isSome
          mark := if a.zeroEnded then 0 else 10
          width := a.width
          file := fun path => ((s.read (Text.lossy path)).toOption).getD [] }
        match missingLabel? script.commands, a.inPlace with
        | some name, _ =>
          { complaining s.tree 4 "" with
            complaint := bytesOf "sed: can't find label for jump to \x60" ++ name ++
              bytesOf "'\n" }
        | none, some kept =>
          sedFiles s script.commands m kept (Editor.start script.commands m) (quietly s.tree 0)
            paths
        | none, none => sedStream s script.commands m paths

/-- The tools by their names. -/
def tools : List (String × (Setting → List String → Result)) :=
  [("true", fun s _ => quietly s.tree 0), ("false", fun s _ => quietly s.tree 1),
    ("cat", cat), ("sed", sed), ("echo", fun s => echo s.tree),
    ("printf", fun s => printf s.tree), ("rm", rm), ("cp", cp), ("mv", mv), ("touch", touch),
    ("mkdir", mkdir), ("rmdir", rmdir), ("tee", tee), ("ls", ls), ("head", head), ("tail", tail),
    ("sort", sort), ("wc", wc), ("tr", tr), ("grep", grep),
    ("basename", fun s => basename s.tree), ("dirname", fun s => dirname s.tree),
    ("seq", fun s => seq s.tree), ("sleep", fun s => sleep s.tree)]

end ZigReflect.Tool
