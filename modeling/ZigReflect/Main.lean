import ZigReflect.Command.Run
import ZigReflect.Tool.Shell

/-!
# The command line program

Takes up the files that a run can reach into a tree, carries the command line
out on it, and puts back what has changed. All that is decided is decided in
`Machine.carryOut`.

The machine that is taken up is not the real one in three ways. The path of the
scratch file has no number of the process in it. The commands are those of
`Tool`, run on the tree: no other formatter is started. Settings files are read
in TOML alone, and a file in another format counts as malformed.
-/

namespace ZigReflect

/-- Where a path leads, with steps to a parent taken by their spelling. -/
def locationOf (cwd : Location) (path : String) : Location :=
  let p := FilePath.ofText path
  p.steps.foldl (fun at_ step =>
    if step = ".." then at_.dropLast else if step = "." then at_ else at_ ++ [step])
    (if p.absolute then [] else cwd)

/-- The tree with a directory and those around it. -/
def withDir (t : Tree) (l : Location) : Tree :=
  if (t.get? l).isSome then t else t.put l (.dir [])

/-- Takes up what is at a path. -/
def takeUp (cwd : Location) (t : Tree) (path : String) : IO Tree := do
  try
    let bytes ← IO.FS.readBinFile path
    return t.put (locationOf cwd path) (.file bytes)
  catch _ =>
    try
      if ← (← IO.FS.realPath path).isDir then return withDir t (locationOf cwd path)
      else return t
    catch _ => return t

/-- Takes up a file, and the directories that it stands in. -/
def takeUpFile (cwd : Location) (t : Tree) (path : String) : IO Tree := do
  let t ← ((FilePath.ofText path).ancestors.drop 1).foldlM (fun t p => takeUp cwd t p.text) t
  takeUp cwd t path

/-- Takes up a settings file, and those of its name with an ending behind it. -/
def takeUpSettings (cwd : Location) (t : Tree) (name : String) : IO Tree :=
  (name :: SettingsFormat.allEndings.map (FilePath.longer name)).foldlM (takeUpFile cwd) t

/-- The variables that are set. -/
def readEnvironment : IO (List (String × String)) := do
  let found ← Environment.variableNames.mapM fun name => do
    return (← IO.getEnv name).map (name, ·)
  return found.filterMap id

/-- The directory of the user's settings. -/
def readConfigHome : IO String := do
  match ← IO.getEnv "XDG_CONFIG_HOME" with
  | some dir => if (FilePath.ofText dir).absolute then return dir
  | none => pure ()
  return FilePath.join ((← IO.getEnv "HOME").getD "/") ".config"

/-- What is around the program, with the commands of `Tool` and settings in
TOML. -/
def readMachine : IO Machine := do
  let cwd := (FilePath.ofText (← IO.currentDir).toString).steps
  return {
    cwd := cwd
    env := ← readEnvironment
    configHome := ← readConfigHome
    scratch := "/tmp/typedoc-zig.zig"
    launch := Tool.launch cwd }

/-- Takes up what a run with some options can reach. -/
def takeUpAll (m : Machine) (o : Options) : IO Tree := do
  let start := withDir (withDir (.dir []) m.cwd) ["tmp"]
  let t ← takeUpSettings m.cwd start m.userFile
  let t ← (m.standingFiles t ++ o.config.toList).foldlM (takeUpSettings m.cwd) t
  match m.loadSettings t o.config with
  | .error _ => return t
  | .ok loaded =>
    let s := o.apply loaded
    ([s.input.types, s.input.protocol, s.output.path] ++ s.output.preamble.toList).foldlM
      (takeUpFile m.cwd) t

/-- Puts back what has changed. -/
def putBackAll (before after : Tree) : IO Unit := do
  for (l, bytes) in after.files do
    unless (before.files.lookup l) == some bytes do
      IO.FS.createDirAll ("/" ++ "/".intercalate l.dropLast)
      IO.FS.writeBinFile ("/" ++ "/".intercalate l) bytes
  for (l, _) in before.files do
    if (after.get? l).isNone then
      IO.FS.removeFile ("/" ++ "/".intercalate l)

end ZigReflect

open ZigReflect in
/-- Carries out a command line on the files of the machine. -/
def main (args : List String) : IO UInt32 := do
  let m ← readMachine
  let o := match Invocation.ofArgs args with
    | .run o => o
    | _ => {}
  let before ← takeUpAll m o
  let s := m.carryOut args before
  putBackAll before s.tree
  for n in s.notices do
    if o.verbose || n.level.isProminent then IO.eprintln n.line
  IO.print s.stdout
  IO.eprint s.stderr
  return s.exit.toUInt32
