import ZigReflect.Files.Tree
import ZigReflect.Settings.Formats

/-!
# Machines

What a run finds around it and does not change: where it works, the environment, the commands,
and how its settings are read. The files are the part that changes, so they are passed from step to
step as a `Tree`.
-/

namespace ZigReflect

/-- How a command ends. -/
inductive Ending where
  /-- It cannot be started. -/
  | unavailable (error : FileError)
  /-- It ends with a code and with what it has to complain of. -/
  | exited (code : Nat) (complaint : String)
  /-- A signal ends it. -/
  | killed (complaint : String)
deriving DecidableEq, Repr, Inhabited

/-- What a run finds around it. -/
structure Machine where
  /-- Where relative paths start. -/
  cwd : Location
  env : List (String × String)
  /-- The directory of the user's settings. -/
  configHome : String
  /-- The path of the file that text is formatted in. -/
  scratch : String
  /-- What a command with its arguments does to the files, and how it ends. -/
  launch : Tree → String → List String → Tree × Ending
  /-- How settings are read, in all that the program does not decide. -/
  reader : SettingsReader := .plain

namespace Machine

/-- The text of a file. -/
def readText (m : Machine) (t : Tree) (path : String) : Except FileError String :=
  t.readText m.cwd path

/-- Whether a path leads to a file. -/
def isFile (m : Machine) (t : Tree) (path : String) : Bool :=
  t.isFile m.cwd (.ofText path)

end Machine

end ZigReflect
