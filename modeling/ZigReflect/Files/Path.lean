import ZigReflect.Text.Find

/-!
# Paths

A path is kept as the pieces between its slashes. Steps to the directory itself
and to the parent are kept, because where they lead depends on the files.
-/

namespace ZigReflect

/-- A path as the pieces between its slashes. -/
structure FilePath where
  /-- Whether the path starts at the root. -/
  absolute : Bool
  /-- The pieces, without the empty one in front of the root. -/
  pieces : List String
deriving DecidableEq, Repr, Inhabited

namespace FilePath

/-- Reads a path. -/
def ofText (s : String) : FilePath :=
  match (Text.splitAt '/' s.toList).map String.ofList with
  | "" :: p :: rest => ⟨true, p :: rest⟩
  | pieces => ⟨false, pieces⟩

/-- The text of the path. -/
def text (p : FilePath) : String :=
  (if p.absolute then "/" else "") ++ "/".intercalate p.pieces

/-- The number of bytes of the text. -/
def size (p : FilePath) : Nat :=
  p.pieces.foldl (fun n piece => n + piece.utf8ByteSize + 1) (if p.absolute then 1 else 0) - 1

/-- Whether the path has no text. -/
def isEmpty (p : FilePath) : Bool :=
  !p.absolute && p.pieces.all (· == "") && p.pieces.length ≤ 1

/-- The steps of the path. -/
def steps (p : FilePath) : List String :=
  p.pieces.filter (· != "")

/-- Whether a step leads to the directory itself or to its parent. -/
def isDots (step : String) : Bool :=
  step == "." || step == ".."

/-- Whether a slash follows the last step. -/
def slash (p : FilePath) : Bool :=
  p.pieces.getLast? == some ""

/-- Drops what says nothing at the end of reversed pieces. A relative path keeps
the step to the directory itself that it starts with. -/
def dropVoid (absolute : Bool) : List String → List String
  | [] => []
  | piece :: rest =>
    if piece == "" || (piece == "." && (absolute || !rest.isEmpty)) then dropVoid absolute rest
    else piece :: rest

/-- The path without slashes and steps to the directory itself at its end. -/
def trimmed (p : FilePath) : FilePath :=
  { p with pieces := (dropVoid p.absolute p.pieces.reverse).reverse }

/-- The path without its last step, unless it has none. -/
def parent? (p : FilePath) : Option FilePath :=
  match dropVoid p.absolute p.pieces.reverse with
  | [] => none
  | _ :: rest => some { p with pieces := (dropVoid p.absolute rest).reverse }

/-- The path and the paths of the directories it stands in, innermost first.
The number bounds them. -/
def ancestorsUpTo : Nat → FilePath → List FilePath
  | 0, _ => []
  | n + 1, p =>
    match p.parent? with
    | none => []
    | some parent => p :: ancestorsUpTo n parent

/-- The path and the paths of the directories it stands in, innermost first.
The root and the working directory are left out. -/
def ancestors (p : FilePath) : List FilePath :=
  ancestorsUpTo (p.pieces.length + 1) p

/-- The last step, unless it leads to a directory on the way. -/
def fileName? (p : FilePath) : Option String :=
  p.trimmed.pieces.getLast?.filter fun step => !isDots step

/-- What follows the last point in a file name that does not start with it. -/
def extension? (p : FilePath) : Option String :=
  p.fileName?.bind fun name =>
    let reversed := name.toList.reverse
    match reversed.dropWhile (· != '.') with
    | _ :: stem =>
      if stem.isEmpty then none
      else some (String.ofList (reversed.takeWhile (· != '.')).reverse)
    | [] => none

/-- A path joined to a directory. -/
def join (dir file : String) : String :=
  if file.toList.head? == some '/' || dir.isEmpty then file
  else if Text.endsWith dir "/" then dir ++ file
  else dir ++ "/" ++ file

end FilePath

end ZigReflect
