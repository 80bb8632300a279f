import ZigReflect.Files.Error
import ZigReflect.Files.Path
import ZigReflect.Keyed

/-!
# File trees

The files and directories that a run sees, as a value. An operation that
changes files gives the changed tree, and one that fails gives the error. A
path is followed step by step from a directory; what it leads to is named by
its location, the names on the way from the root.
-/

namespace ZigReflect

/-- The names on the way from the root. -/
abbrev Location := List String

/-- A file with its bytes, or a directory with what it holds. -/
inductive Tree where
  | file (bytes : ByteArray)
  | dir (entries : List (String × Tree))

/-- The empty directory. -/
instance : Inhabited Tree := ⟨.dir []⟩

/-- What a path leads to. -/
inductive Target where
  | found (location : Location) (node : Tree)
  /-- Nothing yet, in a directory that is there. -/
  | vacant (location : Location)

namespace Tree

/-- Whether it is a directory. -/
def isDirectory : Tree → Bool
  | .dir _ => true
  | .file _ => false

/-- What a directory holds; a file holds nothing. -/
def entries : Tree → List (String × Tree)
  | .dir entries => entries
  | .file _ => []

/-- What is at a location. -/
def get? : Tree → Location → Option Tree
  | t, [] => some t
  | t, name :: rest => (t.entries.lookup name).bind (get? · rest)

/-- Puts something at a location, in the place of what was there. Directories
on the way that are missing are made. -/
def put : Tree → Location → Tree → Tree
  | _, [], node => node
  | t, name :: rest, node =>
    .dir (Keyed.set t.entries name (put ((t.entries.lookup name).getD (.dir [])) rest node))

/-- Removes what is at a location. -/
def erase : Tree → Location → Tree
  | t, [] => t
  | t, [name] => .dir (t.entries.filter fun x => x.1 ≠ name)
  | t, name :: rest =>
    match t.entries.lookup name with
    | some inner => .dir (Keyed.set t.entries name (erase inner rest))
    | none => t

/-- The names on the way to a directory, innermost first, each with what it
names. -/
abbrev Trail := List (String × Tree)

/-- Where a trail leads. -/
def Trail.location (trail : Trail) : Location := (trail.map (·.1)).reverse

/-- The trail to a location. -/
def trailTo (t : Tree) (l : Location) : Trail :=
  (l.foldl (fun (trail, here) name =>
    let next := (here.entries.lookup name).getD (.dir [])
    ((name, next) :: trail, next)) (([] : Trail), t)).1

/-- Follows steps from the end of a trail. -/
def follow (t : Tree) : Trail → List String → Except FileError Target
  | trail, [] => .ok (.found trail.location ((trail.head?.map (·.2)).getD t))
  | trail, step :: rest =>
    match (trail.head?.map (·.2)).getD t with
    | .file _ => .error .notDirectory
    | .dir entries =>
      if step = "." then t.follow trail rest
      else if step = ".." then t.follow trail.tail rest
      else if 255 < step.utf8ByteSize then .error .nameTooLong
      else
        match entries.lookup step with
        | some node => t.follow ((step, node) :: trail) rest
        | none =>
          if rest.isEmpty then .ok (.vacant (trail.location ++ [step])) else .error .notFound

/-- Whether a text has a character that no file name can have. -/
def hasNul (s : String) : Bool :=
  s.toList.any (·.toNat = 0)

/-- How many bytes a path can have. -/
def maxPath : Nat := 4095

/-- What the steps of a path lead to, whether or not a slash follows them. -/
def walk (t : Tree) (cwd : Location) (p : FilePath) (steps : List String) :
    Except FileError Target :=
  if p.pieces.any hasNul then .error .badName
  else if p.isEmpty then .error .notFound
  else if maxPath < p.size then .error .nameTooLong
  else t.follow (if p.absolute then [] else t.trailTo cwd) steps

/-- What a path leads to from a working directory. -/
def target (t : Tree) (cwd : Location) (p : FilePath) : Except FileError Target :=
  match t.walk cwd p p.steps with
  | .ok (.found l (.file bytes)) =>
    if p.slash then .error .notDirectory else .ok (.found l (.file bytes))
  | r => r

/-- Whether a path leads to a file or directory. -/
def exists? (t : Tree) (cwd : Location) (p : FilePath) : Bool :=
  match t.target cwd p with
  | .ok (.found _ _) => true
  | _ => false

/-- Whether a path leads to a file. -/
def isFile (t : Tree) (cwd : Location) (p : FilePath) : Bool :=
  match t.target cwd p with
  | .ok (.found _ (.file _)) => true
  | _ => false

/-- Whether a path leads to a directory. -/
def isDir (t : Tree) (cwd : Location) (p : FilePath) : Bool :=
  match t.target cwd p with
  | .ok (.found _ (.dir _)) => true
  | _ => false

/-- The bytes of a file. -/
def readBytes (t : Tree) (cwd : Location) (path : String) : Except FileError ByteArray :=
  match t.target cwd (.ofText path) with
  | .ok (.found _ (.file bytes)) => .ok bytes
  | .ok (.found _ (.dir _)) => .error .isDirectory
  | .ok (.vacant _) => .error .notFound
  | .error e => .error e

/-- The text of a file. -/
def readText (t : Tree) (cwd : Location) (path : String) : Except FileError String :=
  match t.readBytes cwd path with
  | .ok bytes =>
    match String.fromUTF8? bytes with
    | some s => .ok s
    | none => .error .notText
  | .error e => .error e

/-- Where a file can be written: at a path that leads to a file or to a vacant
place. A name with a slash after it is taken for a directory. -/
def writable (t : Tree) (cwd : Location) (p : FilePath) : Except FileError Location :=
  if p.slash && !(p.steps.getLast?.any FilePath.isDots) then
    match t.walk cwd p p.steps.dropLast with
    | .ok (.found _ (.dir _)) => .error .isDirectory
    | .ok (.found _ (.file _)) => .error .notDirectory
    | .ok (.vacant _) => .error .notFound
    | .error e => .error e
  else
    match t.target cwd p with
    | .ok (.found l (.file _)) => .ok l
    | .ok (.found _ (.dir _)) => .error .isDirectory
    | .ok (.vacant l) => .ok l
    | .error e => .error e

/-- Writes a file, new or in the place of one that is there. -/
def write (t : Tree) (cwd : Location) (path : String) (bytes : ByteArray) :
    Except FileError Tree :=
  (t.writable cwd (.ofText path)).map fun l => t.put l (.file bytes)

/-- Removes a file. -/
def remove (t : Tree) (cwd : Location) (path : String) : Except FileError Tree :=
  match t.target cwd (.ofText path) with
  | .ok (.found l (.file _)) => .ok (t.erase l)
  | .ok (.found _ (.dir _)) => .error .isDirectory
  | .ok (.vacant _) => .error .notFound
  | .error e => .error e

/-- Makes the directory that a path leads to. -/
def makeDir (t : Tree) (cwd : Location) (p : FilePath) : Except FileError Tree :=
  match t.walk cwd p p.steps with
  | .ok (.found _ _) => .error .exists
  | .ok (.vacant l) => .ok (t.put l (.dir []))
  | .error e => .error e

/-- Makes the innermost of some directories that can be made, or finds one that
is there. The rest are those inside of it, outermost first. -/
def firstDir (t : Tree) (cwd : Location) :
    List FilePath → List FilePath → Except FileError (Tree × List FilePath)
  | [], inner => .ok (t, inner)
  | p :: outer, inner =>
    match t.makeDir cwd p with
    | .ok t => .ok (t, inner)
    | .error .notFound => t.firstDir cwd outer (p :: inner)
    | .error .exists => if t.isDir cwd p then .ok (t, inner) else .error .exists
    | .error e => .error e

/-- Makes directories one after another; one that is there is left. Those that
have been made stay when a later one fails. -/
def makeEach (t : Tree) (cwd : Location) : List FilePath → Tree × Except FileError Unit
  | [] => (t, .ok ())
  | p :: inner =>
    match t.makeDir cwd p with
    | .ok t => t.makeEach cwd inner
    | .error .exists =>
      if t.isDir cwd p then t.makeEach cwd inner else (t, .error .exists)
    | .error e => (t, .error e)

/-- Makes a directory and, where they are missing, the directories it stands
in. -/
def makeDirs (t : Tree) (cwd : Location) (p : FilePath) : Tree × Except FileError Unit :=
  match t.firstDir cwd p.ancestors [] with
  | .ok (t, inner) => t.makeEach cwd inner
  | .error e => (t, .error e)

/-- Makes the directory that a file stands in, unless it is there. -/
def makeParent (t : Tree) (cwd : Location) (path : String) : Tree × Except FileError Unit :=
  match (FilePath.ofText path).parent? with
  | none => (t, .ok ())
  | some p => if p.isEmpty || t.exists? cwd p then (t, .ok ()) else t.makeDirs cwd p

mutual

/-- The files of a tree, with their locations. -/
def files : Tree → List (Location × ByteArray)
  | .file bytes => [([], bytes)]
  | .dir entries => filesAmong entries

/-- The files among some entries, with their locations. -/
def filesAmong : List (String × Tree) → List (Location × ByteArray)
  | [] => []
  | (name, t) :: rest => (files t).map (fun x => (name :: x.1, x.2)) ++ filesAmong rest

end

/-- The files below a location, with their paths from there. -/
def filesBelow (t : Tree) (l : Location) : List (String × ByteArray) :=
  ((t.get? l).map files).getD [] |>.map fun x => ("/".intercalate x.1, x.2)

end Tree

end ZigReflect
