import ZigReflect.Drift.Compact
import ZigReflect.Drift.Lines

/-!
# Unified diffs

The chunks of a script are gathered into blocks: runs of kept lines, and
changes with all deleted lines before all inserted ones. Blocks with at most
three kept lines around them form hunks, each under a header that says which
lines of the two texts it covers.
-/

namespace ZigReflect.Drift

/-- Lines that both texts share, or lines that one text has for others. A run
of kept lines has them as `old` and as `new`. -/
structure Block where
  kept : Bool
  oldAt : Nat
  newAt : Nat
  old : List String
  new : List String
deriving DecidableEq, Repr, Inhabited

/-- Adds a chunk to a change that is open. -/
def Block.add (b : Block) (c : Chunk) : Block :=
  match c.action with
  | .delete =>
    { b with
      oldAt := if b.old.isEmpty then c.oldAt else b.oldAt
      old := b.old ++ c.lines }
  | .insert =>
    { b with
      newAt := if b.new.isEmpty then c.newAt else b.newAt
      new := b.new ++ c.lines }
  | .keep => { b with old := b.old ++ c.lines, new := b.new ++ c.lines }

/-- Gathers chunks into blocks; `done` holds the blocks so far, newest first. -/
def gather : List Chunk → List Block → List Block
  | [], done => done.reverse
  | c :: rest, done =>
    let kept := decide (c.action = .keep)
    match done with
    | b :: before =>
      if b.kept = kept then gather rest (b.add c :: before)
      else gather rest (⟨kept, c.oldAt, c.newAt, c.oldLines, c.newLines⟩ :: done)
    | [] => gather rest [⟨kept, c.oldAt, c.newAt, c.oldLines, c.newLines⟩]

/-- How many kept lines stand around a change. -/
def context : Nat := 3

/-- The last lines of a run of kept lines. -/
def Block.tail (b : Block) (n : Nat) : Block :=
  let cut := b.old.length - n
  { b with
    oldAt := b.oldAt + cut, newAt := b.newAt + cut, old := b.old.drop cut, new := b.new.drop cut }

/-- The first lines of a run of kept lines. -/
def Block.head (b : Block) (n : Nat) : Block :=
  { b with old := b.old.take n, new := b.new.take n }

/-- Cuts a run of kept lines at the start to the context. -/
def trimFirst : List Block → List Block
  | b :: rest => if b.kept then b.tail context :: rest else b :: rest
  | [] => []

/-- Cuts a run of kept lines at the end to the context. -/
def trimLast : List Block → List Block
  | [b] => if b.kept then [b.head context] else [b]
  | b :: rest => b :: trimLast rest
  | [] => []

/-- Splits blocks into hunks at long runs of kept lines; `open_` is the hunk so
far, newest first. A hunk without a change is none. -/
def splitHunks : List Block → List Block → List (List Block)
  | [], open_ => if open_.any (!·.kept) then [open_.reverse] else []
  | b :: rest, open_ =>
    if b.kept && 2 * context < b.old.length then
      (b.head context :: open_).reverse :: splitHunks rest [b.tail context]
    else splitHunks rest (b :: open_)

/-- The hunks of a list of blocks. -/
def hunks (blocks : List Block) : List (List Block) :=
  splitHunks (trimLast (trimFirst blocks)) []

/-- A range of lines in a header, from its start and end. -/
def rangeText (start stop : Nat) : String :=
  match stop - start with
  | 0 => toString start ++ ",0"
  | 1 => toString (start + 1)
  | n => toString (start + 1) ++ "," ++ toString n

/-- The header of a hunk. -/
def headerText (hunk : List Block) : String :=
  match hunk, hunk.getLast? with
  | first :: _, some last =>
    "@@ -" ++ rangeText first.oldAt (last.oldAt + last.old.length) ++
      " +" ++ rangeText first.newAt (last.newAt + last.new.length) ++ " @@\n"
  | _, _ => ""

/-- A line of a diff. A line without an end is followed by a remark. -/
def lineText (mark : String) (line : String) : String :=
  mark ++ line ++ (if isEnded line then "" else "\n\\ No newline at end of file\n")

/-- The lines of a block. -/
def blockText (b : Block) : String :=
  if b.kept then String.join (b.old.map (lineText " "))
  else String.join (b.old.map (lineText "-")) ++ String.join (b.new.map (lineText "+"))

/-- A hunk with its header. -/
def hunkText (hunk : List Block) : String :=
  headerText hunk ++ String.join (hunk.map blockText)

/-- The unified diff of two texts under their names, empty when they agree. -/
def unified (oldName newName old new : String) : String :=
  if old = new then ""
  else
    let blocks := gather (compact (script (lines old) (lines new))) []
    match hunks blocks with
    | [] => ""
    | hs => "--- " ++ oldName ++ "\n+++ " ++ newName ++ "\n" ++ String.join (hs.map hunkText)

end ZigReflect.Drift
