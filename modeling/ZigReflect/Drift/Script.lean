/-!
# Edit scripts

An edit script turns one list of lines into another: it keeps, deletes and
inserts lines in chunks. `script` finds one by divide and conquer. The lines
that agree at both ends are kept, and the rest is cut where a path of edits
from the start meets one from the end, searched for with growing numbers of
edits.
-/

namespace ZigReflect.Drift

/-- What a chunk does with its lines. -/
inductive Action where
  | keep
  | delete
  | insert
deriving DecidableEq, Repr, Inhabited

/-- Lines that are kept, deleted or inserted together, and the places in the
two texts where the chunk counts itself to start. -/
structure Chunk where
  action : Action
  oldAt : Nat
  newAt : Nat
  lines : List String
deriving DecidableEq, Repr, Inhabited

/-- The lines of the old text that a chunk accounts for. -/
def Chunk.oldLines (c : Chunk) : List String :=
  match c.action with
  | .insert => []
  | _ => c.lines

/-- The lines of the new text that a chunk accounts for. -/
def Chunk.newLines (c : Chunk) : List String :=
  match c.action with
  | .delete => []
  | _ => c.lines

/-- How many lines agree at the start. -/
def commonPrefix : List String → List String → Nat
  | a :: as, b :: bs => if a = b then commonPrefix as bs + 1 else 0
  | _, _ => 0

/-- How many lines agree at the end. -/
def commonSuffix (as bs : List String) : Nat :=
  commonPrefix as.reverse bs.reverse

/-- The furthest place reached on a diagonal, and where its run of agreeing
lines started. The places count lines of the old text. -/
structure Reach where
  start : Nat
  furthest : Nat
deriving Inhabited

/-- Where a diagonal is entered, from the reaches of its neighbours above and
below with one edit less. -/
def entry : Option Nat → Option Nat → Nat
  | none, none => 0
  | none, some below => below + 1
  | some above, none => above
  | some above, some below => if below < above then above else below + 1

/-- The place on the new text of a place on the old one, on a diagonal. -/
def across (x : Nat) (k : Int) : Nat := ((x : Int) - k).toNat

/-- How many lines agree from two places on, at most `most`. -/
def agreement (old new : Array String) : Nat → Nat → Nat → Nat
  | 0, _, _ => 0
  | most + 1, x, y =>
    match old[x]?, new[y]? with
    | some a, some b => if a = b then agreement old new most (x + 1) (y + 1) + 1 else 0
    | _, _ => 0

/-- The reaches with `d` edits on the diagonals `d`, `d - 2`, …, `-d`, from
those with one edit less. -/
def reaches (old new : Array String) (d : Nat) (previous : Array Reach) : Array Reach :=
  (Array.range (d + 1)).map fun (i : Nat) =>
    let above := if i = 0 then none else previous[i - 1]?
    let x := if d = 0 then 0 else entry (above.map (·.furthest)) (previous[i]?.map (·.furthest))
    ⟨x, x + agreement old new old.size x (across x (d - 2 * i))⟩

/-- The reach on diagonal `k` among those with `d` edits. -/
def onDiagonal (d : Nat) (rs : Array Reach) (k : Int) : Option Reach :=
  if k.natAbs ≤ d then rs[(((d : Int) - k) / 2).toNat]? else none

/-- Whether a reach on diagonal `k` meets one from the other side. Reaches of
the other side count from the ends. -/
def meets (n : Nat) (delta : Int) (others : Array Reach) (othersEdits : Nat) (k : Int)
    (r : Reach) : Bool :=
  match onDiagonal othersEdits others (delta - k) with
  | some o => n ≤ r.furthest + o.furthest
  | none => false

/-- The first diagonal with `d` edits on which two sides meet, with the reach of
the first side. -/
def meeting (n : Nat) (delta : Int) (d : Nat) (these others : Array Reach) (othersEdits : Nat) :
    Option (Int × Reach) :=
  (List.range (d + 1)).findSome? fun (i : Nat) =>
    let k : Int := d - 2 * i
    match these[i]? with
    | some r => if meets n delta others othersEdits k r then some (k, r) else none
    | none => none

/-- Two texts to be cut, read from their starts and from their ends. -/
structure Sides where
  old : Array String
  new : Array String
  oldBack : Array String
  newBack : Array String

/-- Where to cut two texts that agree at neither end: the search with `d`
edits, at most `fuel` more. -/
def cutFrom (s : Sides) (delta : Int) :
    Nat → Nat → Array Reach → Array Reach → Option (Nat × Nat)
  | 0, _, _, _ => none
  | fuel + 1, d, forward, backward =>
    let forward' := reaches s.old s.new d forward
    let odd := delta % 2 ≠ 0
    match if odd && 0 < d then meeting s.old.size delta d forward' backward (d - 1) else none with
    | some (k, r) => some (r.start, across r.start k)
    | none =>
      let backward' := reaches s.oldBack s.newBack d backward
      match if odd then none else meeting s.old.size delta d backward' forward' d with
      | some (k, r) =>
        some (s.old.size - r.furthest, s.new.size - across r.furthest k)
      | none => cutFrom s delta fuel (d + 1) forward' backward'

/-- Where to cut two lists that agree at neither end. -/
def cut (old new : List String) : Option (Nat × Nat) :=
  cutFrom ⟨old.toArray, new.toArray, old.reverse.toArray, new.reverse.toArray⟩
    ((old.length : Int) - new.length) ((old.length + new.length + 1) / 2 + 1) 0 #[] #[]

/-- The chunk of some lines, or none when there are no lines. -/
def chunk (action : Action) (oldAt newAt : Nat) (lines : List String) : List Chunk :=
  if lines.isEmpty then [] else [⟨action, oldAt, newAt, lines⟩]

/-- Edits between two lists of lines that start at the given places. -/
def conquer : Nat → Nat → Nat → List String → List String → List Chunk
  | 0, oldAt, newAt, old, new =>
    chunk .delete oldAt newAt old ++ chunk .insert (oldAt + old.length) newAt new
  | fuel + 1, oldAt, newAt, old, new =>
    let p := commonPrefix old new
    let old' := old.drop p
    let new' := new.drop p
    let s := commonSuffix old' new'
    let o := old'.take (old'.length - s)
    let n := new'.take (new'.length - s)
    let oAt := oldAt + p
    let nAt := newAt + p
    let middle :=
      if o.isEmpty || n.isEmpty then chunk .delete oAt nAt o ++ chunk .insert oAt nAt n
      else match cut o n with
        | some (x, y) =>
          conquer fuel oAt nAt (o.take x) (n.take y) ++
            conquer fuel (oAt + x) (nAt + y) (o.drop x) (n.drop y)
        | none => chunk .delete oAt nAt o ++ chunk .insert oAt nAt n
    chunk .keep oldAt newAt (old.take p) ++ middle ++
      chunk .keep (oAt + o.length) (nAt + n.length) (old'.drop (old'.length - s))

/-- An edit script from one list of lines to another. -/
def script (old new : List String) : List Chunk :=
  conquer (old.length + new.length + 1) 0 0 old new

end ZigReflect.Drift
