import ZigReflect.Pattern.Escape

/-!
# Bracketed sets

The sets that are written in brackets, with ranges, named sets, nested sets and
operations on them. With each set it is known how deep its parts are nested.
-/

namespace ZigReflect.Pattern

open ZigReflect.Text

/-- A set and how deep it is nested. -/
structure NestedSet where
  set : CharSet
  depth : Nat := 0

/-- One item of a bracketed set: a character that may start a range, or a set. -/
inductive SetItem where
  | char (c : Char)
  | set (s : CharSet)

/-- The item at the start of a list of characters. Where only ASCII counts, an
item is ASCII. -/
def setItem? (f : Flags) : List Char → Option (SetItem × List Char)
  | [] => none
  | '\\' :: rest =>
    match escape? f rest with
    | some (.char c _, rest) => if f.ascii && 0x80 ≤ c.toNat then none else some (.char c, rest)
    | some (.set s, rest) => some (.set s, rest)
    | _ => none
  | c :: rest => if f.ascii && 0x80 ≤ c.toNat then none else some (.char c, rest)

/-- The set of an item. -/
def SetItem.toSet : SetItem → CharSet
  | .char c => .single c
  | .set s => s

/-- An item or a range of items. A hyphen before the closing bracket or before
another hyphen makes no range. -/
def setRange? (f : Flags) (cs : List Char) : Option (CharSet × List Char) :=
  match setItem? f cs with
  | none => none
  | some (first, rest) =>
    match f.gap rest with
    | '-' :: after =>
      if f.peek after == some ']' || f.peek after == some '-' then
        some (first.toSet, '-' :: after)
      else
        match first, setItem? f (f.gap after) with
        | .char a, some (.char b, rest) => if a ≤ b then some (.range a b, rest) else none
        | _, _ => none
    | rest => some (first.toSet, rest)

/-- A named set between colons, whether its complement is meant, and what
follows. -/
def namedSet? : List Char → Option (CharSet × Bool × List Char)
  | ':' :: rest =>
    let (negated, rest) := match rest with
      | '^' :: rest => (true, rest)
      | rest => (false, rest)
    match rest.dropWhile (· != ':') with
    | ':' :: ']' :: after =>
      (CharSet.ascii? (String.ofList (rest.takeWhile (· != ':')))).map fun s =>
        (s, negated, after)
    | _ => none
  | _ => none

/-- The operations on bracketed sets. -/
inductive SetOp where
  | intersection
  | difference
  | symmetric
deriving DecidableEq, Repr, Inhabited

/-- The result of an operation. -/
def SetOp.apply : SetOp → CharSet → CharSet → CharSet
  | .intersection => .intersection
  | .difference => .difference
  | .symmetric => .symmetric

/-- A bracketed set that is still open. -/
structure OpenSet where
  negated : Bool
  /-- The set before the last operation, and the operation. -/
  pending : Option (NestedSet × SetOp) := none
  /-- The items since the last operation. -/
  items : List NestedSet := []

namespace OpenSet

/-- The union of the items. Two or more of them are nested in their union. -/
def unionOf (o : OpenSet) : NestedSet :=
  match o.items with
  | [] => ⟨.none, 0⟩
  | [s] => s
  | items =>
    ⟨.ofRanges (items.flatMap (·.set.ranges)),
      items.foldl (fun d s => Nat.max d s.depth) 0 + 1⟩

/-- Applies the operation that waits for its right side. -/
def value (f : Flags) (o : OpenSet) : NestedSet :=
  let right := o.unionOf
  match o.pending with
  | none => right
  | some (left, op) =>
    ⟨op.apply (f.fold left.set) (f.fold right.set), Nat.max left.depth right.depth + 1⟩

/-- The set that a closing bracket completes. -/
def close? (f : Flags) (o : OpenSet) : Option NestedSet :=
  let v := o.value f
  (f.negate? o.negated (f.fold v.set)).map fun s => ⟨s, v.depth + 1⟩

/-- Adds an item. -/
def add (o : OpenSet) (s : NestedSet) : OpenSet :=
  { o with items := s :: o.items }

/-- Starts the right side of an operation. -/
def operate (f : Flags) (op : SetOp) (o : OpenSet) : OpenSet :=
  { o with pending := some (o.value f, op), items := [] }

end OpenSet

/-- What follows an opening bracket: a circumflex, hyphens, and a closing
bracket that stands for itself. -/
def openSet? (f : Flags) (cs : List Char) : Option (OpenSet × List Char) :=
  let (negated, cs) := match f.gap cs with
    | '^' :: rest => (true, rest)
    | cs => (false, cs)
  (f.takeUntil (· != '-') false cs).map fun (hyphens, rest) =>
    let start : OpenSet := { negated, items := hyphens.map fun c => ⟨.single c, 0⟩ }
    match hyphens, rest with
    | [], ']' :: rest => (start.add ⟨.single ']', 0⟩, rest)
    | _, rest => (start, rest)

/-- Reads a bracketed set after its opening bracket. The sets around the
innermost one are on the stack; the fuel is spent by one for each step. -/
def readSet (f : Flags) :
    Nat → OpenSet → List OpenSet → List Char → Option (NestedSet × List Char)
  | 0, _, _, _ => none
  | fuel + 1, o, outer, cs =>
    match f.gap cs with
    | [] => none
    | '[' :: rest =>
      match namedSet? rest with
      | some (s, negated, rest) =>
        match f.negate? negated (f.fold s) with
        | some s => readSet f fuel (o.add ⟨s, 0⟩) outer rest
        | none => none
      | none =>
        match openSet? f rest with
        | some (inner, rest) => readSet f fuel inner (o :: outer) rest
        | none => none
    | ']' :: rest =>
      match o.close? f, outer with
      | none, _ => none
      | some s, [] => some (s, rest)
      | some s, next :: outer => readSet f fuel (next.add s) outer rest
    | '&' :: '&' :: rest => readSet f fuel (o.operate f .intersection) outer rest
    | '-' :: '-' :: rest => readSet f fuel (o.operate f .difference) outer rest
    | '~' :: '~' :: rest => readSet f fuel (o.operate f .symmetric) outer rest
    | cs =>
      match setRange? f cs with
      | some (s, rest) => readSet f fuel (o.add ⟨s, 0⟩) outer rest
      | none => none

/-- The bracketed set after an opening bracket, and what follows it. -/
def bracketed? (f : Flags) (cs : List Char) : Option (NestedSet × List Char) :=
  (openSet? f cs).bind fun (o, rest) => readSet f (cs.length + 1) o [] rest

end ZigReflect.Pattern
