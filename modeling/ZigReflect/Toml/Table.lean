import ZigReflect.Keyed
import ZigReflect.Toml.Value

/-!
# Tables while they are read

A table remembers how it came about, because that decides whether it may be
extended: a table that only stands on the way to another one may still get a
header of its own, a table made by a dotted key may be extended by dotted keys,
and anything else is closed.
-/

namespace ZigReflect.Toml

mutual

/-- A table while it is read. -/
inductive Draft where
  /-- `implied` unless it has a header, `dotted` when dotted keys made it. -/
  | mk (implied dotted : Bool) (items : List (String × Item))

/-- What a key holds while it is read. -/
inductive Item where
  | value (v : Toml)
  | table (t : Draft)
  /-- A list of tables under one header, the last one first. -/
  | tables (latest : Draft) (earlier : List Draft)

end

instance : Inhabited Draft := ⟨.mk false false []⟩

namespace Draft

/-- A table without fields. -/
def empty : Draft := .mk false false []

/-- The fields of a table. -/
def items : Draft → List (String × Item)
  | .mk _ _ items => items

/-- Whether the table has no header of its own. -/
def implied : Draft → Bool
  | .mk implied _ _ => implied

/-- Whether dotted keys made the table. -/
def dotted : Draft → Bool
  | .mk _ dotted _ => dotted

/-- Sets a key, in its place or at the end. -/
def set (t : Draft) (key : String) (item : Item) : Draft :=
  match t with
  | .mk implied dotted items => .mk implied dotted (Keyed.set items key item)

/-- Changes the table that a path leads to. Tables on the way are made where
they are missing, and the path of a dotted key may not enter a table that has
a header. -/
def change (byDots : Bool) (f : Draft → Option Draft) : List String → Draft → Option Draft
  | [], t => f t
  | key :: path, t =>
    match t.items.lookup key with
    | none =>
      (change byDots f path (.mk true byDots [])).map fun inner => t.set key (.table inner)
    | some (.value _) => none
    | some (.tables latest earlier) =>
      (change byDots f path latest).map fun inner => t.set key (.tables inner earlier)
    | some (.table inner) =>
      if byDots && !inner.implied then none
      else (change byDots f path inner).map fun inner => t.set key (.table inner)

/-- Enters a value under a new key of a table. A key with a path enters only a
table that dotted keys made. -/
def enter (path : List String) (key : String) (v : Toml) (t : Draft) : Option Draft :=
  change true
    (fun inner =>
      if !path.isEmpty && !inner.dotted then none
      else if (inner.items.lookup key).isSome then none
      else some (inner.set key (.value v)))
    path t

/-- Opens a table under a header: a new one, or one that was only implied. -/
def openTable (path : List String) (key : String) (t : Draft) : Option Draft :=
  change false
    (fun parent =>
      match parent.items.lookup key with
      | none => some (parent.set key (.table empty))
      | some (.table (.mk true false items)) =>
        some (parent.set key (.table (.mk false false items)))
      | some _ => none)
    path t

/-- Opens the next table of a list under a header. -/
def openListed (path : List String) (key : String) (t : Draft) : Option Draft :=
  change false
    (fun parent =>
      match parent.items.lookup key with
      | none => some (parent.set key (.tables empty []))
      | some (.tables latest earlier) =>
        some (parent.set key (.tables empty (latest :: earlier)))
      | some _ => none)
    path t

mutual

/-- The finished fields of a table. -/
def finish : Draft → List (String × Toml)
  | .mk _ _ items => finishItems items

/-- The finished fields of a list of items. -/
def finishItems : List (String × Item) → List (String × Toml)
  | [] => []
  | (key, item) :: rest => (key, finishItem item) :: finishItems rest

/-- The finished value of an item. -/
def finishItem : Item → Toml
  | .value v => v
  | .table t => .table (finish t)
  | .tables latest earlier => .array (finishEarlier earlier [.table (finish latest)])

/-- The finished tables of a list, in front of those that follow. -/
def finishEarlier : List Draft → List Toml → List Toml
  | [], after => after
  | t :: earlier, after => finishEarlier earlier (.table (finish t) :: after)

end

end Draft

end ZigReflect.Toml
