import ZigReflect.Keyed
import ZigReflect.Text.Find
import ZigReflect.Toml.Value

/-!
# Merging TOML

Tables are merged key by key, and any other value replaces what was there.
Keys are read without regard to the case of their letters. The keys of a layer
are paths into what the layers below it set: names with points between them,
and places of arrays in brackets.

The fields of a layer and of its tables are merged in the order they come in.
They come out of maps, which have no order of their own: what a text says is
any of its reorderings (`Reordered`). The order tells only when keys differ in
nothing but case.
-/

namespace ZigReflect.Toml

open ZigReflect.Text

/-- The fields of a table; a value of another kind has none. -/
def fields : Toml → List (String × Toml)
  | .table fields => fields
  | _ => []

/-- What a key of a table holds, or a new table. -/
def fieldOrTable (into : List (String × Toml)) (key : String) : Toml :=
  (into.lookup key).getD (.table [])

mutual

/-- Sets a key: a table is merged into what is there, and any other value
replaces it. -/
def mergeField (into : List (String × Toml)) (key : String) : Toml → List (String × Toml)
  | .table incoming => Keyed.set into key (mergeFields (fieldOrTable into key) incoming)
  | v => Keyed.set into key v

/-- Merges fields into a value. A value that is no table gives way to the first
field. -/
def mergeFields (into : Toml) : List (String × Toml) → Toml
  | [] => into
  | (key, v) :: rest => mergeFields (.table (mergeField into.fields (lower key) v)) rest

end

/-- One step of a path. -/
inductive Step where
  | key (name : String)
  /-- A place of an array; a negative one is counted from the end. -/
  | place (i : Int)
deriving DecidableEq, Repr, Inhabited

/-- The items of an array; a value of another kind has none. -/
def items : Toml → List Toml
  | .array items => items
  | _ => []

/-- The index of a place in an array of a length. -/
def index (i : Int) (length : Nat) : Nat :=
  if 0 ≤ i then i.toNat else length - i.natAbs

/-- Changes a place of an array, which grows to have it. -/
def changePlace (i : Int) (f : Toml → Toml) (items : List Toml) : List Toml :=
  let n := index i items.length
  let grown := items ++ List.replicate (n + 1 - items.length) .nothing
  grown.modify n f

/-- Sets what a path leads to. What stands on the way and is no table or array
gives way to one. -/
def assign (v : Toml) : List Step → Toml → Toml
  | [], _ => v
  | [.key name], into => .table (mergeField into.fields name v)
  | .key name :: path, into =>
    .table (Keyed.set into.fields name
      (assign v path ((into.fields.lookup name).getD .nothing)))
  | .place i :: path, into => .array (changePlace i (assign v path) into.items)

/-- Whether the character can stand in a name of a path. -/
def isPathChar (c : Char) : Bool :=
  isLetter c || isDigit c || c == '_' || c == '-' || c == ' '

/-- Whether the character is a blank or a tab. -/
def isGap (c : Char) : Bool := c == ' ' || c == '\t'

/-- A place in brackets, after the opening one: an integer of 64 bits, with
blanks around it. -/
def place? (cs : List Char) : Option (Step × List Char) :=
  let cs := cs.dropWhile isGap
  let (negative, cs) := match cs with
    | '-' :: rest => (true, rest)
    | cs => (false, cs)
  let digits := cs.takeWhile isDigit
  let n : Int := digitsValue digits
  let i := if negative then -n else n
  match (cs.dropWhile isDigit).dropWhile isGap with
  | ']' :: rest =>
    if digits.isEmpty || i < -9223372036854775808 || 9223372036854775807 < i then none
    else some (.place i, rest)
  | _ => none

/-- The steps after the first name of a path. -/
def steps? : Nat → List Char → Option (List Step)
  | _, [] => some []
  | 0, _ => none
  | fuel + 1, '.' :: rest =>
    let name := rest.takeWhile isPathChar
    if name.isEmpty then none
    else (steps? fuel (rest.dropWhile isPathChar)).map (.key (String.ofList name) :: ·)
  | fuel + 1, '[' :: rest =>
    (place? rest).bind fun (step, rest) => (steps? fuel rest).map (step :: ·)
  | _, _ => none

/-- The path that a key spells. A key of any other form is one name. -/
def keyPath (key : String) : List Step :=
  let cs := key.toList
  let name := cs.takeWhile isPathChar
  match steps? cs.length (cs.dropWhile isPathChar) with
  | some steps => if name.isEmpty then [.key key] else .key (String.ofList name) :: steps
  | none => [.key key]

/-- The same value, but for the order of the fields of its tables. Tables in
arrays are left as they are: they are never merged. -/
inductive Reordered : Toml → Toml → Prop
  | refl (v : Toml) : Reordered v v
  | perm {fields fields' : List (String × Toml)} (h : fields.Perm fields') :
    Reordered (.table fields) (.table fields')
  | field {before after : List (String × Toml)} {key : String} {v v' : Toml}
    (h : Reordered v v') :
    Reordered (.table (before ++ (key, v) :: after)) (.table (before ++ (key, v') :: after))
  | trans {u v w : Toml} (h : Reordered u v) (h' : Reordered v w) : Reordered u w

/-- Adds the fields of a layer, in the order they come in, to what the layers
below it set. -/
def addLayer (below : Toml) (layer : List (String × Toml)) : Toml :=
  layer.foldl (fun root x => assign x.2 (keyPath (lower x.1)) root) below

end ZigReflect.Toml
