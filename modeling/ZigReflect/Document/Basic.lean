import Std.Data.TreeMap
import ZigReflect.Document.Fuzzy
import ZigReflect.Reflection.Read

/-!
# Documents

A document is one reflection tree with an index of its declarations by id and
by name. The index holds positions: the child numbers on the way down from the
root. Every declaration below the root has an id in the index, and of a
repeated id the last position counts. Only container-level declarations are
found by name, those below namespaces and the internal container, and the
positions of one name are in the order of their ids.
-/

namespace ZigReflect

/-- The child numbers on the way from the root to a declaration. -/
abbrev Path := List Nat

/-- The declaration at a position below another one. -/
def Declaration.at? (d : Declaration) : Path → Option Declaration
  | [] => some d
  | i :: path => d.children[i]?.bind fun child => child.at? path

/-- Where a declaration stands in a tree, and what it is found by. -/
structure Position where
  path : Path
  id : Nat
  name : String
  /-- Whether the declaration is container-level. -/
  named : Bool
deriving DecidableEq, Repr

/-- Whether the children of a declaration of this name and kind are
container-level when the declaration is. -/
def opensScope (name : String) (kind : Kind) : Bool :=
  kind == .nameSpace || name == Declaration.internalName

/-- The positions below a list of siblings in pre-order. The siblings stand
below `above`, numbered from `i` on. -/
def positionsAmong (above : Path) (named : Bool) : Nat → List Declaration → List Position
  | _, [] => []
  | i, { id, name, kind, children, .. } :: rest =>
    ⟨above ++ [i], id, name, named⟩ ::
      (positionsAmong (above ++ [i]) (named && opensScope name kind) 0 children ++
        positionsAmong above named (i + 1) rest)

/-- The positions of all declarations below a root, in pre-order. -/
def Declaration.positions (root : Declaration) : List Position :=
  positionsAmong [] true 0 root.children

/-- Positions by id. -/
abbrev IdIndex := Std.TreeMap Nat Path

/-- Positions by name. -/
abbrev NameIndex := Std.TreeMap String (List Path)

/-- Enters positions by id; a later one replaces an earlier one. -/
def IdIndex.ofPositions (ps : List Position) : IdIndex :=
  ps.foldl (fun index p => index.insert p.id p.path) ∅

/-- Enters positions by name, in their order. -/
def NameIndex.ofPositions (ps : List Position) : NameIndex :=
  ps.foldl (fun index p => index.insert p.name (index.getD p.name [] ++ [p.path])) ∅

/-- A reflection tree with its index. -/
structure Document where
  root : Declaration
  ids : IdIndex
  names : NameIndex

namespace Document

/-- Indexes a reflection tree. -/
def ofRoot (root : Declaration) : Document :=
  let ps := root.positions
  { root
    ids := IdIndex.ofPositions ps
    names := NameIndex.ofPositions
      ((ps.filter (·.named)).mergeSort fun a b => a.id ≤ b.id) }

/-- Reads and indexes the reflection that a JSON text holds. -/
def ofText (text : String) : Json.Read Document :=
  ofRoot <$> Declaration.ofText text

/-- The declarations just below the root, in the order of their ids. -/
def topLevel (doc : Document) : List Declaration :=
  doc.root.sortedChildren

/-- The container of declarations that are not exported: the first child of
the root with its name. -/
def internal (doc : Document) : Option Declaration :=
  doc.root.children.find? fun c => c.name == Declaration.internalName

/-- The declaration with an id; of several the last one in pre-order. -/
def byId (doc : Document) (id : Nat) : Option Declaration :=
  doc.ids[id]?.bind doc.root.at?

/-- The container-level declarations with a name, in the order of their ids. -/
def byName (doc : Document) (name : String) : List Declaration :=
  (doc.names.getD name []).filterMap doc.root.at?

/-- Whether a namespace without callable members has this name. -/
def hasDataNamespace (doc : Document) (name : String) : Bool :=
  (doc.byName name).any fun d => d.kind == .nameSpace && !d.hasCallableChild

/-- How many ids there are below the root. -/
def size (doc : Document) : Nat :=
  doc.ids.size

/-- Whether one match of a search comes before another: the higher score, and
of equal scores the lesser name. -/
def precedes (a b : Int × String) : Bool :=
  b.1 < a.1 || (a.1 == b.1 && (compare a.2 b.2).isLE)

/-- The names that match a query, best first, at most `limit` of them. -/
def search (doc : Document) (query : String) (limit : Nat) : List String :=
  let hits := doc.names.keys.filterMap fun name =>
    (Fuzzy.score query name).map fun score => (score, name)
  ((hits.mergeSort precedes).take limit).map (·.2)

end Document

end ZigReflect
