import ZigReflect.Lowering.DeclarationRules
import ZigReflect.Lowering.TypeRules

/-!
# Lowering types and declarations

The rules are applied along the structure of a type or declaration. The
emissions of children are put in the order of their ids before they run.

Only an intersection leaves the structure: it continues with the children of a
declaration found by name, in the document that declaration belongs to. How
often this may happen is bounded by a depth. `Pair.depth` is one more than the
number of names in the two documents, so a chain of intersections that is not
cut off in time has come back to a declaration it started from.
-/

namespace ZigReflect.Lowering

open Emission (write reading within)

/-- Forgets whether anything was written. -/
def void (x : Emission Bool) : Emission Unit := do
  let _ ← x

/-- Runs the emissions of children in the order of their ids. -/
def inOrder (children : List (Nat × Emission Bool)) : Emission Unit :=
  Emission.all ((children.mergeSort fun a b => a.1 ≤ b.1).map fun c => void c.2)

mutual

/-- A type as Zig. -/
def type (pair : Pair) (inline : Inliner) : TypeNode → Emission Unit
  | .intrinsic name => write (Zig.primitive name)
  | .reference name arguments => reference name (types pair inline arguments)
  | .array element => array (type pair inline element)
  | .literal value => write value.render
  | .union members => union (members.zip (types pair inline members))
  | .tuple elements => tuple (types pair inline elements)
  | .intersection members => intersection inline members
  | .indexedAccess _ _ => placeholder .indexedAccess Zig.indexedAccessPlaceholder
  | .query _ => placeholder .typeQuery Zig.typeQueryPlaceholder
  | .reflection d => void (declaration pair inline d)

/-- The types of a list. -/
def types (pair : Pair) (inline : Inliner) : List TypeNode → List (Emission Unit)
  | [] => []
  | t :: ts => type pair inline t :: types pair inline ts

/-- The type of a declaration, if it has one. -/
def optionalType (pair : Pair) (inline : Inliner) : Option TypeNode → Emission Unit
  | none => pure ()
  | some t => type pair inline t

/-- A declaration as Zig, and whether anything was written. -/
def declaration (pair : Pair) (inline : Inliner) : Declaration → Emission Bool
  | d@{ children, type, .. } =>
    byKind pair d
      { type := optionalType pair inline type
        children := inOrder (declarations pair inline children) }

/-- The declarations of a list, each with its id. -/
def declarations (pair : Pair) (inline : Inliner) :
    List Declaration → List (Nat × Emission Bool)
  | [] => []
  | d :: ds => (d.id, declaration pair inline d) :: declarations pair inline ds

end

/-- A declaration is written by the rule of its kind. -/
theorem declaration_eq (pair : Pair) (inline : Inliner) (d : Declaration) :
    declaration pair inline d =
      byKind pair d
        { type := optionalType pair inline d.type
          children := inOrder (declarations pair inline d.children) } := by
  cases d
  rw [declaration]

/-- The children of a declaration in the order of their ids. -/
def fields (pair : Pair) (inline : Inliner) (d : Declaration) : Emission Unit :=
  inOrder (declarations pair inline d.children)

/-- Writes the fields of an intersection member from the document that has it, at
most `depth` intersections deep. -/
def inliner (pair : Pair) : Nat → Inliner
  | 0 => fun _ => Emission.fail .endless
  | depth + 1 => fun name => do
    let (home, d) ← Emission.ofExcept (pair.locateMember (← reading) name)
    within home (fields pair (inliner pair depth) d)

end ZigReflect.Lowering

namespace ZigReflect.Pair

open Lowering

/-- How many intersections may stand inside each other. -/
def depth (pair : Pair) : Nat :=
  pair.types.names.size + pair.protocol.names.size + 1

/-- Writes a type of the document that is being read. -/
def emitType (pair : Pair) (t : TypeNode) : Emission Unit :=
  type pair (inliner pair pair.depth) t

/-- Writes a declaration of the document that is being read. The result is
whether anything was written. -/
def emitDeclaration (pair : Pair) (d : Declaration) : Emission Bool :=
  declaration pair (inliner pair pair.depth) d

end ZigReflect.Pair
