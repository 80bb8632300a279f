import ZigReflect.Emission
import ZigReflect.Zig.Literal

/-!
# The rules for types

Each rule says how a type is written from what its parts are written as. Zig
has no structural unions, so a union is lowered by its shape: literals alone
become an enum, null makes the rest optional, and what remains with more than
one member becomes a tagged union. An intersection becomes a struct that holds
the fields of its members.
-/

namespace ZigReflect.Lowering

open Emission (write note reading)

/-- How the fields of an intersection member are written, given the name of the
member. -/
abbrev Inliner := String → Emission Unit

/-- A reference with its arguments. -/
def reference (name : String) (arguments : List (Emission Unit)) : Emission Unit := do
  write (Zig.identifier name)
  unless arguments.isEmpty do
    write "("
    Emission.separated ", " arguments
    write ")"

/-- A slice of the element type. -/
def array (element : Emission Unit) : Emission Unit := do
  write "[]const "
  element

/-- A tuple of its elements. -/
def tuple (elements : List (Emission Unit)) : Emission Unit := do
  write "std.meta.Tuple(&.\x7b "
  Emission.separated ", " elements
  write " \x7d)"

/-- The name of a member before repeats are told apart. -/
def baseName (member : TypeNode) : String :=
  member.ownName.getD member.shapeName

/-- Tells repeated names apart: a name gets the number of its earlier
occurrences as suffix. The names in `before` stand in front of the list. -/
def caseNamesAfter : List String → List String → List String
  | _, [] => []
  | before, base :: rest =>
    let earlier := before.count base
    (if earlier = 0 then base else base ++ toString earlier) ::
      caseNamesAfter (base :: before) rest

/-- The case names of the members of a tagged union. -/
def caseNames (members : List TypeNode) : List String :=
  caseNamesAfter [] (members.map baseName)

/-- An enum with one case for each literal. -/
def literalEnum (values : List Literal) : Emission Unit := do
  write "enum \x7b "
  write (String.join (values.map fun v => Zig.identifier v.caseName ++ ", "))
  write ("usingnamespace " ++ Zig.stringEnumMixin ++ "(@This()); \x7d")

/-- One case of a tagged union. -/
def unionCase (name : String) (payload : Emission Unit) : Emission Unit := do
  write (Zig.identifier name)
  write ": "
  payload

/-- A tagged union with one case for each member. -/
def taggedUnion (cases : List (TypeNode × Emission Unit)) : Emission Unit := do
  write "union(enum) \x7b "
  Emission.separated ", "
    ((caseNames (cases.map (·.1))).zipWith unionCase (cases.map (·.2)))
  write " \x7d"

/-- A union, given each member with what it is written as. -/
def union (members : List (TypeNode × Emission Unit)) : Emission Unit :=
  if members.all (·.1.isLiteral) then
    literalEnum (members.filterMap (·.1.literalValue?))
  else
    let cases := members.filter fun m => !m.1.isNull
    if members.any (·.1.isNull) then do
      write "?"
      match cases with
      | [] => write "void"
      | [only] => only.2
      | cases => taggedUnion cases
    else taggedUnion cases

/-- One member of an intersection: the fields of a reference, or nothing. -/
def intersectionMember (inline : Inliner) : TypeNode → Emission Unit
  | .reference name _ => inline name
  | other => do note (.intersectionMember other.shapeName (← reading))

/-- A struct that holds the fields of every member. -/
def intersection (inline : Inliner) (members : List TypeNode) : Emission Unit := do
  write "struct \x7b\n"
  Emission.all (members.map (intersectionMember inline))
  write "\x7d"

/-- A text in the place of a type that has no counterpart, with a notice that
names the document. -/
def placeholder (n : Schema → Notice) (text : String) : Emission Unit := do
  note (n (← reading))
  write text

end ZigReflect.Lowering
