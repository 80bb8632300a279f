import ZigReflect.Document.Pair
import ZigReflect.Lowering.Doc
import ZigReflect.Lowering.TypeRules
import ZigReflect.Zig.Initializer
import ZigReflect.Zig.Literal

/-!
# The rules for declarations

Each rule says how a declaration of one kind is written, from what its type and
its children are written as, and whether anything is written at all.
Behaviour is left out, and so is what has no rule.
-/

namespace ZigReflect.Lowering

open Emission (write note reading)

/-- How the parts of a declaration are written. -/
structure Parts where
  /-- The type, if there is one. -/
  type : Emission Unit
  /-- The children in the order of their ids. -/
  children : Emission Unit

/-- The head of a declaration with type parameters: a function to a type. -/
def genericHead (d : Declaration) : String :=
  let parameters := d.typeParameters.map fun p => "comptime " ++ Zig.identifier p ++ ": type"
  "pub fn " ++ Zig.identifier d.name ++ "(" ++ ", ".intercalate parameters ++ ") type \x7b\n"

/-- The head of a constant. -/
def constHead (d : Declaration) : String :=
  "pub const " ++ Zig.identifier d.name ++ " = "

/-- A constant with a value. -/
def constant (d : Declaration) (value : String) : Emission Unit :=
  write (constHead d ++ value ++ ";\n")

/-- Leaves a declaration out. -/
def skip : Emission Bool := pure false

/-- Leaves a declaration out and notes why. -/
def skipNoting (n : Notice) : Emission Bool := do
  note n
  return false

/-- A second name for the declaration that the target id names. -/
def referenceDeclaration (pair : Pair) (d : Declaration) : Emission Bool :=
  match d.target with
  | none => Emission.fail (.invalidSchema ("reference `" ++ d.name ++ "` has no target"))
  | some id => do
    let target ← Emission.ofExcept (pair.resolveId (← reading) id)
    doc d
    constant d (Zig.identifier target.name)
    return true

/-- An alias that is written: a constant, or a function of its parameters. -/
def aliasText (d : Declaration) (type : Emission Unit) : Emission Unit := do
  doc d
  if d.typeParameters.isEmpty then
    write (constHead d)
    type
    write ";\n"
  else
    write (genericHead d)
    write "return "
    type
    write ";\n\x7d\n"

/-- A type alias, unless it has no type, names an inline type, or yields to a
namespace of its name that holds data. -/
def typeAlias (pair : Pair) (d : Declaration) (parts : Parts) : Emission Bool :=
  match d.type with
  | none => skipNoting (.aliasWithoutType d.name)
  | some (.reflection _) => skipNoting (.aliasOfInlineType d.name)
  | some _ => do
    if (pair.document (← reading)).hasDataNamespace d.name then
      skipNoting (.aliasSuperseded d.name)
    else
      aliasText d parts.type
      return true

/-- An interface: a struct, or a function of its parameters to one. -/
def interface (d : Declaration) (parts : Parts) : Emission Bool := do
  doc d
  if d.typeParameters.isEmpty then
    write (constHead d ++ "struct \x7b\n")
    parts.children
    write "\x7d;\n"
  else
    write (genericHead d)
    write "return struct \x7b\n"
    parts.children
    write "\x7d;\n\x7d\n"
  return true

/-- An anonymous struct, or a placeholder when it has no members. -/
def typeLiteral (d : Declaration) (parts : Parts) : Emission Bool := do
  if d.children.isEmpty then
    placeholder (.emptyTypeLiteral d.name) Zig.manualPlaceholder
  else
    write "struct \x7b\n"
    parts.children
    write "\x7d"
  return true

/-- A field of a struct. A literal type makes it a constant of the type, and an
optional field defaults to null. -/
def property (d : Declaration) (parts : Parts) : Emission Bool :=
  let name := Zig.identifier d.name
  match d.type with
  | none => skipNoting (.propertyWithoutType d.name)
  | some (.literal value) => do
    doc d
    write ("comptime " ++ name ++ ": " ++ value.zigType ++ " = " ++ value.render ++ ",\n")
    return true
  | some _ => do
    doc d
    if d.isOptional then
      write (name ++ ": ?")
      parts.type
      write " = null,\n"
    else
      write (name ++ ": ")
      parts.type
      write ",\n"
    return true

/-- A member of a namespace that is an enum: a case for an integer. -/
def enumCase (owner : Declaration) (child : Declaration) : Emission Unit :=
  match child.literalType with
  | some (.integer i) => do
    doc child
    write (Zig.identifier child.name ++ " = " ++ (Literal.integer i).render ++ ",\n")
  | _ => note (.nonIntegerMember owner.name child.name)

/-- Whether a member of a namespace is a number. -/
def isNumericMember (child : Declaration) : Bool :=
  child.literalType.any Literal.isNumeric

/-- A namespace of data: an enum when a member is a number, else a struct. -/
def namespaceDeclaration (d : Declaration) (parts : Parts) : Emission Bool :=
  if d.hasCallableChild then skipNoting (.callableNamespace d.name)
  else do
    doc d
    if d.children.any isNumericMember then
      write (constHead d ++ "enum(i64) \x7b\n")
      Emission.all (d.sortedChildren.map (enumCase d))
      write ("usingnamespace " ++ Zig.intEnumMixin ++ "(@This());\n\x7d;\n")
    else
      write (constHead d ++ "struct \x7b\n")
      parts.children
      write "\x7d;\n"
    return true

/-- A constant: its literal type, else its initializer, else its type. -/
def binding (d : Declaration) (parts : Parts) : Emission Bool :=
  if d.isCallable then skipNoting (.functionVariable d.name)
  else
    match d.literalType, d.defaultValue, d.type with
    | some value, _, _ => do
      doc d
      constant d value.render
      return true
    | none, some source, _ => do
      match Zig.initializer? source with
      | some value =>
        doc d
        constant d value
      | none =>
        note (.manualInitializer d.name source)
        doc d
        constant d Zig.manualPlaceholder
      return true
    | none, none, some _ => do
      doc d
      write (constHead d)
      parts.type
      write ";\n"
      return true
    | none, none, none => skipNoting (.variableWithoutValue d.name)

/-- An enumeration: a struct of its members. -/
def enumeration (d : Declaration) (parts : Parts) : Emission Bool := do
  doc d
  write (constHead d ++ "struct \x7b\n")
  parts.children
  write "\x7d;\n"
  return true

/-- The value of an enumeration member, if it carries over. -/
def memberValue? (d : Declaration) : Option String :=
  match d.literalType with
  | some value => some value.render
  | none => d.defaultValue.bind Zig.initializer?

/-- A member of an enumeration: a constant. -/
def enumerationMember (d : Declaration) : Emission Bool := do
  match memberValue? d with
  | some value =>
    doc d
    constant d value
  | none =>
    note (.memberWithoutValue d.name)
    doc d
    constant d Zig.manualPlaceholder
  return true

/-- A declaration by its kind. The internal container itself is left out. -/
def byKind (pair : Pair) (d : Declaration) (parts : Parts) : Emission Bool :=
  if d.name == Declaration.internalName then skip
  else
    match d.kind with
    | .reference => referenceDeclaration pair d
    | .interface => interface d parts
    | .property => property d parts
    | .typeAlias => typeAlias pair d parts
    | .typeLiteral => typeLiteral d parts
    | .nameSpace => namespaceDeclaration d parts
    | .binding => binding d parts
    | .enumeration => enumeration d parts
    | .enumerationMember => enumerationMember d
    | .method | .classType | .function | .constructor | .callSignature
    | .constructorSignature => skip
    | .other kind => skipNoting (.unhandledKind d.name kind)

end ZigReflect.Lowering
