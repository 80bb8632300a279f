import ZigReflect.Decimal.Shortest
import ZigReflect.Reflection.Basic
import ZigReflect.Zig.Name

/-!
# Literals and primitive types in Zig

The Zig spelling of literal values, of their types, and of the primitive
types of a reflection.
-/

namespace ZigReflect

namespace Literal

/-- The text that names an enum case after a literal. -/
def caseName : Literal → String
  | .null => "null"
  | .bool b => if b then "true" else "false"
  | .integer i => toString i
  | .double d => Layout.plain.render d
  | .string s => s

/-- The literal as a Zig expression. -/
def render : Literal → String
  | .null => "null"
  | .bool b => if b then "true" else "false"
  | .integer i => toString i
  | .double d => Layout.literal.render d
  | .string s => Zig.stringLiteral s

/-- The Zig type that a literal is bound with. -/
def zigType : Literal → String
  | .null => "?void"
  | .bool _ => "bool"
  | .integer _ => "i64"
  | .double _ => "f64"
  | .string _ => "[]const u8"

end Literal

namespace Zig

/-- The Zig spelling of a primitive type; an unknown name stands for itself. -/
def primitive (name : String) : String :=
  match name with
  | "string" => "[]const u8"
  | "number" | "integer" => "i64"
  | "uinteger" => "u64"
  | "decimal" => "f64"
  | "boolean" => "bool"
  | "object" | "any" | "unknown" => "std.json.Value"
  | "null" | "undefined" | "void" => "void"
  | "never" => "noreturn"
  | name => name

/-- What literal unions mix in to be written by their case names. -/
def stringEnumMixin : String := "StringBackedEnumStringify"

/-- What numeric namespaces mix in to be written by their values. -/
def intEnumMixin : String := "IntBackedEnumStringify"

/-- Stands in place of an indexed access type. -/
def indexedAccessPlaceholder : String :=
  "@compileError(\"indexed access types are not supported\")"

/-- Stands in place of a type query. -/
def typeQueryPlaceholder : String :=
  "@compileError(\"type queries are not supported\")"

/-- Stands where a person has to finish the declaration. -/
def manualPlaceholder : String :=
  "@compileError(\"manual translation required\")"

end Zig

end ZigReflect
