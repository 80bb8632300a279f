import ZigReflect.Failure

/-!
# Notices

What a run notes on its way: declarations that it leaves out and why, and what
it has written. A notice never changes the outcome of a run.
-/

namespace ZigReflect

/-- How much a notice matters. -/
inductive Level where
  | debug
  | info
  | warn
deriving DecidableEq, Repr, Inhabited

/-- Whether the level is shown when only what matters is. -/
def Level.isProminent : Level → Bool
  | .debug => false
  | .info | .warn => true

/-- The name of a level. -/
def Level.title : Level → String
  | .debug => "DEBUG"
  | .info => "INFO"
  | .warn => "WARN"

/-- Something that a run notes. -/
inductive Notice where
  | alreadyEmitted (name : String) (schema : Schema)
  | indexedAccess (schema : Schema)
  | typeQuery (schema : Schema)
  | intersectionMember (shape : String) (schema : Schema)
  | unhandledKind (name kind : String)
  | aliasWithoutType (name : String)
  | aliasOfInlineType (name : String)
  | aliasSuperseded (name : String)
  | emptyTypeLiteral (name : String) (schema : Schema)
  | propertyWithoutType (name : String)
  | callableNamespace (name : String)
  | nonIntegerMember (owner name : String)
  | functionVariable (name : String)
  | manualInitializer (name initializer : String)
  | variableWithoutValue (name : String)
  | memberWithoutValue (name : String)
  | excludedByName (name pattern : String)
  | excludedBySource (name file : String)
  | emitted (name : String) (schema : Schema) (kind : Kind)
  | unionNameTaken (name : String)
  | unionEmitted (name : String) (members : Nat)
  | complete (declarations bytes : Nat) (checksum : String)
  | formatted (command path : String)
  | formatterFailed (command reason : String)
  | loaded (types protocol : Nat)
  | written (path : String) (bytes declarations : Nat)
  | dryRun (path : String) (bytes : Nat)
deriving DecidableEq, Repr

namespace Notice

/-- How much the notice matters. -/
def level : Notice → Level
  | .alreadyEmitted .. | .aliasOfInlineType .. | .aliasSuperseded .. | .callableNamespace ..
  | .functionVariable .. | .excludedByName .. | .excludedBySource .. | .emitted ..
  | .unionEmitted .. => .debug
  | .complete .. | .formatted .. | .loaded .. | .written .. | .dryRun .. => .info
  | _ => .warn

/-- The message of the notice. -/
def message : Notice → String
  | .alreadyEmitted .. => "already emitted, skipping"
  | .indexedAccess .. => "indexed access type is not supported"
  | .typeQuery .. => "type query is not supported"
  | .intersectionMember .. => "unhandled intersection member, skipping"
  | .unhandledKind .. => "unhandled declaration kind, skipping"
  | .aliasWithoutType .. => "type alias without a type, skipping"
  | .aliasOfInlineType .. => "type alias of an inline type literal, skipping"
  | .aliasSuperseded .. => "type alias superseded by namespace, skipping"
  | .emptyTypeLiteral .. => "type literal without members needs manual translation"
  | .propertyWithoutType .. => "property without a type, skipping"
  | .callableNamespace .. => "namespace with callable members, skipping"
  | .nonIntegerMember .. => "non-integer member in integer-backed namespace, skipping"
  | .functionVariable .. => "function-valued variable, skipping"
  | .manualInitializer .. => "initializer needs manual translation"
  | .variableWithoutValue .. => "variable without a type or initializer, skipping"
  | .memberWithoutValue .. => "enum member without a value needs manual translation"
  | .excludedByName .. => "excluded by name"
  | .excludedBySource .. => "excluded by source"
  | .emitted .. => "emitted"
  | .unionNameTaken .. => "summary union name already emitted, skipping"
  | .unionEmitted .. => "summary union emitted"
  | .complete .. => "generation complete"
  | .formatted .. => "formatted output"
  | .formatterFailed .. => "formatter failed"
  | .loaded .. => "schemas loaded"
  | .written .. => "output written"
  | .dryRun .. => "dry run, nothing written"

/-- The named details of the notice. -/
def fields : Notice → List (String × String)
  | .alreadyEmitted name schema => [("name", name), ("schema", schema.title)]
  | .indexedAccess schema => [("schema", schema.title)]
  | .typeQuery schema => [("schema", schema.title)]
  | .intersectionMember shape schema => [("kind", shape), ("schema", schema.title)]
  | .unhandledKind name kind => [("name", name), ("kind", kind)]
  | .aliasWithoutType name => [("name", name)]
  | .aliasOfInlineType name => [("name", name)]
  | .aliasSuperseded name => [("name", name)]
  | .emptyTypeLiteral name schema => [("name", name), ("schema", schema.title)]
  | .propertyWithoutType name => [("name", name)]
  | .callableNamespace name => [("name", name)]
  | .nonIntegerMember owner name => [("namespace", owner), ("name", name)]
  | .functionVariable name => [("name", name)]
  | .manualInitializer name initializer => [("name", name), ("initializer", initializer)]
  | .variableWithoutValue name => [("name", name)]
  | .memberWithoutValue name => [("name", name)]
  | .excludedByName name pattern => [("name", name), ("pattern", pattern)]
  | .excludedBySource name file => [("name", name), ("file", file)]
  | .emitted name schema kind =>
    [("name", name), ("schema", schema.title), ("kind", kind.title)]
  | .unionNameTaken name => [("name", name)]
  | .unionEmitted name members => [("name", name), ("members", toString members)]
  | .complete declarations bytes checksum =>
    [("declarations", toString declarations), ("bytes", toString bytes), ("checksum", checksum)]
  | .formatted command path => [("command", command), ("path", path)]
  | .formatterFailed command reason => [("command", command), ("reason", reason)]
  | .loaded types protocol => [("types", toString types), ("protocol", toString protocol)]
  | .written path bytes declarations =>
    [("path", path), ("bytes", toString bytes), ("declarations", toString declarations)]
  | .dryRun path bytes => [("path", path), ("bytes", toString bytes)]

/-- The notice on a line. -/
def line (n : Notice) : String :=
  " ".intercalate (n.level.title :: n.message :: n.fields.map fun x => x.1 ++ "=" ++ x.2)

end Notice

end ZigReflect
