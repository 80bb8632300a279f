import ZigReflect.Failure

/-!
# Resolution in a pair of documents

A name may stand for several declarations of a document. Resolution prefers an
interface, then a declaration with children, then the one with the least id.
Members of an intersection are looked for in the companion of the document
that is being read, and then in that document itself.
-/

namespace ZigReflect

/-- The two documents of a run. -/
structure Pair where
  types : Document
  protocol : Document

namespace Pair

/-- One of the two documents. -/
def document (pair : Pair) : Schema → Document
  | .types => pair.types
  | .protocol => pair.protocol

/-- The declaration with an id in one of the documents. -/
def resolveId (pair : Pair) (schema : Schema) (id : Nat) : Except Failure Declaration :=
  match (pair.document schema).byId id with
  | some d => .ok d
  | none => .error (.unresolvedId schema id)

/-- The declaration that is preferred of several with one name. -/
def preferred (candidates : List Declaration) : Option Declaration :=
  (candidates.find? fun d => d.kind == .interface).or
    ((candidates.find? fun d => !d.children.isEmpty).or candidates.head?)

/-- How many names a failed lookup suggests. -/
def suggestionLimit : Nat := 3

/-- The declaration that a name stands for in one of the documents. -/
def resolveName (pair : Pair) (schema : Schema) (name : String) : Except Failure Declaration :=
  let doc := pair.document schema
  match preferred (doc.byName name) with
  | some d => .ok d
  | none => .error (.unresolvedName schema name (doc.search name suggestionLimit))

/-- The member of an intersection and the document it belongs to. When neither
document has the name, the failure is that of the companion. -/
def locateMember (pair : Pair) (schema : Schema) (name : String) :
    Except Failure (Schema × Declaration) :=
  match pair.resolveName schema.companion name with
  | .ok d => .ok (schema.companion, d)
  | .error failure =>
    match pair.resolveName schema name with
    | .ok d => .ok (schema, d)
    | .error _ => .error failure

end Pair

end ZigReflect
