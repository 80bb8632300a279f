import ZigReflect.Document.Basic
import ZigReflect.Files.Error

/-!
# Failures of a run

A run fails when a declaration cannot be resolved, when a document or pattern
cannot be read, or when a file operation fails. Shapes without a rule of their
own are not failures: they are noted and left out.
-/

namespace ZigReflect

/-- The two documents of a run. -/
inductive Schema where
  /-- The foundational types. -/
  | types
  /-- The protocol that is built on the types. -/
  | protocol
deriving DecidableEq, Repr, Inhabited

namespace Schema

/-- The other document. -/
def companion : Schema → Schema
  | .types => .protocol
  | .protocol => .types

/-- The name of the document in messages. -/
def title : Schema → String
  | .types => "types"
  | .protocol => "protocol"

end Schema

/-- Why a run fails. -/
inductive Failure where
  /-- No declaration below the root of the document has the id. -/
  | unresolvedId (schema : Schema) (id : Nat)
  /-- No container-level declaration of the document has the name. -/
  | unresolvedName (schema : Schema) (name : String) (suggestions : List String)
  | invalidSchema (reason : String)
  /-- A pattern of the filter is not well formed. -/
  | invalidPattern (pattern : String)
  | file (error : FileError)
  /-- Intersections lead back to themselves without end. -/
  | endless
deriving DecidableEq, Repr, Inhabited

namespace Failure

/-- The names that may have been meant. -/
def hint (suggestions : List String) : String :=
  if suggestions.isEmpty then ""
  else " (did you mean: " ++ ", ".intercalate suggestions ++ "?)"

/-- The message of a failure. -/
def message : Failure → String
  | .unresolvedId schema id =>
    "Unresolved id " ++ toString id ++ " in " ++ schema.title ++ " schema"
  | .unresolvedName schema name suggestions =>
    "Unresolved name `" ++ name ++ "` in " ++ schema.title ++ " schema" ++ hint suggestions
  | .invalidSchema reason => "Invalid schema: " ++ reason
  | .invalidPattern pattern => "Invalid exclusion pattern: " ++ pattern
  | .file error => "IO error: " ++ error.message
  | .endless => "Endless intersection"

/-- The messages of a failure and of what caused it. -/
def chain (f : Failure) : List String :=
  match f with
  | .file error => [f.message, error.message]
  | f => [f.message]

end Failure

end ZigReflect
