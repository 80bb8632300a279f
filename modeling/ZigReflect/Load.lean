import ZigReflect.Document.Pair
import ZigReflect.Machine

/-!
# Loading the documents

The types are read before the protocol, and the first problem is the failure.
-/

namespace ZigReflect.Machine

/-- The message of a document that cannot be read. -/
def unreadableText (path : String) (e : Json.ReadError) : String :=
  path ++ ": JSON error: " ++ e.message?.getD "malformed text"

/-- Loads a document from a file. -/
def loadDocument (m : Machine) (t : Tree) (path : String) : Except Failure Document :=
  match m.readText t path with
  | .error e => .error (.file e)
  | .ok text =>
    match Document.ofText text with
    | .error e => .error (.invalidSchema (unreadableText path e))
    | .ok doc => .ok doc

/-- Loads both documents. -/
def loadPair (m : Machine) (t : Tree) (types protocol : String) : Except Failure Pair := do
  let types ← m.loadDocument t types
  let protocol ← m.loadDocument t protocol
  return ⟨types, protocol⟩

end ZigReflect.Machine
