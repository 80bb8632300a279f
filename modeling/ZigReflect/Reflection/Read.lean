import ZigReflect.Json.Record
import ZigReflect.Reflection.Basic

/-!
# Reading reflections

Declarations and type nodes are read from JSON. Keys that name no field are
skipped, an absent field has its default, and a type node is held back until
its tag is known, wherever the tag stands.
-/

namespace ZigReflect

open Json

/-- Reads a literal: null, a boolean, an integer of 64 bits, a double or a
string. Integers that do not fit are doubles. -/
def Literal.ofJson : Json → Read Literal
  | .null => .ok .null
  | .bool b => .ok (.bool b)
  | .number (.unsigned n) =>
    .ok (if n < Nat.pow 2 63 then .integer n else .double (Double.ofInt n))
  | .number (.negative i) => .ok (.integer i)
  | .number (.double d) => .ok (.double d)
  | .string s => .ok (.string s)
  | _ => .error (.noVariant "LiteralValue")

/-- The fields of the flags of a declaration. -/
def flagsShape : RecordShape := { title := "struct Flags", fields := ["isOptional"] }

/-- Reads the flags; the one that counts is whether a field is optional. -/
def readFlags (origin : Origin) (room : Nat) (v : Json) : Read Bool :=
  flagsShape.read origin false (fun _ _ v => readBool v) (fun _ b => .ok b) room v

/-- The fields of a part of a comment. -/
def partShape : RecordShape := { title := "struct CommentPart", fields := ["text"] }

/-- Reads the text of a part of a comment. -/
def readPart (origin : Origin) (room : Nat) (v : Json) : Read String :=
  partShape.read origin "" (fun _ _ v => readString v) (fun _ s => .ok s) room v

/-- The fields of a comment. -/
def commentShape : RecordShape := { title := "struct Comment", fields := ["shortText", "summary"] }

/-- Reads a comment. -/
def Comment.ofJson (origin : Origin) (room : Nat) (v : Json) : Read Comment :=
  commentShape.read origin {}
    (fun c name v =>
      match name with
      | "shortText" => do return { c with shortText := ← readOption readString v }
      | _ => do return { c with summary := ← readList (readPart origin (room - 2)) (room - 1) v })
    (fun _ c => .ok c) room v

/-- The fields of a type parameter. -/
def parameterShape : RecordShape := { title := "struct TypeParameter", fields := ["name"] }

/-- The fields of a source file. -/
def sourceShape : RecordShape := { title := "struct SourceRef", fields := ["fileName"] }

/-- Reads the one text of a record of one field, which is needed. -/
def readSoleText (shape : RecordShape) (name : String) (origin : Origin) (room : Nat) (v : Json) :
    Read String :=
  shape.read origin none (fun _ _ v => some <$> readString v)
    (fun absent s => need absent name s) room v

/-- Reads a type parameter. -/
def readParameter : Origin → Nat → Json → Read String := readSoleText parameterShape "name"

/-- Reads a source file. -/
def readSource : Origin → Nat → Json → Read String := readSoleText sourceShape "fileName"

/-- The fields of a declaration. -/
def declarationShape : RecordShape :=
  { title := "struct Declaration"
    fields := ["id", "name", "kindString", "flags", "comment", "children", "type",
      "typeParameter", "target", "sources", "defaultValue", "signatures"]
    aliases := [("typeParameters", "typeParameter")] }

/-- The tags of type nodes. -/
def typeTags : List String :=
  ["intrinsic", "reference", "array", "literal", "union", "tuple", "intersection",
    "indexedAccess", "query", "reflection"]

/-- Reads a tag. A tag that was held back may also be its place in the list. -/
def readTag (origin : Origin) : Json → Read String
  | .string s => if typeTags.contains s then .ok s else .error (.unknownVariant s typeTags)
  | v@(.number (.unsigned n)) =>
    match origin, typeTags[n]? with
    | .text, _ => .error (mismatch v "variant identifier")
    | .held, some tag => .ok tag
    | .held, none => .error (.outOfRange v.describe "variant index 0 <= i < 10")
  | v => .error (mismatch v "variant identifier")

/-- The tag of an object, its first field named `type`, and the other fields. -/
def splitTag (origin : Origin) :
    List (String × Json) → Option String → List (String × Json) → Read (String × Json)
  | [], some tag, seen => .ok (tag, .object seen.reverse)
  | [], none, _ => .error (.missingField "type")
  | ("type", v) :: rest, none, seen => do splitTag origin rest (some (← readTag origin v)) seen
  | ("type", _) :: _, some _, _ => .error (.duplicateField "type")
  | (key, v) :: rest, tag, seen => splitTag origin rest tag ((key, v) :: seen)

/-- The tag of a type node and the rest of the node, still unread. -/
def readTagged (origin : Origin) : Json → Read (String × Json)
  | .object fields => splitTag origin fields none []
  | .array [] => .error (.missingField "type")
  | .array (tag :: items) => do return (← readTag origin tag, .array items)
  | v => .error (mismatch v "internally tagged enum TypeNode")

/-- The title of a kind of type node, for messages. -/
def variantTitle (name : String) : String := "struct variant TypeNode::" ++ name

/-- Reads a type node of one field, which is needed. -/
def readSole {α : Type} (title key : String) (build : α → TypeNode) (read : Json → Read α)
    (room : Nat) (v : Json) : Read TypeNode :=
  RecordShape.read ⟨variantTitle title, [key], []⟩ .held none (fun _ _ v => some <$> read v)
    (fun absent a => build <$> need absent key a) room v

/-- A reference while it is read. -/
structure ReferenceDraft where
  name : Option String := none
  arguments : List TypeNode := []

/-- Reads what a type node holds beside its tag, with readers for the nodes and
for the declaration in it. -/
def readVariant (type : Json → Read TypeNode) (types : Json → Read (List TypeNode))
    (declaration : Json → Read Declaration) (room : Nat) (tag : String) (body : Json) :
    Read TypeNode :=
  match tag with
  | "intrinsic" => readSole "Intrinsic" "name" .intrinsic readString room body
  | "reference" =>
    RecordShape.read ⟨variantTitle "Reference", ["name", "typeArguments"], []⟩ .held
      ({} : ReferenceDraft)
      (fun d name v =>
        match name with
        | "name" => do return { d with name := ← readString v }
        | _ => do return { d with arguments := ← types v })
      (fun absent d => do return .reference (← need absent "name" d.name) d.arguments)
      room body
  | "array" => readSole "Array" "elementType" .array type room body
  | "literal" => readSole "Literal" "value" .literal Literal.ofJson room body
  | "union" => readSole "Union" "types" .union types room body
  | "tuple" =>
    RecordShape.read ⟨variantTitle "Tuple", ["elements"], []⟩ .held []
      (fun _ _ v => types v) (fun _ ts => .ok (.tuple ts)) room body
  | "intersection" => readSole "Intersection" "types" .intersection types room body
  | "indexedAccess" =>
    RecordShape.read ⟨variantTitle "IndexedAccess", ["objectType", "indexType"], []⟩ .held
      ((none, none) : Option TypeNode × Option TypeNode)
      (fun (subject, index) name v =>
        match name with
        | "objectType" => do return (← readOption type v, index)
        | _ => do return (subject, ← readOption type v))
      (fun _ (subject, index) => .ok (.indexedAccess subject index)) room body
  | "query" =>
    RecordShape.read ⟨variantTitle "Query", ["queryType"], []⟩ .held none
      (fun _ _ v => readOption type v) (fun _ t => .ok (.query t)) room body
  | _ => readSole "Reflection" "declaration" .reflection declaration room body

/-- A declaration while it is read. -/
structure DeclarationDraft where
  id : Option Nat := none
  name : Option String := none
  rest : Declaration := default

mutual

/-- Reads a declaration within a number of nested containers. -/
def readDeclaration (origin : Origin) : Nat → Json → Read Declaration
  | 0, v => declarationShape.read origin () (fun _ _ _ => .ok ()) (fun _ _ => .error .malformed) 0 v
  | room + 1, v =>
    declarationShape.read origin ({} : DeclarationDraft)
      (fun d name v =>
        match name with
        | "id" => do return { d with id := ← readNat v }
        | "name" => do return { d with name := ← readString v }
        | "kindString" => do
          return { d with rest.kind := Kind.ofTitle (← readString v) }
        | "flags" => do return { d with rest.isOptional := ← readFlags origin room v }
        | "comment" => do
          return { d with rest.comment := ← readOption (Comment.ofJson origin room) v }
        | "children" => do return { d with rest.children := ← readDeclarations origin room v }
        | "type" => do return { d with rest.type := ← readOption (readType origin room) v }
        | "typeParameter" => do
          return { d with
            rest.typeParameters := ← readList (readParameter origin (room - 1)) room v }
        | "target" => do return { d with rest.target := ← readOption readNat v }
        | "sources" => do
          return { d with rest.sources := ← readList (readSource origin (room - 1)) room v }
        | "defaultValue" => do
          return { d with rest.defaultValue := ← readOption readString v }
        | _ => do return { d with rest.signatures := ← readDeclarations origin room v })
      (fun absent d => do
        return { d.rest with id := ← need absent "id" d.id, name := ← need absent "name" d.name })
      (room + 1) v

/-- Reads a list of declarations. -/
def readDeclarations (origin : Origin) : Nat → Json → Read (List Declaration)
  | 0, v => readList (fun _ => .error .malformed) 0 v
  | room + 1, v => readList (readDeclaration origin room) (room + 1) v

/-- Reads a type node. One that stands in the text is held back whole first, so
all of it has to be readable. -/
def readType (origin : Origin) : Nat → Json → Read TypeNode
  | 0, .array _ => .error .malformed
  | 0, .object _ => .error .malformed
  | 0, v => .error (mismatch v "internally tagged enum TypeNode")
  | room + 1, v =>
    if origin = .text && !v.fits (room + 1) then .error .malformed
    else do
      let (tag, body) ← readTagged origin v
      readVariant (readType .held room) (readTypes room) (readDeclaration .held room) (room + 1)
        tag body

/-- Reads a list of type nodes that were held back. -/
def readTypes : Nat → Json → Read (List TypeNode)
  | 0, v => readList (fun _ => .error .malformed) 0 v
  | room + 1, v => readList (readType .held room) (room + 1) v

end

/-- The declaration that a JSON text holds. -/
def Declaration.ofText : String → Read Declaration :=
  Json.readWhole (readDeclaration .text)

/-- The type node that a JSON text holds. -/
def TypeNode.ofText : String → Read TypeNode :=
  Json.readWhole (readType .text)

/-- The literal that a JSON text holds. -/
def Literal.ofText : String → Read Literal :=
  Json.readWhole fun room v => if v.fits room then Literal.ofJson v else .error .malformed

end ZigReflect
