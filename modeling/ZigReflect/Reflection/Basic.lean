import ZigReflect.Decimal.Double
import ZigReflect.Text.Blank

/-!
# Reflections

A reflection is a tree of named declarations, as a documentation tool finds
them in a library: interfaces, properties, type aliases, namespaces, and so
on. Every declaration has an id, and ids follow the order of the source text;
the order of children in the tree means nothing. The types of declarations are
type nodes, which may hold anonymous declarations again.
-/

namespace ZigReflect

/-- What a declaration declares. -/
inductive Kind where
  /-- A second name for another declaration. -/
  | reference
  | interface
  /-- A data field of an interface or type literal. -/
  | property
  | typeAlias
  /-- An anonymous structural type. -/
  | typeLiteral
  | nameSpace
  /-- A constant or variable. -/
  | binding
  | enumeration
  | enumerationMember
  | method
  | classType
  | function
  | constructor
  | callSignature
  | constructorSignature
  /-- A kind that has no rule of its own. -/
  | other (title : String)
deriving DecidableEq, Repr

namespace Kind

/-- The kind that a title names. Modules are namespaces, and the title of an
enumeration member has two spellings. -/
def ofTitle (title : String) : Kind :=
  match title with
  | "Reference" => .reference
  | "Interface" => .interface
  | "Property" => .property
  | "Type alias" => .typeAlias
  | "Type literal" => .typeLiteral
  | "Namespace" => .nameSpace
  | "Module" => .nameSpace
  | "Variable" => .binding
  | "Enumeration" => .enumeration
  | "Enumeration member" => .enumerationMember
  | "Enumeration Member" => .enumerationMember
  | "Method" => .method
  | "Class" => .classType
  | "Function" => .function
  | "Constructor" => .constructor
  | "Call signature" => .callSignature
  | "Constructor signature" => .constructorSignature
  | title => .other title

/-- The title of a kind. -/
def title : Kind → String
  | .reference => "Reference"
  | .interface => "Interface"
  | .property => "Property"
  | .typeAlias => "Type alias"
  | .typeLiteral => "Type literal"
  | .nameSpace => "Namespace"
  | .binding => "Variable"
  | .enumeration => "Enumeration"
  | .enumerationMember => "Enumeration member"
  | .method => "Method"
  | .classType => "Class"
  | .function => "Function"
  | .constructor => "Constructor"
  | .callSignature => "Call signature"
  | .constructorSignature => "Constructor signature"
  | .other title => title

/-- The kind of a declaration that names none. -/
def unnamed : Kind := .other ""

/-- Whether the kind describes behaviour rather than the shape of data. -/
def isBehavior : Kind → Bool
  | .method | .classType | .function | .constructor | .callSignature | .constructorSignature => true
  | _ => false

/-- Whether the kind has no rule of its own. -/
def isOther : Kind → Bool
  | .other _ => true
  | _ => false

end Kind

/-- The value of a literal type. -/
inductive Literal where
  | null
  | bool (b : Bool)
  /-- An integer of 64 bits with a sign. -/
  | integer (i : Int)
  | double (d : Double)
  | string (s : String)
deriving DecidableEq, Repr

/-- Whether the literal is a number. -/
def Literal.isNumeric : Literal → Bool
  | .integer _ | .double _ => true
  | _ => false

/-- The comment on a declaration, in one of two layouts. -/
structure Comment where
  shortText : Option String := none
  /-- The parts of the comment, joined when there is no short text. -/
  summary : List String := []
deriving DecidableEq, Repr, Inhabited

/-- The trimmed text of a comment, unless nothing is left. The short text
stands for the whole comment even when it is empty. -/
def Comment.blurb (c : Comment) : Option String :=
  let text := Text.trim (c.shortText.getD (String.join c.summary))
  if text.isEmpty then none else some text

mutual

/-- A named declaration. -/
structure Declaration where
  /-- Unique in a document, in the order of the source text. -/
  id : Nat
  name : String
  kind : Kind := .unnamed
  isOptional : Bool := false
  comment : Option Comment := none
  /-- In the order of the document, which means nothing. -/
  children : List Declaration := []
  type : Option TypeNode := none
  typeParameters : List String := []
  /-- The id of the declaration that a reference renames. -/
  target : Option Nat := none
  /-- The files that the declaration was found in. -/
  sources : List String := []
  /-- The initializer as source text. -/
  defaultValue : Option String := none
  /-- The call signatures of a type literal that is a function. -/
  signatures : List Declaration := []

/-- A type expression. -/
inductive TypeNode where
  | intrinsic (name : String)
  | reference (name : String) (arguments : List TypeNode)
  | array (element : TypeNode)
  | literal (value : Literal)
  | union (members : List TypeNode)
  | tuple (elements : List TypeNode)
  | intersection (members : List TypeNode)
  | indexedAccess (object index : Option TypeNode)
  /-- The type of a value. -/
  | query (subject : Option TypeNode)
  /-- An anonymous declaration in the place of a type. -/
  | reflection (declaration : Declaration)

end

instance : Inhabited Declaration := ⟨{ id := 0, name := "" }⟩

instance : Inhabited TypeNode := ⟨.intrinsic ""⟩

namespace TypeNode

/-- The name of the shape of a type. -/
def shapeName : TypeNode → String
  | .intrinsic _ => "intrinsic"
  | .reference .. => "reference"
  | .array _ => "array"
  | .literal _ => "literal"
  | .union _ => "union"
  | .tuple _ => "tuple"
  | .intersection _ => "intersection"
  | .indexedAccess .. => "indexedAccess"
  | .query _ => "query"
  | .reflection _ => "reflection"

/-- The name of an intrinsic type or reference. -/
def ownName : TypeNode → Option String
  | .intrinsic name => some name
  | .reference name _ => some name
  | _ => none

/-- The value of a literal type. -/
def literalValue? : TypeNode → Option Literal
  | .literal value => some value
  | _ => none

/-- Whether the type is a literal. -/
def isLiteral (t : TypeNode) : Bool :=
  t.literalValue?.isSome

/-- Whether the type has the one value null. -/
def isNull : TypeNode → Bool
  | .literal .null => true
  | .intrinsic name => name == "null"
  | _ => false

end TypeNode

namespace Declaration

/-- The children in ascending order of their ids, equal ids as they stand. -/
def sortedChildren (d : Declaration) : List Declaration :=
  d.children.mergeSort fun a b => a.id ≤ b.id

/-- The text of the comment. -/
def doc (d : Declaration) : Option String :=
  d.comment.bind Comment.blurb

/-- Whether the declaration is behaviour, or holds a function. -/
def isCallable (d : Declaration) : Bool :=
  d.kind.isBehavior ||
    match d.type with
    | some (.reflection inner) => !inner.signatures.isEmpty
    | _ => false

/-- Whether a child is callable. -/
def hasCallableChild (d : Declaration) : Bool :=
  d.children.any isCallable

/-- The value of a declaration whose type is one literal. -/
def literalType (d : Declaration) : Option Literal :=
  d.type.bind TypeNode.literalValue?

/-- The name of the container of declarations that are not exported. -/
def internalName : String := "<internal>"

end Declaration

end ZigReflect
