import ZigReflect.Json.Read

/-!
# Records in JSON

A record is written as an object, or as an array of its fields in their order.
`RecordShape.lay` finds the value of every field in the order of the text and
the error, if any, that ends the record: a repeated key, an item too many. The
fields that are absent are told apart from those that are present, so that
defaults stand only for absent ones.

A value that comes from the text itself differs in one point from a value that
was held back until its tag was known: an item too many is not well formed in
the text, and a wrong length in a value that was held back.
-/

namespace ZigReflect.Json

/-- Where a value is read from. -/
inductive Origin where
  /-- The text itself. -/
  | text
  /-- A value that was held back until its tag was known. -/
  | held
deriving DecidableEq, Repr

/-- The fields of a record in their order. -/
structure RecordShape where
  /-- What messages call the record. -/
  title : String
  fields : List String
  /-- Other spellings of keys, each with the field it stands for. -/
  aliases : List (String × String) := []

/-- The values that stand for the fields of a record. -/
structure Laid where
  /-- The fields that are present, in the order of the text. -/
  entries : List (String × Json)
  /-- The error that ends the record after those fields. -/
  fault : Option ReadError
  /-- The error of a field that is needed and absent. -/
  absent : String → ReadError

/-- A number of elements. -/
def elements (n : Nat) : String :=
  toString n ++ (if n = 1 then " element" else " elements")

namespace RecordShape

/-- The field that a key stands for. -/
def field? (shape : RecordShape) (key : String) : Option String :=
  if shape.fields.contains key then some key else shape.aliases.lookup key

/-- The known fields of an object up to the first repeated one. -/
def layFields (shape : RecordShape) :
    List (String × Json) → List (String × Json) → List (String × Json) × Option ReadError
  | [], seen => (seen.reverse, none)
  | (key, v) :: rest, seen =>
    match shape.field? key with
    | none => shape.layFields rest seen
    | some name =>
      if (seen.lookup name).isSome then (seen.reverse, some (.duplicateField name))
      else shape.layFields rest ((name, v) :: seen)

/-- The error of an array that has more items than the record has fields. -/
def surplus (shape : RecordShape) (origin : Origin) (length : Nat) : Option ReadError :=
  if length ≤ shape.fields.length then none
  else match origin with
    | .text => some .malformed
    | .held => some (.wrongLength length (elements shape.fields.length ++ " in sequence"))

/-- The error of an array that ends before a field that is needed. -/
def tooShort (shape : RecordShape) (name : String) : ReadError :=
  .wrongLength (shape.fields.idxOf name)
    (shape.title ++ " with " ++ elements shape.fields.length)

/-- Finds the values of the fields in an object or array. -/
def lay (shape : RecordShape) (origin : Origin) : Json → Read Laid
  | .object fields =>
    let (entries, fault) := shape.layFields fields []
    .ok ⟨entries, fault, .missingField⟩
  | .array items =>
    .ok ⟨shape.fields.zip items, shape.surplus origin items.length, shape.tooShort⟩
  | v => .error (mismatch v shape.title)

/-- Reads a record, which opens one container: `put` reads one field into the
record so far, and `finish` checks what is needed. -/
def read {δ α : Type} (shape : RecordShape) (origin : Origin) (start : δ)
    (put : δ → String → Json → Read δ) (finish : (String → ReadError) → δ → Read α) :
    Nat → Json → Read α
  | 0, .array _ => .error .malformed
  | 0, .object _ => .error .malformed
  | _, v => do
    let laid ← shape.lay origin v
    let record ← laid.entries.foldlM (fun record (name, v) => put record name v) start
    match laid.fault with
    | some e => .error e
    | none => finish laid.absent record

end RecordShape

/-- A field that is needed. -/
def need {α : Type} (absent : String → ReadError) (name : String) : Option α → Read α
  | some a => .ok a
  | none => .error (absent name)

end ZigReflect.Json
