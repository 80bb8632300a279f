import ZigReflect.Json.Parse

/-!
# Reading JSON values

Scalars and lists are read against what is expected, and a value of the wrong
kind is named in the error. A reader also carries the number of containers that
may still be opened: a value that opens more is refused.
-/

namespace ZigReflect.Json

/-- Why a text cannot be read. -/
inductive ReadError where
  /-- The text is not one complete JSON value, or is nested too deeply. -/
  | malformed
  | wrongType (found expected : String)
  | outOfRange (found expected : String)
  | duplicateField (key : String)
  | missingField (key : String)
  | unknownVariant (tag : String) (known : List String)
  | wrongLength (length : Nat) (expected : String)
  | noVariant (choice : String)
deriving DecidableEq, Repr

/-- The message of an error in the shape of the data; a text that is not one
complete value has none. -/
def ReadError.message? : ReadError → Option String
  | .malformed => none
  | .wrongType found expected => some ("invalid type: " ++ found ++ ", expected " ++ expected)
  | .outOfRange found expected => some ("invalid value: " ++ found ++ ", expected " ++ expected)
  | .duplicateField key => some ("duplicate field `" ++ key ++ "`")
  | .missingField key => some ("missing field `" ++ key ++ "`")
  | .unknownVariant tag known =>
    some ("unknown variant `" ++ tag ++ "`, expected one of " ++
      ", ".intercalate (known.map fun k => "`" ++ k ++ "`"))
  | .wrongLength length expected =>
    some ("invalid length " ++ toString length ++ ", expected " ++ expected)
  | .noVariant choice =>
    some ("data did not match any variant of untagged enum " ++ choice)

/-- What comes of reading a value. -/
abbrev Read (α : Type) := Except ReadError α

/-- The error of finding a value where another kind is expected. -/
def mismatch (v : Json) (expected : String) : ReadError :=
  match v with
  | .unreadable => .malformed
  | v => .wrongType v.describe expected

/-- Reads an integer of 64 bits without a sign. -/
def readNat : Json → Read Nat
  | .number (.unsigned n) => .ok n
  | .number (.negative i) => .error (.outOfRange (Number.negative i).describe "u64")
  | v => .error (mismatch v "u64")

/-- Reads a text that the message calls `expected`. -/
def readText (expected : String) : Json → Read String
  | .string s => .ok s
  | v => .error (mismatch v expected)

/-- Reads a string. -/
def readString : Json → Read String := readText "a string"

/-- Reads a boolean. -/
def readBool : Json → Read Bool
  | .bool b => .ok b
  | v => .error (mismatch v "a boolean")

/-- Reads a value that may be null. -/
def readOption {α : Type} (read : Json → Read α) : Json → Read (Option α)
  | .null => .ok none
  | v => some <$> read v

/-- Reads the items of a list, which opens one container. -/
def readList {α : Type} (read : Json → Read α) : Nat → Json → Read (List α)
  | 0, .array _ => .error .malformed
  | _, .array items => items.mapM read
  | _, v => .error (mismatch v "a sequence")

/-- Reads the one value of a text within the nesting limit. -/
def readWhole {α : Type} (read : Nat → Json → Read α) (text : String) : Read α :=
  match parse? text with
  | some v => read nesting v
  | none => .error .malformed

end ZigReflect.Json
