import ZigReflect.Decimal.Shortest
import ZigReflect.Text.Quoted

/-!
# JSON values

A value keeps what a reader can notice: the order of an object's fields, its
repeated keys, and whether a number is written as an integer. A fragment that
is well formed but stands for no value, such as half of a surrogate pair, is
`unreadable`: it can be skipped and not read.
-/

namespace ZigReflect

/-- A JSON number: an integer of 64 bits, or a double. -/
inductive Number where
  /-- An integer from zero below `2 ^ 64`. -/
  | unsigned (n : Nat)
  /-- A negative integer from `-2 ^ 63`. -/
  | negative (i : Int)
  | double (d : Double)
deriving DecidableEq, Repr, Inhabited

/-- A JSON value, fields in the order of the text. -/
inductive Json where
  | null
  | bool (b : Bool)
  | number (n : Number)
  | string (s : String)
  | array (items : List Json)
  | object (fields : List (String × Json))
  /-- A well-formed fragment that stands for no value. -/
  | unreadable
deriving Inhabited, Repr

/-- How a number is named in a message. -/
def Number.describe : Number → String
  | .unsigned n => "integer `" ++ toString n ++ "`"
  | .negative i => "integer `" ++ toString i ++ "`"
  | .double d => "floating point `" ++ Layout.message.render d ++ "`"

namespace Json

/-- How a value of the wrong kind is named in a message. -/
def describe : Json → String
  | .null => "null"
  | .bool b => "boolean `" ++ (if b then "true" else "false") ++ "`"
  | .number n => n.describe
  | .string s => "string " ++ Text.quoted s
  | .array _ => "sequence"
  | .object _ => "map"
  | .unreadable => "nothing"

/-- Whether the value can be read whole within a number of nested containers. -/
def fits : Nat → Json → Bool
  | _, .unreadable => false
  | 0, .array _ => false
  | 0, .object _ => false
  | room + 1, .array items => items.all (fits room)
  | room + 1, .object fields => fields.all fun (_, v) => fits room v
  | _, _ => true

/-- How many arrays and objects may stand inside each other. -/
def nesting : Nat := 127

end Json

end ZigReflect
