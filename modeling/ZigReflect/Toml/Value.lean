import ZigReflect.Decimal.Double

/-!
# TOML values

The values of a TOML text. Keys are in the order of the text, each once.
-/

namespace ZigReflect

/-- A TOML value. -/
inductive Toml where
  | string (s : String)
  | integer (i : Int)
  | float (d : Double)
  | bool (b : Bool)
  /-- A date, a time, or both, in its standard spelling. -/
  | moment (text : String)
  /-- What a place of an array holds that was passed over. No text spells it. -/
  | nothing
  | array (items : List Toml)
  | table (fields : List (String × Toml))
deriving Inhabited, Repr

end ZigReflect
