import Std.Data.HashSet
import ZigReflect.Text.Find

/-!
# Emitted names

The names that a run has written at the top level, in the order of writing.
A name is recorded once, and none is ever removed.
-/

namespace ZigReflect

/-- Names in the order of their first insertion, with a set for lookup. -/
structure EmittedNames where
  order : List String := []
  seen : Std.HashSet String := ∅

namespace EmittedNames

/-- No names. -/
def empty : EmittedNames := {}

/-- Whether the name has been recorded. -/
def contains (e : EmittedNames) (name : String) : Bool :=
  e.seen.contains name

/-- Records a name, unless it has been recorded. -/
def insert (e : EmittedNames) (name : String) : EmittedNames :=
  if e.contains name then e else ⟨e.order ++ [name], e.seen.insert name⟩

/-- How many names have been recorded. -/
def size (e : EmittedNames) : Nat :=
  e.order.length

/-- The recorded names with an ending, in their order. -/
def endingWith (e : EmittedNames) (ending : String) : List String :=
  e.order.filter fun name => Text.endsWith name ending

end EmittedNames

end ZigReflect
