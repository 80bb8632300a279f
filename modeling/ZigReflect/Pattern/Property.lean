import ZigReflect.Pattern.Property.Script
import ZigReflect.Pattern.Property.Trait

/-!
# Properties of characters

A property is named by itself, or as the value of a property. Names are compared
without regard to case, blanks, hyphens and low lines, and without a leading `is`.
-/

namespace ZigReflect.Pattern

/-- A name in the form in which names are compared: only its ASCII characters count,
and `isc` keeps its beginning. -/
def looseName (name : List Char) : String :=
  let lower (c : Char) : Char := if 'A' ≤ c && c ≤ 'Z' then Char.ofNat (c.toNat + 32) else c
  let hasIs := (name.take 2).map lower == ['i', 's']
  let kept := ((if hasIs then name.drop 2 else name).map lower).filter fun c =>
    c.toNat < 0x80 && c != ' ' && c != '_' && c != '-'
  if hasIs && kept == ['c'] then "isc" else String.ofList kept

/-- The set that a name stands for: of a trait, of a category or of a script. -/
def propertyNamed? (name : String) : Option CharSet :=
  (trait? name).or ((category? name).or (script? name))

/-- The set of a value of a property. -/
def valueSet? (property value : String) : Option CharSet :=
  match property with
  | "gc" | "generalcategory" => category? value
  | "sc" | "script" => script? value
  | "scx" | "scriptextensions" => scriptUse? value
  | _ => none

/-- The characters before and behind the first place where some characters stand. -/
def splitAtFirst (mark : List Char) : List Char → Option (List Char × List Char)
  | [] => none
  | c :: rest =>
    if (c :: rest).take mark.length == mark then some ([], (c :: rest).drop mark.length)
    else (splitAtFirst mark rest).map fun (before, after) => (c :: before, after)

/-- The set of a property: a name, or a property and its value with a mark between
them. An inequality is read like an equality. -/
def propertySet? (name : List Char) : Option CharSet :=
  let parts := (splitAtFirst ['!', '='] name).or
    ((splitAtFirst [':'] name).or (splitAtFirst ['='] name))
  match parts with
  | some (property, value) => valueSet? (looseName property) (looseName value)
  | none => propertyNamed? (looseName name)

end ZigReflect.Pattern
