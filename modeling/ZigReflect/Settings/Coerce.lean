import ZigReflect.Decimal.Shortest
import ZigReflect.Settings.Basic
import ZigReflect.Settings.Error
import ZigReflect.Text.Find
import ZigReflect.Toml.Value

/-!
# Settings from TOML

A scalar becomes the text or the truth value that a setting wants where that
makes sense: numbers and truth values have a text, and some words and all
numbers have a truth value. Absent keys and sections have their defaults, and
unknown ones are passed over. A section may also be an array of its values.
-/

namespace ZigReflect

/-- What reading a setting gives. -/
abbrev Coerced (α : Type) := Except SettingsError α

namespace Toml

/-- The text of a scalar. -/
def toText : Toml → Coerced String
  | .string s => .ok s
  | .moment s => .ok s
  | .bool b => .ok (if b then "true" else "false")
  | .integer i => .ok (toString i)
  | .float d => .ok (Layout.plain.render d)
  | .nothing | .array _ | .table _ => .error (.unsuitable "a string")

/-- The truth value that a word stands for. -/
def wordTruth? (word : String) : Option Bool :=
  match Text.lower word with
  | "1" | "true" | "on" | "yes" => some true
  | "0" | "false" | "off" | "no" => some false
  | _ => none

/-- The truth value of a scalar; a number is true unless it is zero. -/
def toTruth : Toml → Coerced Bool
  | .bool b => .ok b
  | .integer i => .ok (i != 0)
  | .float d => .ok (!d.isZero)
  | .string s | .moment s =>
    match wordTruth? s with
    | some b => .ok b
    | none => .error (.unsuitable "a boolean")
  | .nothing | .array _ | .table _ => .error (.unsuitable "a boolean")

/-- The text of a scalar, or none where there is nothing. -/
def toOptionalText : Toml → Coerced (Option String)
  | .nothing => .ok none
  | v => v.toText.map some

/-- The texts of a list. -/
def toTexts : Toml → Coerced (List String)
  | .array items => items.mapM toText
  | _ => .error (.misplaced "a sequence")

/-- How a section reads its keys: from a table by name, from an array by
place. -/
def sectionFields (keys : List String) : Toml → Coerced (String → Option Toml)
  | .table fields => .ok fun key => fields.lookup key
  | .array items => .ok fun key => (keys.zip items).lookup key
  | _ => .error (.misplaced "a section")

end Toml

/-- Reads a setting, or takes its default when its key is absent. -/
def readSetting {α : Type} (read : Toml → Coerced α) (default : α) : Option Toml → Coerced α
  | some v => read v
  | none => .ok default

/-- Reads the section from its value. -/
def InputSettings.ofToml (v : Toml) : Coerced InputSettings := do
  let base : InputSettings := {}
  let field ← Toml.sectionFields InputSettings.keys v
  return {
    types := ← readSetting Toml.toText base.types (field "types")
    protocol := ← readSetting Toml.toText base.protocol (field "protocol") }

/-- Reads the section from its value. -/
def OutputSettings.ofToml (v : Toml) : Coerced OutputSettings := do
  let base : OutputSettings := {}
  let field ← Toml.sectionFields OutputSettings.keys v
  return {
    path := ← readSetting Toml.toText base.path (field "path")
    preamble := ← readSetting Toml.toOptionalText base.preamble (field "preamble") }

/-- Reads the section from its value. -/
def FormatterSettings.ofToml (v : Toml) : Coerced FormatterSettings := do
  let base : FormatterSettings := {}
  let field ← Toml.sectionFields FormatterSettings.keys v
  return {
    enabled := ← readSetting Toml.toTruth base.enabled (field "enabled")
    command := ← readSetting Toml.toText base.command (field "command")
    args := ← readSetting Toml.toTexts base.args (field "args") }

/-- Reads the section from its value. -/
def FilterSettings.ofToml (v : Toml) : Coerced FilterSettings := do
  let base : FilterSettings := {}
  let field ← Toml.sectionFields FilterSettings.keys v
  return {
    excludePatterns := ← readSetting Toml.toTexts base.excludePatterns (field "exclude_patterns")
    excludedSources := ← readSetting Toml.toTexts base.excludedSources (field "excluded_sources") }

/-- Reads the section from its value. -/
def SummarySettings.ofToml (v : Toml) : Coerced SummarySettings := do
  let base : SummarySettings := {}
  let field ← Toml.sectionFields SummarySettings.keys v
  return {
    requestSuffix := ← readSetting Toml.toText base.requestSuffix (field "request_suffix")
    requestUnion := ← readSetting Toml.toText base.requestUnion (field "request_union")
    notificationSuffix :=
      ← readSetting Toml.toText base.notificationSuffix (field "notification_suffix")
    notificationUnion :=
      ← readSetting Toml.toText base.notificationUnion (field "notification_union") }

/-- Reads all sections. -/
def Settings.ofToml (v : Toml) : Coerced Settings := do
  let field ← Toml.sectionFields Settings.keys v
  return {
    input := ← readSetting InputSettings.ofToml {} (field "input")
    output := ← readSetting OutputSettings.ofToml {} (field "output")
    formatter := ← readSetting FormatterSettings.ofToml {} (field "formatter")
    filter := ← readSetting FilterSettings.ofToml {} (field "filter")
    summary := ← readSetting SummarySettings.ofToml {} (field "summary") }

end ZigReflect
