import ZigReflect.Files.Path
import ZigReflect.Toml.Merge
import ZigReflect.Toml.Parse

/-!
# Formats of settings files

A settings file is in the format that the ending of its name tells. A name that
is no file stands for the name with one of the endings behind it.

Three things are not decided by the program, and a `SettingsReader` holds them:
what a text holds that is not TOML, which of the formats is tried first, and the
order in which the fields of a layer come. Formats and fields come out of maps,
and what is proved for every reader holds for every order of these maps.
-/

namespace ZigReflect

/-- The formats of settings files. -/
inductive SettingsFormat where
  | toml
  | json
  | yaml
  | ini
  | ron
  | json5
deriving DecidableEq, Repr, Inhabited

namespace SettingsFormat

/-- All formats. -/
def all : List SettingsFormat := [.toml, .json, .yaml, .ini, .ron, .json5]

/-- The endings of file names in the format, in the order they are tried in. -/
def endings : SettingsFormat → List String
  | .toml => ["toml"]
  | .json => ["json"]
  | .yaml => ["yaml", "yml"]
  | .ini => ["ini"]
  | .ron => ["ron"]
  | .json5 => ["json5"]

/-- The format that an ending tells. -/
def ofEnding? (ending : String) : Option SettingsFormat :=
  all.find? fun format => format.endings.contains ending

/-- The endings of all formats. -/
def allEndings : List String := all.flatMap endings

end SettingsFormat

/-- The name with an ending behind it. -/
def FilePath.longer (name ending : String) : String :=
  (ofText name).trimmed.text ++ "." ++ ending

/-- Where a layer of settings comes from. -/
inductive SettingsSource where
  /-- A file that need not be there. -/
  | standing (name : String)
  /-- The file that is asked for. -/
  | asked (name : String)
  | environment
deriving DecidableEq, Repr, Inhabited

/-- What the program does not decide about the reading of settings. -/
structure SettingsReader where
  /-- The formats in the order they are tried in. -/
  formats : List SettingsFormat
  mem_formats : ∀ format, format ∈ formats
  /-- The fields of a text in a format other than TOML, unless it is malformed. -/
  foreign? : SettingsFormat → String → Option (List (String × Toml))
  /-- The fields of a layer in the order they come in. -/
  arrange : SettingsSource → List (String × Toml) → List (String × Toml)
  reordered : ∀ source fields, Toml.Reordered (.table fields) (.table (arrange source fields))

namespace SettingsReader

/-- The reader that reads TOML only, and fields in the order of the text. -/
def plain : SettingsReader where
  formats := SettingsFormat.all
  mem_formats := by rintro (_ | _ | _ | _ | _ | _) <;> decide
  foreign? _ _ := none
  arrange _ fields := fields
  reordered _ _ := .refl _

/-- The fields of a text in a format, unless it is malformed. -/
def fields? (r : SettingsReader) : SettingsFormat → String → Option (List (String × Toml))
  | .toml, text => Toml.parse? text
  | format, text => r.foreign? format text

/-- The names that a name is tried with where it is no file, and the format that
each of them tells. -/
def longerNames (r : SettingsReader) (name : String) : List (String × SettingsFormat) :=
  r.formats.flatMap fun format =>
    format.endings.map fun ending => (FilePath.longer name ending, format)

end SettingsReader

end ZigReflect
