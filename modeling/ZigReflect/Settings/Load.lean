import ZigReflect.Machine
import ZigReflect.Settings.Coerce
import ZigReflect.Settings.Environment

/-!
# Loading settings

The settings are merged from layers, and what a higher layer sets wins: three
files of the working directory, the file of the user, a file that is asked for,
and the environment. Only the file that is asked for has to be there.
-/

namespace ZigReflect

namespace Machine

/-- The file that the name of a settings file stands for, with its format: the
file itself when its ending tells one, or, where there is none, the first file
of that name with an ending behind it. -/
def settingsFile? (m : Machine) (t : Tree) (name : String) : Option (String × SettingsFormat) :=
  let path := FilePath.ofText name
  if m.isFile t name then
    (path.extension?.bind SettingsFormat.ofEnding?).map (name, ·)
  else if path.fileName?.isNone then none
  else (m.reader.longerNames name).find? fun x => m.isFile t x.1

/-- The text of the settings file that a name stands for, with its format. -/
def settingsText? (m : Machine) (t : Tree) (name : String) : Option (SettingsFormat × String) :=
  (m.settingsFile? t name).bind fun x => (m.readText t x.1).toOption.map (x.2, ·)

/-- The fields that a settings file sets. -/
def fileLayer (m : Machine) (t : Tree) (required : Bool) (name : String) :
    Coerced (List (String × Toml)) :=
  match m.settingsText? t name with
  | none => if required then .error (.unavailable name) else .ok []
  | some (format, text) =>
    match m.reader.fields? format text with
    | none => .error (.malformed name)
    | some fields =>
      .ok (m.reader.arrange (if required then .asked name else .standing name) fields)

/-- The fields that the environment sets. -/
def environmentLayer (m : Machine) : List (String × Toml) :=
  m.reader.arrange .environment (Environment.layer m.env)

/-- The settings file of the user. -/
def userFile (m : Machine) : String :=
  FilePath.join m.configHome "typedoc-zig/typedoc-zig.toml"

/-- The files that need not be there, lowest layer first. -/
def standingFiles (m : Machine) (t : Tree) : List String :=
  ["typedoc-zig.toml", ".typedoc-zig.toml", "config/typedoc-zig.toml"] ++
    if t.exists? m.cwd (.ofText m.userFile) then [m.userFile] else []

/-- The layers that set something, lowest first. -/
def layers (m : Machine) (t : Tree) (asked : Option String) :
    Coerced (List (List (String × Toml))) := do
  let standing ← (m.standingFiles t).mapM (m.fileLayer t false)
  let wanted ← asked.toList.mapM (m.fileLayer t true)
  return standing ++ wanted ++ [m.environmentLayer]

/-- The settings of a run; `asked` is the file that is asked for. -/
def loadSettings (m : Machine) (t : Tree) (asked : Option String) : Coerced Settings := do
  let layers ← m.layers t asked
  Settings.ofToml (layers.foldl Toml.addLayer (.table []))

end Machine

end ZigReflect
