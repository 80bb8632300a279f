import ZigReflect.Machine
import ZigReflect.Settings.Basic
import ZigReflect.Toml.Write

/-!
# Saving settings

Settings are written section by section, all keys with their values. Only a
preamble that is not set is left out.
-/

namespace ZigReflect

open Toml

/-- The section as TOML. -/
def InputSettings.save (s : InputSettings) : String :=
  sectionText "input"
    [fieldText "types" (stringText s.types), fieldText "protocol" (stringText s.protocol)]

/-- The section as TOML. -/
def OutputSettings.save (s : OutputSettings) : String :=
  sectionText "output"
    (fieldText "path" (stringText s.path) ::
      s.preamble.toList.map fun p => fieldText "preamble" (stringText p))

/-- The section as TOML. -/
def FormatterSettings.save (s : FormatterSettings) : String :=
  sectionText "formatter"
    [fieldText "enabled" (boolText s.enabled), fieldText "command" (stringText s.command),
      fieldText "args" (listText s.args)]

/-- The section as TOML. -/
def FilterSettings.save (s : FilterSettings) : String :=
  sectionText "filter"
    [fieldText "exclude_patterns" (listText s.excludePatterns),
      fieldText "excluded_sources" (listText s.excludedSources)]

/-- The section as TOML. -/
def SummarySettings.save (s : SummarySettings) : String :=
  sectionText "summary"
    [fieldText "request_suffix" (stringText s.requestSuffix),
      fieldText "request_union" (stringText s.requestUnion),
      fieldText "notification_suffix" (stringText s.notificationSuffix),
      fieldText "notification_union" (stringText s.notificationUnion)]

/-- The settings as TOML. -/
def Settings.save (s : Settings) : String :=
  "\n".intercalate
    [s.input.save, s.output.save, s.formatter.save, s.filter.save, s.summary.save]

/-- Writes settings to a file. -/
def Machine.saveSettings (m : Machine) (t : Tree) (s : Settings) (path : String) :
    Except FileError Tree :=
  t.write m.cwd path s.save.toUTF8

end ZigReflect
