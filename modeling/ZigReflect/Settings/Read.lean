import ZigReflect.Json.Record
import ZigReflect.Settings.Basic

/-!
# Reading settings from JSON

The settings as a JSON object, or any section of them as an array. Absent
fields and sections have their defaults.
-/

namespace ZigReflect

open Json

/-- Reads a path. -/
def readPath : Json → Read String := readText "path string"

/-- Reads a list of strings. -/
def readStrings : Nat → Json → Read (List String) := readList readString

namespace InputSettings

/-- The fields of the section. -/
def shape : RecordShape := { title := "struct InputConfig", fields := InputSettings.keys }

/-- Reads the section. -/
def ofJson (room : Nat) (v : Json) : Read InputSettings :=
  shape.read .text {}
    (fun s name v =>
      match name with
      | "types" => do return { s with types := ← readPath v }
      | _ => do return { s with protocol := ← readPath v })
    (fun _ s => .ok s) room v

end InputSettings

namespace OutputSettings

/-- The fields of the section. -/
def shape : RecordShape := { title := "struct OutputConfig", fields := OutputSettings.keys }

/-- Reads the section. -/
def ofJson (room : Nat) (v : Json) : Read OutputSettings :=
  shape.read .text {}
    (fun s name v =>
      match name with
      | "path" => do return { s with path := ← readPath v }
      | _ => do return { s with preamble := ← readOption readPath v })
    (fun _ s => .ok s) room v

end OutputSettings

namespace FormatterSettings

/-- The fields of the section. -/
def shape : RecordShape :=
  { title := "struct FormatterConfig", fields := FormatterSettings.keys }

/-- Reads the section. -/
def ofJson (room : Nat) (v : Json) : Read FormatterSettings :=
  shape.read .text {}
    (fun s name v =>
      match name with
      | "enabled" => do return { s with enabled := ← readBool v }
      | "command" => do return { s with command := ← readString v }
      | _ => do return { s with args := ← readStrings (room - 1) v })
    (fun _ s => .ok s) room v

end FormatterSettings

namespace FilterSettings

/-- The fields of the section. -/
def shape : RecordShape :=
  { title := "struct FilterConfig", fields := FilterSettings.keys }

/-- Reads the section. -/
def ofJson (room : Nat) (v : Json) : Read FilterSettings :=
  shape.read .text {}
    (fun s name v =>
      match name with
      | "exclude_patterns" => do return { s with excludePatterns := ← readStrings (room - 1) v }
      | _ => do return { s with excludedSources := ← readStrings (room - 1) v })
    (fun _ s => .ok s) room v

end FilterSettings

namespace SummarySettings

/-- The fields of the section. -/
def shape : RecordShape :=
  { title := "struct SummaryConfig", fields := SummarySettings.keys }

/-- Reads the section. -/
def ofJson (room : Nat) (v : Json) : Read SummarySettings :=
  shape.read .text {}
    (fun s name v =>
      match name with
      | "request_suffix" => do return { s with requestSuffix := ← readString v }
      | "request_union" => do return { s with requestUnion := ← readString v }
      | "notification_suffix" => do return { s with notificationSuffix := ← readString v }
      | _ => do return { s with notificationUnion := ← readString v })
    (fun _ s => .ok s) room v

end SummarySettings

namespace Settings

/-- The sections. -/
def shape : RecordShape :=
  { title := "struct GenConfig", fields := Settings.keys }

/-- Reads all sections. -/
def ofJson (room : Nat) (v : Json) : Read Settings :=
  shape.read .text {}
    (fun s name v =>
      match name with
      | "input" => do return { s with input := ← InputSettings.ofJson (room - 1) v }
      | "output" => do return { s with output := ← OutputSettings.ofJson (room - 1) v }
      | "formatter" => do return { s with formatter := ← FormatterSettings.ofJson (room - 1) v }
      | "filter" => do return { s with filter := ← FilterSettings.ofJson (room - 1) v }
      | _ => do return { s with summary := ← SummarySettings.ofJson (room - 1) v })
    (fun _ s => .ok s) room v

end Settings

/-- The settings that a JSON text holds. -/
def Settings.ofText : String → Read Settings := Json.readWhole Settings.ofJson

/-- The formatter settings that a JSON text holds. -/
def FormatterSettings.ofText : String → Read FormatterSettings :=
  Json.readWhole FormatterSettings.ofJson

end ZigReflect
