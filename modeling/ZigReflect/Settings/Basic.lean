/-!
# Settings

The settings of a run, section by section, with their defaults and the keys
under which they are read and written.
-/

namespace ZigReflect

/-- Where the two reflections are. -/
structure InputSettings where
  types : String := "types.json"
  protocol : String := "protocol.json"
deriving DecidableEq, Repr, Inhabited

/-- The keys of the section, in order. -/
def InputSettings.keys : List String := ["types", "protocol"]

/-- Where the output goes. -/
structure OutputSettings where
  path : String := "types.zig"
  /-- A file that replaces the built-in preamble. -/
  preamble : Option String := none
deriving DecidableEq, Repr, Inhabited

/-- The keys of the section, in order. -/
def OutputSettings.keys : List String := ["path", "preamble"]

/-- The formatter that is run on the output. -/
structure FormatterSettings where
  enabled : Bool := true
  command : String := "zig"
  /-- What stands before the path of the output. -/
  args : List String := ["fmt"]
deriving DecidableEq, Repr, Inhabited

/-- The keys of the section, in order. -/
def FormatterSettings.keys : List String := ["enabled", "command", "args"]

/-- The declarations that are left out. -/
structure FilterSettings where
  /-- Patterns for the names of top-level declarations: private names, bridging
  types, number aliases that are primitive, and aggregates of the preamble. -/
  excludePatterns : List String :=
    ["^_", "^(Protocol)?(Request|Notification)Type\\d*$", "Handler\\d*$", "HandlerResult",
      "Signature$", "^(u?integer|decimal)$", "^LSP.+"]
  /-- Pieces of the paths of foreign source files. -/
  excludedSources : List String := ["node_modules/vscode-jsonrpc"]
deriving DecidableEq, Repr, Inhabited

/-- The keys of the section, in order. -/
def FilterSettings.keys : List String := ["exclude_patterns", "excluded_sources"]

/-- The unions that are written after all declarations. -/
structure SummarySettings where
  requestSuffix : String := "Request"
  requestUnion : String := "Request"
  notificationSuffix : String := "Notification"
  notificationUnion : String := "Notification"
deriving DecidableEq, Repr, Inhabited

/-- The keys of the section, in order. -/
def SummarySettings.keys : List String :=
  ["request_suffix", "request_union", "notification_suffix", "notification_union"]

/-- All settings of a run. -/
structure Settings where
  input : InputSettings := {}
  output : OutputSettings := {}
  formatter : FormatterSettings := {}
  filter : FilterSettings := {}
  summary : SummarySettings := {}
deriving DecidableEq, Repr, Inhabited

/-- The keys of the sections, in order. -/
def Settings.keys : List String := ["input", "output", "formatter", "filter", "summary"]

end ZigReflect
