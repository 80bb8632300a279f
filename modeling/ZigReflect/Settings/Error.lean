/-!
# Errors in settings

Why the settings of a run cannot be loaded.
-/

namespace ZigReflect

/-- Why settings cannot be loaded. -/
inductive SettingsError where
  /-- A file that was asked for is missing or cannot be read. -/
  | unavailable (path : String)
  /-- A file is not well-formed in its format. -/
  | malformed (path : String)
  /-- A value cannot become the text or the truth value that is wanted. -/
  | unsuitable (wanted : String)
  /-- A value stands where a section or a list is wanted. -/
  | misplaced (wanted : String)
deriving DecidableEq, Repr, Inhabited

/-- The message of an error in settings. -/
def SettingsError.message : SettingsError → String
  | .unavailable path => "configuration file \"" ++ path ++ "\" not found"
  | .malformed path => "configuration file \"" ++ path ++ "\" is not well-formed"
  | .unsuitable wanted => "invalid type: expected " ++ wanted
  | .misplaced wanted => "invalid value: expected " ++ wanted

end ZigReflect
