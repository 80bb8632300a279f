import ZigReflect.Notice
import ZigReflect.Pattern.Match
import ZigReflect.Pattern.Parse
import ZigReflect.Settings.Basic

/-!
# The exclusion filter

Top-level declarations are left out by a pattern for their name, or by a piece
of the path of a file they were found in.
-/

namespace ZigReflect

/-- A pattern with the expression it stands for. -/
structure NamePattern where
  source : String
  regex : Pattern.Regex

/-- What is left out. -/
structure Filter where
  patterns : List NamePattern
  sources : List String

namespace Filter

/-- Reads a pattern. -/
def readPattern (source : String) : Except Failure NamePattern :=
  match Pattern.parse? source with
  | some regex => .ok ⟨source, regex⟩
  | none => .error (.invalidPattern source)

/-- The filter of the settings, unless a pattern is not well formed. -/
def ofSettings (s : FilterSettings) : Except Failure Filter := do
  return ⟨← s.excludePatterns.mapM readPattern, s.excludedSources⟩

/-- The notice of a declaration that is left out: the first pattern that its
name matches, or the first of its files that is foreign. -/
def exclusion? (f : Filter) (d : Declaration) : Option Notice :=
  match f.patterns.find? fun p => p.regex.isMatch d.name with
  | some p => some (.excludedByName d.name p.source)
  | none =>
    (d.sources.find? fun file => f.sources.any fun piece => Text.contains file piece).map
      fun file => .excludedBySource d.name file

end Filter

end ZigReflect
