import ZigReflect.Machine
import ZigReflect.Notice
import ZigReflect.Settings.Basic
import ZigReflect.Text.Blank

/-!
# The formatter

The formatter is a command that is run on a file after its other arguments. How
it ends is only noted: a formatter that fails, or that is not there, never makes
a run fail.
-/

namespace ZigReflect

/-- What became of formatting a file. -/
inductive FormatOutcome where
  | formatted
  | disabled
  | failed (reason : String)
deriving DecidableEq, Repr, Inhabited

namespace FormatOutcome

/-- Why an ending is a failure. -/
def reasonText (code complaint : String) : String :=
  "exit code " ++ code ++ ": " ++ Text.trim complaint

/-- The outcome of a command's ending. A command that a signal ends counts as
one with the code -1. -/
def ofEnding : Ending → FormatOutcome
  | .unavailable error => .failed error.message
  | .exited 0 _ => .formatted
  | .exited code complaint => .failed (reasonText (toString code) complaint)
  | .killed complaint => .failed (reasonText "-1" complaint)

/-- What is noted of the outcome. -/
def notices (command path : String) : FormatOutcome → List Notice
  | .formatted => [.formatted command path]
  | .failed reason => [.formatterFailed command reason]
  | .disabled => []

end FormatOutcome

/-- What a step on the files leaves: the files, what it noted, and its result. -/
structure Step (ε α : Type) where
  tree : Tree
  notices : List Notice
  result : Except ε α

/-- The step with notices in front of its own. -/
def Step.after {ε α : Type} (s : Step ε α) (earlier : List Notice) : Step ε α :=
  { s with notices := earlier ++ s.notices }

/-- The step with its error in another form. -/
def Step.mapError {ε δ α : Type} (s : Step ε α) (f : ε → δ) : Step δ α :=
  { tree := s.tree, notices := s.notices, result := s.result.mapError f }

namespace Machine

/-- Runs the formatter on a file. -/
def runFormatter (m : Machine) (s : FormatterSettings) (path : String) (t : Tree) :
    Tree × FormatOutcome :=
  if s.enabled then
    let (t, ending) := m.launch t s.command (s.args ++ [path])
    (t, .ofEnding ending)
  else (t, .disabled)

/-- The files without the scratch file. -/
def clearScratch (m : Machine) (t : Tree) : Tree :=
  match t.remove m.cwd m.scratch with
  | .ok t => t
  | .error _ => t

/-- The text as the formatter would leave it in a file, or unchanged when the
formatter is disabled or fails. It is formatted in the scratch file, which is
removed again unless its text cannot be read back. -/
def formatText (m : Machine) (s : FormatterSettings) (code : String) (t : Tree) :
    Step FileError String :=
  if s.enabled then
    match t.write m.cwd m.scratch code.toUTF8 with
    | .error e => ⟨t, [], .error e⟩
    | .ok t =>
      let (t, outcome) := m.runFormatter s m.scratch t
      let notices := outcome.notices s.command m.scratch
      match outcome with
      | .formatted =>
        match m.readText t m.scratch with
        | .ok text => ⟨m.clearScratch t, notices, .ok text⟩
        | .error e => ⟨t, notices, .error e⟩
      | _ => ⟨m.clearScratch t, notices, .ok code⟩
  else ⟨t, [], .ok code⟩

end Machine

end ZigReflect
