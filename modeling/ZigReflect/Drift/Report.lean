import ZigReflect.Drift.Unified
import ZigReflect.Machine

/-!
# Drift reports

A report compares freshly generated code with the file that it was once written
to. A file that is missing is never in sync, not even with an empty text.
-/

namespace ZigReflect

/-- How a file compares with freshly generated code. -/
structure DriftReport where
  path : String
  missing : Bool
  /-- What changes from the file to the code; empty when they are equal. -/
  diff : String
deriving DecidableEq, Repr, Inhabited

/-- Whether the file holds the code. -/
def DriftReport.inSync (r : DriftReport) : Bool :=
  !r.missing && r.diff.isEmpty

/-- Compares the file at a path with a text. -/
def Machine.driftReport (m : Machine) (t : Tree) (path generated : String) :
    Except FileError DriftReport :=
  if t.exists? m.cwd (.ofText path) then
    match m.readText t path with
    | .ok current => .ok ⟨path, false, Drift.unified path "generated" current generated⟩
    | .error e => .error e
  else .ok ⟨path, true, ""⟩

end ZigReflect
