import ZigReflect.Lowering.Basic

/-!
# Top-level declarations

A top-level declaration is written at most once for each name in a run. What
records a name is that something was written under it: a declaration that is
left out leaves its name free for a later one.
-/

namespace ZigReflect

/-- Writes a declaration and a blank line, unless its name has been emitted.
The result is whether anything was written. -/
def Pair.emitTopLevel (pair : Pair) (d : Declaration) : Emission Bool := do
  if (← Emission.emittedNames).contains d.name then
    Emission.note (.alreadyEmitted d.name (← Emission.reading))
    return false
  else
    let written ← pair.emitDeclaration d
    if written then
      Emission.record d.name
      Emission.write "\n"
    return written

end ZigReflect
