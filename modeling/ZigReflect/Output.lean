import ZigReflect.Formatter

/-!
# Writing output

Output is written to its file as a whole, after the directory of the file has
been made where it is missing.
-/

namespace ZigReflect.Machine

/-- Writes a text to a file, and makes the directory of the file. -/
def writeOutput (m : Machine) (path content : String) (t : Tree) : Step FileError Unit :=
  match t.makeParent m.cwd path with
  | (t, .error e) => ⟨t, [], .error e⟩
  | (t, .ok _) =>
    match t.write m.cwd path content.toUTF8 with
    | .ok t => ⟨t, [], .ok ()⟩
    | .error e => ⟨t, [], .error e⟩

end ZigReflect.Machine
