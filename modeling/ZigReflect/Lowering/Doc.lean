import ZigReflect.Emission
import ZigReflect.Reflection.Basic

/-!
# Doc comments

Every line of a comment becomes a line that starts with `///`.
-/

namespace ZigReflect.Lowering

/-- One line of a doc comment. -/
def docLine (line : String) : String :=
  let line := Text.trimEnd line
  if line.isEmpty then "///\n" else "/// " ++ line ++ "\n"

/-- The doc comment of a text. -/
def docText (blurb : String) : String :=
  String.join ((Text.lines blurb).map docLine)

/-- Writes the doc comment of a declaration, if it has one. -/
def doc (d : Declaration) : Emission Unit :=
  match d.doc with
  | some blurb => Emission.write (docText blurb)
  | none => pure ()

end ZigReflect.Lowering
