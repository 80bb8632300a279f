import ZigReflect.Checksum
import ZigReflect.Filter
import ZigReflect.Preamble
import ZigReflect.TopLevel

/-!
# Generation

A run visits the top level of the types, the members of the protocol's internal
container, and the top level of the protocol, each in the order of ids, and
writes what the filter leaves in. Two summary unions over the names that carry
a suffix follow. The code is the preamble and all of that text.
-/

namespace ZigReflect

/-- What a run generates. -/
structure Generated where
  /-- The preamble and all declarations. -/
  code : String
  /-- How many top-level declarations were written, the unions apart. -/
  declarations : Nat
  checksum : Checksum

/-- Notices in order, and a result or a failure. -/
structure Noted (α : Type) where
  notices : List Notice
  result : Except Failure α

/-- The members of the internal container in the order of their ids. -/
def Document.internalMembers (doc : Document) : List Declaration :=
  match doc.internal with
  | some d => d.sortedChildren
  | none => []

namespace Pair

/-- Visits one declaration of the document that is being read. -/
def visit (pair : Pair) (exclusion? : Declaration → Option Notice) (d : Declaration) :
    Emission Unit :=
  match exclusion? d with
  | some n => Emission.note n
  | none => do
    if ← pair.emitTopLevel d then
      Emission.note (.emitted d.name (← Emission.reading) d.kind)

/-- Visits the declarations of a list. -/
def visitAll (pair : Pair) (exclusion? : Declaration → Option Notice) (ds : List Declaration) :
    Emission Unit :=
  Emission.all (ds.map (pair.visit exclusion?))

/-- Visits the types, then the protocol, its internal container first. -/
def walk (pair : Pair) (exclusion? : Declaration → Option Notice) : Emission Unit := do
  Emission.within .types (pair.visitAll exclusion? pair.types.topLevel)
  Emission.within .protocol do
    pair.visitAll exclusion? pair.protocol.internalMembers
    pair.visitAll exclusion? pair.protocol.topLevel

end Pair

/-- The text of a summary union over its cases. -/
def summaryText (union : String) (members : List String) : String :=
  let cases := members.map fun m => m ++ ": " ++ m
  let body := if cases.isEmpty then "\x7b\x7d" else "\x7b " ++ ", ".intercalate cases ++ " \x7d"
  "pub const " ++ Zig.identifier union ++ " = union(enum) " ++ body ++ ";\n\n"

/-- Writes the union over the names with a suffix, unless its own name has been
emitted. -/
def summaryUnion (union suffix : String) : Emission Unit := do
  let names ← Emission.emittedNames
  if names.contains union then
    Emission.note (.unionNameTaken union)
  else
    let members := (names.endingWith suffix).map Zig.identifier
    Emission.write (summaryText union members)
    Emission.note (.unionEmitted union members.length)
    Emission.record union

/-- The preamble, ended by a line feed unless it is empty. -/
def closePreamble (preamble : String) : String :=
  if preamble.isEmpty || Text.endsWith preamble "\n" then preamble else preamble ++ "\n"

/-- The declarations and summary unions of a run; the result is how many
declarations there are. -/
def Pair.body (pair : Pair) (exclusion? : Declaration → Option Notice)
    (summary : SummarySettings) : Emission Nat := do
  pair.walk exclusion?
  let names ← Emission.emittedNames
  summaryUnion summary.requestUnion summary.requestSuffix
  summaryUnion summary.notificationUnion summary.notificationSuffix
  return names.size

/-- Generates the code of a run. -/
def Pair.generate (pair : Pair) (exclusion? : Declaration → Option Notice)
    (summary : SummarySettings) (preamble : String) : Noted Generated :=
  match (pair.body exclusion? summary).on (.fresh .types) with
  | (.error f, e) => ⟨e.notices.toList, .error f⟩
  | (.ok count, e) =>
    let code := closePreamble preamble ++ e.text
    let checksum := Checksum.ofText code
    ⟨e.notices.toList ++ [.complete count code.utf8ByteSize checksum.short],
      .ok ⟨code, count, checksum⟩⟩

/-- The preamble that the settings ask for; `read` reads a file. -/
def OutputSettings.preambleText (s : OutputSettings) (read : String → Except FileError String) :
    Except FileError String :=
  match s.preamble with
  | some path => read path
  | none => .ok defaultPreamble

/-- Generates the code of a run under its settings; `read` reads a file. -/
def Pair.generateWith (pair : Pair) (s : Settings) (read : String → Except FileError String) :
    Noted Generated :=
  match Filter.ofSettings s.filter with
  | .error e => ⟨[], .error e⟩
  | .ok filter =>
    match s.output.preambleText read with
    | .error e => ⟨[], .error (.file e)⟩
    | .ok preamble => pair.generate filter.exclusion? s.summary preamble

end ZigReflect
