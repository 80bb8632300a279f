import ZigReflect.Command.Options
import ZigReflect.Drift.Report
import ZigReflect.Load
import ZigReflect.Output
import ZigReflect.Settings.Load
import ZigReflect.Walk

/-!
# Runs

A run loads its settings and documents, generates the code, and writes it to
the output file or compares it with that file. It reaches for the output only
when all of the code has been generated.
-/

namespace ZigReflect

/-- How a run ends that does not fail. -/
inductive Verdict where
  /-- The code was generated and, unless this was a dry run, written. -/
  | generated
  | missing (path : String)
  | outOfDate (path diff : String)
  | upToDate (path : String)
deriving DecidableEq, Repr, Inhabited

/-- The verdict of a report. -/
def Verdict.ofReport (r : DriftReport) : Verdict :=
  if r.missing then .missing r.path
  else if r.inSync then .upToDate r.path
  else .outOfDate r.path r.diff

/-- Why a run fails. -/
inductive RunFailure where
  | settings (error : SettingsError)
  /-- The documents at two paths cannot be loaded. -/
  | loading (types protocol : String) (failure : Failure)
  | work (failure : Failure)
deriving DecidableEq, Repr, Inhabited

namespace RunFailure

/-- The messages of a failure and of what caused it. -/
def chain : RunFailure → List String
  | .settings error => ["loading configuration", error.message]
  | .loading types protocol failure => ("loading " ++ types ++ " and " ++ protocol) :: failure.chain
  | .work failure => failure.chain

/-- The message of a failure. -/
def message (f : RunFailure) : String :=
  "Error: " ++ ": ".intercalate f.chain

end RunFailure

namespace Machine

/-- Compares the output file with the code as the formatter leaves it. -/
def compareOutput (m : Machine) (s : Settings) (code : String) (t : Tree) :
    Step FileError Verdict :=
  let expected := m.formatText s.formatter code t
  match expected.result with
  | .error e => ⟨expected.tree, expected.notices, .error e⟩
  | .ok text =>
    ⟨expected.tree, expected.notices,
      (m.driftReport expected.tree s.output.path text).map Verdict.ofReport⟩

/-- Writes the code to the output file and formats it there. -/
def deliverOutput (m : Machine) (s : Settings) (g : Generated) (t : Tree) :
    Step FileError Verdict :=
  let path := s.output.path
  let written := m.writeOutput path g.code t
  match written.result with
  | .error e => ⟨written.tree, written.notices, .error e⟩
  | .ok _ =>
    let (t, outcome) := m.runFormatter s.formatter path written.tree
    ⟨t, written.notices ++ .written path g.code.utf8ByteSize g.declarations ::
      outcome.notices s.formatter.command path, .ok .generated⟩

/-- What a run does with its code. -/
def finish (m : Machine) (o : Options) (s : Settings) (g : Generated) (t : Tree) :
    Step FileError Verdict :=
  if o.check then m.compareOutput s g.code t
  else if o.dryRun then
    ⟨t, [.dryRun s.output.path g.code.utf8ByteSize], .ok .generated⟩
  else m.deliverOutput s g t

/-- A whole run. -/
def run (m : Machine) (o : Options) (t : Tree) : Step RunFailure Verdict :=
  match m.loadSettings t o.config with
  | .error e => ⟨t, [], .error (.settings e)⟩
  | .ok loaded =>
    let s := o.apply loaded
    match m.loadPair t s.input.types s.input.protocol with
    | .error e => ⟨t, [], .error (.loading s.input.types s.input.protocol e)⟩
    | .ok pair =>
      let start := Notice.loaded pair.types.size pair.protocol.size
      let noted := pair.generateWith s (m.readText t)
      match noted.result with
      | .error e => ⟨t, start :: noted.notices, .error (.work e)⟩
      | .ok g =>
        ((m.finish o s g t).mapError fun e => .work (.file e)).after (start :: noted.notices)

end Machine

/-- What a command line leaves behind. -/
structure Session where
  exit : Nat
  stdout : String
  stderr : String
  notices : List Notice
  tree : Tree

/-- The exit code of a verdict. -/
def Verdict.exit : Verdict → Nat
  | .generated | .upToDate _ => 0
  | .missing _ | .outOfDate _ _ => 1

/-- What a verdict prints. -/
def Verdict.stdout : Verdict → String
  | .outOfDate _ diff => diff
  | _ => ""

/-- What a verdict says beside. -/
def Verdict.stderr : Verdict → String
  | .generated => ""
  | .missing path => path ++ " does not exist\n"
  | .outOfDate path _ => path ++ " is out of date\n"
  | .upToDate path => path ++ " is up to date\n"

/-- The session of a run. -/
def Session.ofRun (r : Step RunFailure Verdict) : Session :=
  match r.result with
  | .ok v => ⟨v.exit, v.stdout, v.stderr, r.notices, r.tree⟩
  | .error e => ⟨1, "", e.message ++ "\n", r.notices, r.tree⟩

/-- Carries out a command line. -/
def Machine.carryOut (m : Machine) (args : List String) (t : Tree) : Session :=
  match Invocation.ofArgs args with
  | .help => ⟨0, helpText, "", [], t⟩
  | .misuse => ⟨2, "", misuseText, [], t⟩
  | .run o => .ofRun (m.run o t)

end ZigReflect
