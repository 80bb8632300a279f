import ZigReflect.Settings.Basic

/-!
# Command lines

The options of a command line. An option stands once, a path is not empty, and
nothing stands on its own. Arguments are read from left to right, and the first
one that asks for help or is misused decides.
-/

namespace ZigReflect

/-- What a command line asks for. -/
structure Options where
  types : Option String := none
  protocol : Option String := none
  output : Option String := none
  /-- A settings file over the standing ones. -/
  config : Option String := none
  noFormat : Bool := false
  dryRun : Bool := false
  check : Bool := false
  verbose : Bool := false
deriving DecidableEq, Repr, Inhabited

/-- What a command line comes to. -/
inductive Invocation where
  | run (options : Options)
  | help
  | misuse
deriving DecidableEq, Repr, Inhabited

/-- The options that take a value. -/
inductive ValueOption where
  | types
  | protocol
  | output
  | config
deriving DecidableEq, Repr, Inhabited

/-- The options that take none. -/
inductive Flag where
  | noFormat
  | dryRun
  | check
  | verbose
  | help
deriving DecidableEq, Repr, Inhabited

/-- What an option's name stands for. -/
inductive OptionName where
  | value (option : ValueOption)
  | flag (flag : Flag)
deriving DecidableEq, Repr, Inhabited

namespace OptionName

/-- The option with a long name. -/
def ofLong? : String → Option OptionName
  | "types" => some (.value .types)
  | "protocol" => some (.value .protocol)
  | "output" => some (.value .output)
  | "config" => some (.value .config)
  | "no-format" => some (.flag .noFormat)
  | "dry-run" => some (.flag .dryRun)
  | "check" => some (.flag .check)
  | "verbose" => some (.flag .verbose)
  | "help" => some (.flag .help)
  | _ => none

/-- The option with a letter. -/
def ofLetter? : Char → Option OptionName
  | 't' => some (.value .types)
  | 'p' => some (.value .protocol)
  | 'o' => some (.value .output)
  | 'c' => some (.value .config)
  | 'v' => some (.flag .verbose)
  | 'h' => some (.flag .help)
  | _ => none

end OptionName

namespace Options

/-- Sets a value that has not been set; a path is not empty. -/
def setValue (o : Options) : ValueOption → String → Option Options
  | .types, v => if o.types.isSome || v.isEmpty then none else some { o with types := some v }
  | .protocol, v =>
    if o.protocol.isSome || v.isEmpty then none else some { o with protocol := some v }
  | .output, v => if o.output.isSome || v.isEmpty then none else some { o with output := some v }
  | .config, v => if o.config.isSome then none else some { o with config := some v }

/-- Sets a flag that has not been set. -/
def setFlag (o : Options) : Flag → Option Options
  | .noFormat => if o.noFormat then none else some { o with noFormat := true }
  | .dryRun => if o.dryRun then none else some { o with dryRun := true }
  | .check => if o.check then none else some { o with check := true }
  | .verbose => if o.verbose then none else some { o with verbose := true }
  | .help => none

/-- The settings with what the command line says instead. -/
def apply (o : Options) (s : Settings) : Settings :=
  { s with
    input :=
      { types := o.types.getD s.input.types, protocol := o.protocol.getD s.input.protocol }
    output := { s.output with path := o.output.getD s.output.path }
    formatter := { s.formatter with enabled := s.formatter.enabled && !o.noFormat } }

end Options

/-- What one argument comes to. -/
inductive Reading where
  | done (options : Options)
  /-- The next argument is the value of an option. -/
  | pending (options : Options) (option : ValueOption)
  | help
  | misuse
deriving DecidableEq, Repr, Inhabited

namespace Reading

/-- The reading of an option that has been set, or could not be. -/
def ofSet : Option Options → Reading
  | some o => .done o
  | none => .misuse

/-- Reads an argument of letters: flags, and at last an option that may have
its value right after it, with or without a sign of equality. -/
def ofLetters (o : Options) : List Char → Reading
  | [] => .done o
  | c :: rest =>
    match OptionName.ofLetter? c with
    | none => .misuse
    | some (.flag .help) => .help
    | some (.flag flag) =>
      match o.setFlag flag with
      | none => .misuse
      | some o => ofLetters o rest
    | some (.value option) =>
      match rest with
      | [] => .pending o option
      | '=' :: value => ofSet (o.setValue option (String.ofList value))
      | value => ofSet (o.setValue option (String.ofList value))

/-- Reads an argument with a long name, and with its value after a sign of
equality. -/
def ofLong (o : Options) (cs : List Char) : Reading :=
  let name := String.ofList (cs.takeWhile (· != '='))
  match OptionName.ofLong? name, cs.dropWhile (· != '=') with
  | some (.flag .help), [] => .help
  | some (.flag flag), [] => ofSet (o.setFlag flag)
  | some (.value option), [] => .pending o option
  | some (.value option), _ :: value => ofSet (o.setValue option (String.ofList value))
  | _, _ => .misuse

end Reading

namespace Invocation

/-- Whether an argument can only be an option. -/
def isOption (arg : String) : Bool :=
  match arg.toList with
  | '-' :: _ :: _ => true
  | _ => false

/-- Reads arguments after some options have been read. -/
def readArgs (o : Options) : List String → Invocation
  | [] => .run o
  | arg :: rest =>
    let reading : Reading := match arg.toList with
      | ['-', '-'] => if rest.isEmpty then .done o else .misuse
      | '-' :: '-' :: name => Reading.ofLong o name
      | '-' :: c :: letters => Reading.ofLetters o (c :: letters)
      | _ => .misuse
    match reading with
    | .done o => readArgs o rest
    | .help => .help
    | .misuse => .misuse
    | .pending o option =>
      match rest with
      | [] => .misuse
      | value :: rest =>
        if isOption value then .misuse
        else
          match o.setValue option value with
          | some o => readArgs o rest
          | none => .misuse

/-- What the arguments of a command line come to. -/
def ofArgs : List String → Invocation := readArgs {}

end Invocation

/-- What is printed when help is asked for. -/
def helpText : String :=
  "\n".intercalate [
    "Generate Zig declarations from TypeDoc reflections",
    "",
    "Usage: typedoc-zig [OPTIONS]",
    "",
    "Options:",
    "  -t, --types <TYPES>        Reflection of the foundational types library",
    "  -p, --protocol <PROTOCOL>  Reflection of the protocol library",
    "  -o, --output <OUTPUT>      Output file",
    "  -c, --config <CONFIG>      Configuration file layered over the defaults",
    "      --no-format            Skip the external formatter",
    "      --dry-run              Generate but don't write",
    "      --check                Compare against the existing output; exit 1 on drift",
    "  -v, --verbose              Show debug logging",
    "  -h, --help                 Print help",
    ""]

/-- What is said of a command line that is misused. -/
def misuseText : String :=
  "\n".intercalate [
    "error: invalid arguments",
    "",
    "Usage: typedoc-zig [OPTIONS]",
    "",
    "For more information, try '--help'.",
    ""]

end ZigReflect
