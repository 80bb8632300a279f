import ZigReflect.Keyed
import ZigReflect.Settings.Basic
import ZigReflect.Text.Find
import ZigReflect.Toml.Scalar

/-!
# Settings from the environment

A variable whose name starts with `TYPEDOC_ZIG__`, in either case, sets the key
that the rest of its name spells, with `__` between the names of the path. Its
value is read as a truth value, an integer, a float or, when it is none of
them, as a text.
-/

namespace ZigReflect.Environment

open ZigReflect.Text

/-- What the names of the variables start with, in lower case. -/
def variablePrefix : List Char := "typedoc_zig__".toList

/-- The text with a point for each `__`. -/
def pointed : List Char → List Char
  | '_' :: '_' :: rest => '.' :: pointed rest
  | c :: rest => c :: pointed rest
  | [] => []

/-- The key that a variable sets. -/
def key? (name : String) : Option String :=
  let chars := (lower name).toList
  if variablePrefix.isPrefixOf chars then
    some (String.ofList (pointed (chars.drop variablePrefix.length)))
  else none

/-- An integer of 64 bits. -/
def integer? (cs : List Char) : Option Toml :=
  let (negative, digits) := Toml.splitSign cs
  if digits.isEmpty || !digits.all isDigit then none
  else
    let n : Int := digitsValue digits
    Toml.fitInteger (if negative then -n else n)

/-- The exponent of a float: none at all, or a mark and digits with a sign. -/
def exponent? : List Char → Option Int
  | [] => some 0
  | e :: rest =>
    if e != 'e' && e != 'E' then none
    else
      let (down, digits) := Toml.splitSign rest
      if digits.isEmpty || !digits.all isDigit then none
      else some (if down then -(digitsValue digits : Int) else digitsValue digits)

/-- A float without its sign: digits on one side of a point at least, or the
word for an infinite or undefined one. -/
def magnitude? (negative : Bool) (cs : List Char) : Option Double :=
  match String.ofList (cs.map lowerAscii) with
  | "inf" | "infinity" => some (.infinite negative)
  | "nan" => some .nan
  | _ =>
    let whole := cs.takeWhile isDigit
    let (fraction, rest) := match cs.dropWhile isDigit with
      | '.' :: rest => (rest.takeWhile isDigit, rest.dropWhile isDigit)
      | rest => ([], rest)
    if whole.isEmpty && fraction.isEmpty then none
    else (exponent? rest).map fun e =>
      Double.ofDecimal negative (digitsValue (whole ++ fraction)) (e - fraction.length)

/-- A float. -/
def float? (cs : List Char) : Option Toml :=
  let (negative, rest) := Toml.splitSign cs
  (magnitude? negative rest).map .float

/-- The value of a variable. -/
def value (s : String) : Toml :=
  match lower s with
  | "true" => .bool true
  | "false" => .bool false
  | _ =>
    match integer? s.toList with
    | some v => v
    | none => (float? s.toList).getD (.string s)

/-- Sets the key of a variable to its value. -/
def addVariable (fields : List (String × Toml)) (x : String × String) : List (String × Toml) :=
  match key? x.1 with
  | some key => Keyed.set fields key (value x.2)
  | none => fields

/-- The fields that the variables set. The last one that sets a key decides. -/
def layer (env : List (String × String)) : List (String × Toml) :=
  env.foldl addVariable []

/-- The names of the variables that set the keys of a section. -/
def variablesOf (name : String) (keys : List String) : List String :=
  keys.map fun key => "TYPEDOC_ZIG__" ++ name.toUpper ++ "__" ++ key.toUpper

/-- The names of all variables that set something, in capitals. -/
def variableNames : List String :=
  variablesOf "input" InputSettings.keys ++ variablesOf "output" OutputSettings.keys ++
    variablesOf "formatter" FormatterSettings.keys ++ variablesOf "filter" FilterSettings.keys ++
    variablesOf "summary" SummarySettings.keys

end ZigReflect.Environment
