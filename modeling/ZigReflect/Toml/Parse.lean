import ZigReflect.Toml.Scalar
import ZigReflect.Toml.Table

/-!
# Reading TOML

A text is read line by line into a table. A key stands once in a table, and a
header once in a text.
-/

namespace ZigReflect.Toml

open ZigReflect.Text

/-- Whether the character can stand in a bare key. -/
def isKeyChar (c : Char) : Bool :=
  isLetter c || isDigit c || c == '_' || c == '-'

/-- One part of a key. -/
def simpleKey? (cs : List Char) : Option (String × List Char) :=
  match cs with
  | '"' :: '"' :: '"' :: _ => none
  | '\'' :: '\'' :: '\'' :: _ => none
  | '"' :: _ => string? cs
  | '\'' :: _ => string? cs
  | cs =>
    let name := cs.takeWhile isKeyChar
    if name.isEmpty then none else some (String.ofList name, cs.dropWhile isKeyChar)

/-- The parts of a key with dots, `room` at most, and what follows. -/
def keyParts? : Nat → List Char → Option (List String × List Char)
  | 0, _ => none
  | room + 1, cs =>
    match simpleKey? (dropSpace cs) with
    | none => none
    | some (part, rest) =>
      match dropSpace rest with
      | '.' :: rest => (keyParts? room rest).map fun (parts, rest) => (part :: parts, rest)
      | rest => some ([part], rest)

/-- How many parts a key may have, and how deeply arrays and inline tables may
stand inside each other. -/
def nesting : Nat := 79

/-- A key with dots: its parts, and what follows. -/
def key? (cs : List Char) : Option (List String × List Char) :=
  keyParts? nesting cs

/-- Drops a comment up to the end of its line. -/
def dropComment? : List Char → Option (List Char)
  | '#' :: rest =>
    let rest := rest.dropWhile isRaw
    match rest with
    | [] => some []
    | '\n' :: _ => some rest
    | '\r' :: '\n' :: _ => some rest
    | _ => none
  | cs => some cs

/-- Drops blanks, line ends and comments. -/
def dropGaps : Nat → List Char → Option (List Char)
  | 0, cs => some cs
  | fuel + 1, cs =>
    match dropComment? (dropSpace cs) with
    | none => none
    | some cs =>
      match dropNewline? cs with
      | some rest => dropGaps fuel rest
      | none => some cs

/-- The path and the last part of a key. -/
def splitKey (parts : List String) : List String × String :=
  (parts.dropLast, parts.getLastD "")

mutual

/-- A value, and what follows it. Inside it, arrays and inline tables stand
`room` deep at most. -/
def value? (fuel : Nat) : Nat → List Char → Option (Toml × List Char)
  | 0, '[' :: _ => none
  | 0, '\x7b' :: _ => none
  | room + 1, '[' :: rest => arrayItems? fuel room fuel rest []
  | room + 1, '\x7b' :: rest =>
    match dropSpace rest with
    | '\x7d' :: rest => some (.table [], rest)
    | rest => inlineFields? fuel room fuel rest .empty
  | _, '"' :: rest => (string? ('"' :: rest)).map fun (s, rest) => (.string s, rest)
  | _, '\'' :: rest => (string? ('\'' :: rest)).map fun (s, rest) => (.string s, rest)
  | _, cs =>
    let (word, rest) := wordChars cs
    (wordScalar? word).map (·, rest)
termination_by room => (room, 0)

/-- The items of an array, up to its closing bracket. -/
def arrayItems? (fuel room : Nat) : Nat → List Char → List Toml → Option (Toml × List Char)
  | 0, _, _ => none
  | steps + 1, cs, seen =>
    match dropGaps fuel cs with
    | none => none
    | some (']' :: rest) => some (.array seen.reverse, rest)
    | some cs =>
      match value? fuel room cs with
      | none => none
      | some (v, rest) =>
        match dropGaps fuel rest with
        | some (',' :: rest) => arrayItems? fuel room steps rest (v :: seen)
        | some (']' :: rest) => some (.array (v :: seen).reverse, rest)
        | _ => none
termination_by steps => (room, steps + 1)

/-- The fields of an inline table, up to its closing brace. -/
def inlineFields? (fuel room : Nat) : Nat → List Char → Draft → Option (Toml × List Char)
  | 0, _, _ => none
  | steps + 1, cs, t =>
    match key? cs with
    | some (parts, '=' :: rest) =>
      match value? fuel room (dropSpace rest) with
      | none => none
      | some (v, rest) =>
        let (path, key) := splitKey parts
        match t.enter path key v with
        | none => none
        | some t =>
          match dropSpace rest with
          | ',' :: rest => inlineFields? fuel room steps rest t
          | '\x7d' :: rest => some (.table t.finish, rest)
          | _ => none
    | _ => none
termination_by steps => (room, steps + 1)

end

/-- A text while it is read: the root, and the path of the open table. -/
structure Reader where
  root : Draft
  path : List String

/-- Enters a value into the open table. -/
def Reader.enter (r : Reader) (parts : List String) (v : Toml) : Option Reader :=
  let (path, key) := splitKey parts
  (Draft.change false (Draft.enter path key v) r.path r.root).map fun root => { r with root }

/-- What ends a line: blanks, a comment, and the line end. -/
def lineEnd? (cs : List Char) : Option (List Char) :=
  match dropComment? (dropSpace cs) with
  | some [] => some []
  | some cs => dropNewline? cs
  | none => none

/-- Reads one line. -/
def Reader.line (r : Reader) (fuel : Nat) (cs : List Char) : Option (Reader × List Char) :=
  match dropSpace cs with
  | '[' :: '[' :: rest =>
    match key? rest with
    | some (parts, ']' :: ']' :: rest) => do
      let (path, key) := splitKey parts
      let root ← Draft.openListed path key r.root
      return (⟨root, parts⟩, ← lineEnd? rest)
    | _ => none
  | '[' :: rest =>
    match key? rest with
    | some (parts, ']' :: rest) => do
      let (path, key) := splitKey parts
      let root ← Draft.openTable path key r.root
      return (⟨root, parts⟩, ← lineEnd? rest)
    | _ => none
  | [] => some (r, [])
  | cs =>
    match lineEnd? cs with
    | some rest => some (r, rest)
    | none =>
      match key? cs with
      | some (parts, '=' :: rest) => do
        let (v, rest) ← value? fuel nesting (dropSpace rest)
        return (← r.enter parts v, ← lineEnd? rest)
      | _ => none

/-- Reads lines to the end; the fuel is spent by one for each line. -/
def Reader.lines : Nat → Reader → List Char → Option Reader
  | _, r, [] => some r
  | 0, _, _ => none
  | fuel + 1, r, cs =>
    match r.line (cs.length + 1) cs with
    | some (r, rest) => Reader.lines fuel r rest
    | none => none

/-- The fields of the table that a text holds, unless it is not well formed. A
byte order mark in front is skipped. -/
def parse? (text : String) : Option (List (String × Toml)) :=
  let cs := match text.toList with
    | c :: rest => if c.toNat = 0xFEFF then rest else c :: rest
    | [] => []
  (Reader.lines (cs.length + 1) ⟨.empty, []⟩ cs).map fun r => r.root.finish

end ZigReflect.Toml
