import ZigReflect.Text.Find

/-!
# Scripts

The shape of shell scripts, and how their text is cut into words and operators.
Words are kept with their quotes resolved into segments, because what a segment
stands for is known only when the script runs.
-/

namespace ZigReflect.Tool

/-- What is done with the value of a parameter. With `orNull`, an empty value
counts as none. -/
inductive Change where
  | plain
  | length
  /-- The operand stands for a missing value. -/
  | default (orNull : Bool)
  /-- The operand becomes a missing value. -/
  | assign (orNull : Bool)
  /-- The operand stands for a value that is there. -/
  | instead (orNull : Bool)
  /-- A missing value ends the script. -/
  | demand (orNull : Bool)
  /-- A pattern is cut off at the start or at the end. -/
  | cut (atEnd longest : Bool)
  /-- No change at all, which ends the script. -/
  | invalid
deriving DecidableEq, Repr, Inhabited

/-- A piece of a word. -/
inductive Segment where
  | text (cs : List Char) (quoted : Bool)
  | parameter (name : String) (change : Change) (operand : List Segment) (quoted : Bool)
  /-- What a script prints. -/
  | output (script : List Char) (quoted : Bool)
  /-- The value of an expression. -/
  | sum (expression : List Char) (quoted : Bool)
deriving Repr, Inhabited

/-- A word. -/
abbrev Word := List Segment

/-- Where a redirection leads. -/
inductive Redirect where
  /-- Output goes to a file. -/
  | write (fd : Nat) (append : Bool) (target : Word)
  /-- Input comes from a file. -/
  | read (target : Word)
  /-- Output goes where that of another descriptor goes. -/
  | same (fd : Nat) (target : Word)
  /-- Input comes from the script. -/
  | here (text : Word)
deriving Repr, Inhabited

/-- A command. -/
inductive Command where
  | simple (line : Nat) (assigns : List (String × Word)) (words : List Word)
      (redirects : List Redirect)
  | pipe (a b : Command)
  | negate (c : Command)
  | both (a b : Command)
  | either (a b : Command)
  | seq (a b : Command)
  /-- Runs beside the script. -/
  | aside (c : Command)
  | redirected (line : Nat) (c : Command) (redirects : List Redirect)
  | subshell (c : Command)
  | branch (condition yes no : Command)
  /-- Goes on while the condition fails or succeeds. -/
  | loop (whileFailing : Bool) (condition body : Command)
  /-- Runs for each word, or for each argument of the script. -/
  | each (name : String) (words : Option (List Word)) (body : Command)
  | select (word : Word) (cases : List (List Word × Command))
  | define (name : String) (body : Command)
  | nothing
deriving Inhabited

/-- The pieces of a script. -/
inductive Token where
  | word (w : Word)
  | op (text : String)
  | redirect (r : Word → Redirect)
  | here (text : Word)
  | newline
  /-- What is wrong with the rest of the script. -/
  | fault (text : String)

/-- A piece of a script and its line. -/
structure Placed where
  token : Token
  line : Nat

/-! ## Words -/

/-- Whether a character can start a name. -/
def isNameStart (c : Char) : Bool := Text.isLetter c || c == '_'

/-- Whether a character can stand in a name. -/
def isNameChar (c : Char) : Bool := isNameStart c || Text.isDigit c

/-- Whether a character names a parameter by itself. -/
def isSpecialName (c : Char) : Bool := Text.isDigit c || "?$#@*!-".toList.contains c

/-- Whether a character ends a word. -/
def isWordEnd (c : Char) : Bool := " \t\n;&|<>()".toList.contains c

/-- How the characters of a piece are quoted. -/
inductive Quoting where
  | none
  | single
  | double
deriving DecidableEq, Repr, Inhabited

/-- The characters up to a closing one, with brackets of that kind nested and
quotes passed over. -/
def untilClosing (opening closing : Char) :
    Nat → Quoting → List Char → List Char → Option (List Char × List Char)
  | _, _, _, [] => none
  | depth, quoting, seen, '\\' :: c :: rest =>
    if quoting = .single then
      untilClosing opening closing depth (if c == '\'' then .none else .single)
        (c :: '\\' :: seen) rest
    else untilClosing opening closing depth quoting (c :: '\\' :: seen) rest
  | depth, quoting, seen, c :: rest =>
    let again (depth : Nat) (quoting : Quoting) :=
      untilClosing opening closing depth quoting (c :: seen) rest
    match quoting with
    | .single => again depth (if c == '\'' then .none else .single)
    | .double => again depth (if c == '"' then .none else .double)
    | .none =>
      if c == '\'' then again depth .single
      else if c == '"' then again depth .double
      else if c == opening then again (depth + 1) .none
      else if c == closing then
        match depth with
        | 0 => some (seen.reverse, rest)
        | depth + 1 => again depth .none
      else again depth .none

/-- The script between backquotes, where a backslash keeps a backquote. -/
def untilBackquote (seen : List Char) : List Char → Option (List Char × List Char)
  | [] => none
  | '\\' :: c :: rest =>
    if c == '\x60' || c == '\\' || c == '$' then untilBackquote (c :: seen) rest
    else untilBackquote (c :: '\\' :: seen) rest
  | c :: rest => if c == '\x60' then some (seen.reverse, rest) else untilBackquote (c :: seen) rest

/-- The change that follows the name of a parameter, and its operand. -/
def readChange : List Char → Option (Change × List Char)
  | [] => some (.plain, [])
  | ':' :: '-' :: rest => some (.default true, rest)
  | ':' :: '=' :: rest => some (.assign true, rest)
  | ':' :: '+' :: rest => some (.instead true, rest)
  | ':' :: '?' :: rest => some (.demand true, rest)
  | '-' :: rest => some (.default false, rest)
  | '=' :: rest => some (.assign false, rest)
  | '+' :: rest => some (.instead false, rest)
  | '?' :: rest => some (.demand false, rest)
  | '%' :: '%' :: rest => some (.cut true true, rest)
  | '%' :: rest => some (.cut true false, rest)
  | '#' :: '#' :: rest => some (.cut false true, rest)
  | '#' :: rest => some (.cut false false, rest)
  | _ => none

/-- The name at the start of what stands in braces. -/
def bracedName (cs : List Char) : List Char × List Char :=
  match cs with
  | c :: rest =>
    if isNameStart c then (cs.takeWhile isNameChar, cs.dropWhile isNameChar)
    else if Text.isDigit c then (cs.takeWhile Text.isDigit, cs.dropWhile Text.isDigit)
    else if isSpecialName c then ([c], rest)
    else ([], cs)
  | [] => ([], [])

/-- Whether a word is the arguments of the script and nothing else, which can be no
word at all. -/
def Word.isAllArguments : Word → Bool
  | [.parameter "@" .plain _ _] => true
  | _ => false

/-- What a word ends at. -/
inductive WordEnd where
  /-- A character that is no part of words. -/
  | gap
  /-- A closing quote. -/
  | quote
  /-- The end of the text. -/
  | nothing
deriving DecidableEq, Repr, Inhabited

/-- Reads the segments of a word, and what follows them. The fuel is spent by one
for each character. -/
def readWord : Nat → WordEnd → Word → List Char → Except String (Word × List Char)
  | 0, _, _, _ => .error "Unterminated quoted string"
  | fuel + 1, ending, seen, cs =>
    let inQuotes := ending = .quote
    match cs with
    | [] => if inQuotes then .error "Unterminated quoted string" else .ok (seen.reverse, [])
    | '\\' :: '\n' :: rest => readWord fuel ending seen rest
    | '\\' :: c :: rest =>
      if inQuotes && !(c == '$' || c == '"' || c == '\\' || c == '\x60') then
        readWord fuel ending (.text ['\\', c] true :: seen) rest
      else readWord fuel ending (.text [c] true :: seen) rest
    | '$' :: '(' :: '(' :: rest =>
      match untilClosing '(' ')' 1 .none [] rest with
      | some (inner, rest) =>
        readWord fuel ending (.sum inner.dropLast inQuotes :: seen) rest
      | none => .error "Missing '))'"
    | '$' :: '(' :: rest =>
      match untilClosing '(' ')' 0 .none [] rest with
      | some (inner, rest) => readWord fuel ending (.output inner inQuotes :: seen) rest
      | none => .error "end of file unexpected (expecting \")\")"
    | '$' :: '\x7b' :: rest =>
      match untilClosing '\x7b' '\x7d' 0 .none [] rest with
      | none => .error "Missing '\x7d'"
      | some (inner, rest) => do
        let (name, change, operand) := match inner with
          | '#' :: c :: more => (c :: more, Change.length, [])
          | inner =>
            let (name, after) := bracedName inner
            match readChange after with
            | some (change, operand) =>
              if name.isEmpty then (name, .invalid, []) else (name, change, operand)
            | none => (name, .invalid, [])
        let (operand, _) ← readWord fuel .nothing [] operand
        readWord fuel ending (.parameter (String.ofList name) change operand inQuotes :: seen) rest
    | '$' :: c :: rest =>
      if isNameStart c then
        let name := (c :: rest).takeWhile isNameChar
        readWord fuel ending (.parameter (String.ofList name) .plain [] inQuotes :: seen)
          ((c :: rest).dropWhile isNameChar)
      else if isSpecialName c then
        readWord fuel ending (.parameter (String.ofList [c]) .plain [] inQuotes :: seen) rest
      else readWord fuel ending (.text ['$'] inQuotes :: seen) (c :: rest)
    | '\x60' :: rest =>
      match untilBackquote [] rest with
      | some (inner, rest) => readWord fuel ending (.output inner inQuotes :: seen) rest
      | none => .error "EOF in backquote substitution"
    | '"' :: rest =>
      if inQuotes then .ok (seen.reverse, rest)
      else do
        let (inner, rest) ← readWord fuel .quote [] rest
        let mark : Word := if Word.isAllArguments inner then [] else [.text [] true]
        readWord fuel ending (inner.reverse ++ mark ++ seen) rest
    | c :: rest =>
      if inQuotes then readWord fuel ending (.text [c] true :: seen) rest
      else if c == '\'' then
        match rest.dropWhile (· != '\'') with
        | _ :: after =>
          readWord fuel ending (.text (rest.takeWhile (· != '\'')) true :: seen) after
        | [] => .error "Unterminated quoted string"
      else if ending = .gap && isWordEnd c then .ok (seen.reverse, c :: rest)
      else readWord fuel ending (.text [c] false :: seen) rest

/-- The characters of a segment without quotes that stands for itself. -/
def Segment.plain? : Segment → Option (List Char)
  | .text cs false => some cs
  | _ => none

/-- The text of a word that has no quotes and stands for itself. -/
def plainWord? (w : Word) : Option String :=
  (w.mapM Segment.plain?).map fun pieces => String.ofList pieces.flatten

/-- The text of a word as it is written, without its quotes. -/
def Word.letters (w : Word) : List Char :=
  List.flatMap (fun (s : Segment) => match s with
    | .text cs _ => cs
    | _ => []) w

/-! ## Tokens -/

/-- How many lines end in a text. -/
def feedCount (cs : List Char) : Nat := (cs.filter (· == '\n')).length

/-- The lines up to one that is a mark, and what follows it. The tabs at the start
of a line are dropped from an indented text. -/
def untilMark (mark : List Char) (isIndented : Bool) : Nat → List Char → List Char × List Char
  | 0, cs => (cs, [])
  | _, [] => ([], [])
  | fuel + 1, cs =>
    let line := (if isIndented then cs.dropWhile (· == '\t') else cs).takeWhile (· != '\n')
    let rest := (cs.dropWhile (· != '\n')).drop 1
    if line = mark then ([], rest)
    else
      let (more, after) := untilMark mark isIndented fuel rest
      (line ++ '\n' :: more, after)

/-- The text of a script that stands after the line, without quotes around its
mark with values of parameters. -/
def hereText (quoted : Bool) (body : List Char) : Word :=
  if quoted then [.text body true]
  else
    let escaped := body.flatMap fun c => if c == '"' then ['\\', '"'] else [c]
    match readWord (2 * escaped.length + 2) .quote [] (escaped ++ ['"']) with
    | .ok (w, _) => w
    | .error _ => [.text body true]

/-- The operators, longer ones first. -/
def operators : List String := ["&&", "||", ";;", ";", "&", "|", "(", ")"]

/-- The operator at the start of some characters. -/
def operator? (cs : List Char) : Option String :=
  operators.find? fun o => cs.take o.length == o.toList

/-- The redirection at the start of some characters, without the number of its
descriptor: what it makes of its target, and what follows. -/
def redirection? (fd : Option Nat) : List Char → Option ((Word → Redirect) × List Char)
  | '>' :: '>' :: rest => some (.write (fd.getD 1) true, rest)
  | '>' :: '&' :: rest => some (.same (fd.getD 1), rest)
  | '>' :: '|' :: rest => some (.write (fd.getD 1) false, rest)
  | '>' :: rest => some (.write (fd.getD 1) false, rest)
  | '<' :: '&' :: rest => some (.same (fd.getD 0), rest)
  | '<' :: '>' :: rest => some (.read, rest)
  | '<' :: rest => some (.read, rest)
  | _ => none

/-- Cuts a script into tokens. A fault is the last token. -/
def tokens : Nat → Nat → List Char → List Placed
  | 0, _, _ => []
  | _, _, [] => []
  | fuel + 1, line, c :: rest =>
    let cs := c :: rest
    let digit? : Option Nat := if Text.isDigit c then some (c.toNat - 48) else none
    let word (_ : Unit) : List Placed :=
      match readWord (2 * cs.length + 2) .gap [] cs with
      | .error text =>
        [⟨.fault text, line + feedCount cs - (if cs.getLast? == some '\n' then 1 else 0)⟩]
      | .ok (w, rest) =>
        ⟨.word w, line⟩ :: tokens fuel (line + feedCount cs - feedCount rest) rest
    if c == ' ' || c == '\t' then tokens fuel line rest
    else if c == '\n' then ⟨.newline, line⟩ :: tokens fuel (line + 1) rest
    else if c == '#' then tokens fuel line (rest.dropWhile (· != '\n'))
    else if c == '\\' && rest.head? == some '\n' then tokens fuel (line + 1) (rest.drop 1)
    else if cs.take 2 == ['<', '<'] then
      let isIndented := cs.take 3 == ['<', '<', '-']
      let after := (cs.drop (if isIndented then 3 else 2)).dropWhile (· == ' ')
      match readWord (2 * cs.length + 2) .gap [] after with
      | .error text => [⟨.fault text, line⟩]
      | .ok ([], rest) => ⟨.redirect .here, line⟩ :: tokens fuel line rest
      | .ok (mark, rest) =>
        let sameLine := rest.takeWhile (· != '\n')
        let (body, later) := untilMark mark.letters isIndented (rest.length + 1)
          ((rest.dropWhile (· != '\n')).drop 1)
        ⟨.here (hereText (plainWord? mark).isNone body), line⟩ ::
          tokens fuel line (sameLine ++ '\n' :: later)
    else
      match redirection? none cs, operator? cs with
      | some (r, rest), _ => ⟨.redirect r, line⟩ :: tokens fuel line rest
      | none, some o => ⟨.op o, line⟩ :: tokens fuel line (cs.drop o.length)
      | none, none =>
        match digit?, redirection? digit? rest with
        | some _, some (r, rest) => ⟨.redirect r, line⟩ :: tokens fuel line rest
        | _, _ => word ()

end ZigReflect.Tool
