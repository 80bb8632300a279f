import ZigReflect.Tool.Script

/-!
# Reading scripts

Scripts are read one line of commands after another, because a line runs before
the next is read. A fault tells its line and what was not expected there.
-/

namespace ZigReflect.Tool

/-- What is wrong with a script, and where. -/
structure ScriptFault where
  line : Nat
  text : String

/-- The words with a meaning of their own where a command starts. -/
def reservedWords : List String :=
  ["!", "\x7b", "\x7d", "case", "do", "done", "elif", "else", "esac", "fi", "for", "if", "in",
    "then", "until", "while"]

/-- The words that cannot start a command. -/
def closingWords : List String :=
  ["\x7d", "do", "done", "elif", "else", "esac", "fi", "then"]

/-- How a token is called in a fault. -/
def Token.title : Token → String
  | .word w =>
    match plainWord? w with
    | some text => if reservedWords.contains text then "\"" ++ text ++ "\"" else "word"
    | none => "word"
  | .op text => "\"" ++ text ++ "\""
  | .redirect _ => "redirection"
  | .here _ => "redirection"
  | .newline => "newline"
  | .fault text => text

/-- The last line of a script so far. -/
def endLine (last : Nat) (ts : List Placed) : Nat :=
  match ts with
  | [] => last
  | t :: _ => t.line

/-- A fault at the next token. -/
def unexpected {α : Type} (last : Nat) (expecting : Option String) (ts : List Placed) :
    Except ScriptFault α :=
  let wanted := match expecting with
    | some "word" => " (expecting word)"
    | some text => " (expecting \"" ++ text ++ "\")"
    | none => ""
  match ts with
  | [] => .error ⟨last, "end of file unexpected" ++ wanted⟩
  | ⟨.fault text, line⟩ :: _ => .error ⟨line, text⟩
  | t :: _ => .error ⟨t.line, t.token.title ++ " unexpected" ++ wanted⟩

/-- Drops ends of lines. -/
def dropNewlines : List Placed → List Placed
  | ⟨.newline, _⟩ :: ts => dropNewlines ts
  | ts => ts

/-- The plain word that comes next. -/
def nextPlain? : List Placed → Option String
  | ⟨.word w, _⟩ :: _ => plainWord? w
  | _ => none

/-- Whether an operator comes next. -/
def isOp (text : String) : List Placed → Bool
  | ⟨.op o, _⟩ :: _ => o == text
  | _ => false

/-- Whether a token ends a list of commands. -/
def endsList : List Placed → Bool
  | [] => true
  | ⟨.op ")", _⟩ :: _ => true
  | ⟨.op ";;", _⟩ :: _ => true
  | ts => (nextPlain? ts).any closingWords.contains

/-- Reads the redirections that come next. -/
def redirects (last : Nat) : Nat → List Placed → Except ScriptFault (List Redirect × List Placed)
  | 0, ts => .ok ([], ts)
  | fuel + 1, ⟨.redirect r, _⟩ :: ts =>
    match ts with
    | ⟨.word w, _⟩ :: ts => do
      let (rs, ts) ← redirects last fuel ts
      return (r w :: rs, ts)
    | ts => unexpected last none ts
  | fuel + 1, ⟨.here w, _⟩ :: ts => do
    let (rs, ts) ← redirects last fuel ts
    return (.here w :: rs, ts)
  | _, ts => .ok ([], ts)

/-- The name and the value of a word that sets a variable. -/
def assignment? (w : Word) : Option (String × Word) :=
  let leading := w.takeWhile fun (s : Segment) => match s with
    | .text [c] false => isNameChar c
    | _ => false
  let name := Word.letters leading
  match w.drop leading.length with
  | .text ['='] false :: value =>
    if name.head?.any isNameStart then some (String.ofList name, value) else none
  | _ => none

/-- A simple command while it is read. -/
structure SimpleCommand where
  assigns : List (String × Word) := []
  words : List Word := []
  redirects : List Redirect := []

/-- Reads a simple command. -/
def simpleCommand (last : Nat) : Nat → SimpleCommand → List Placed →
    Except ScriptFault (SimpleCommand × List Placed)
  | 0, c, ts => .ok (c, ts)
  | fuel + 1, c, ⟨.word w, _⟩ :: ts =>
    match c.words, assignment? w with
    | [], some a => simpleCommand last fuel { c with assigns := c.assigns ++ [a] } ts
    | words, _ => simpleCommand last fuel { c with words := words ++ [w] } ts
  | fuel + 1, c, ⟨.redirect r, _⟩ :: ts =>
    match ts with
    | ⟨.word w, _⟩ :: ts =>
      simpleCommand last fuel { c with redirects := c.redirects ++ [r w] } ts
    | ts => unexpected last none ts
  | fuel + 1, c, ⟨.here w, _⟩ :: ts =>
    simpleCommand last fuel { c with redirects := c.redirects ++ [.here w] } ts
  | _, c, ts => .ok (c, ts)

/-- Takes a word that has to come next. -/
def expectWord (last : Nat) (text : String) (ts : List Placed) :
    Except ScriptFault (List Placed) :=
  if nextPlain? ts == some text then .ok (ts.drop 1) else unexpected last (some text) ts

/-- Takes an operator that has to come next. -/
def expectOp (last : Nat) (text : String) (ts : List Placed) :
    Except ScriptFault (List Placed) :=
  if isOp text ts then .ok (ts.drop 1) else unexpected last (some text) ts

/-- Reads words up to the end of the line. -/
def wordList : List Placed → List Word × List Placed
  | ⟨.word w, _⟩ :: ts =>
    let (ws, ts) := wordList ts
    (w :: ws, ts)
  | ts => ([], ts)

/-- Whether the words of a loop can end here. -/
def endsWords : List Placed → Bool
  | ⟨.newline, _⟩ :: _ => true
  | ⟨.op ";", _⟩ :: _ => true
  | _ => false

/-- Reads the patterns of a case, up to its closing parenthesis. -/
def casePatterns (last : Nat) : Nat → List Placed → Except ScriptFault (List Word × List Placed)
  | 0, ts => unexpected last (some ")") ts
  | fuel + 1, ⟨.word w, _⟩ :: ts =>
    if isOp "|" ts then do
      let (ws, ts) ← casePatterns last fuel (ts.drop 1)
      return (w :: ws, ts)
    else do
      let ts ← expectOp last ")" ts
      return ([w], ts)
  | _, ts => unexpected last (some ")") ts

mutual

/-- Reads commands up to what ends a list; one has to come unless the list may be
empty. -/
def commandList (last : Nat) : Nat → Bool → List Placed →
    Except ScriptFault (Command × List Placed)
  | 0, _, ts => unexpected last none ts
  | fuel + 1, mayBeEmpty, ts => do
    let ts := dropNewlines ts
    if ts.isEmpty || (mayBeEmpty && endsList ts) then return (.nothing, ts)
    let (c, ts) ← andOr last fuel ts
    let (c, ts, more) := match ts with
      | ⟨.op ";", _⟩ :: ts => (c, ts, true)
      | ⟨.op "&", _⟩ :: ts => (.aside c, ts, true)
      | ⟨.newline, _⟩ :: ts => (c, ts, true)
      | ts => (c, ts, false)
    if !more then return (c, ts)
    let (rest, ts) ← commandList last fuel true ts
    return (.seq c rest, ts)

/-- Reads pipelines on condition of one another. -/
def andOr (last : Nat) : Nat → List Placed → Except ScriptFault (Command × List Placed)
  | 0, ts => unexpected last none ts
  | fuel + 1, ts => do
    let (c, ts) ← pipeline last fuel ts
    andOrRest last fuel c ts

/-- Reads what is on condition of a command. -/
def andOrRest (last : Nat) : Nat → Command → List Placed →
    Except ScriptFault (Command × List Placed)
  | 0, c, ts => .ok (c, ts)
  | fuel + 1, c, ts => do
    if isOp "&&" ts then
      let (d, ts) ← pipeline last fuel (dropNewlines (ts.drop 1))
      andOrRest last fuel (.both c d) ts
    else if isOp "||" ts then
      let (d, ts) ← pipeline last fuel (dropNewlines (ts.drop 1))
      andOrRest last fuel (.either c d) ts
    else return (c, ts)

/-- Reads a pipeline. -/
def pipeline (last : Nat) : Nat → List Placed → Except ScriptFault (Command × List Placed)
  | 0, ts => unexpected last none ts
  | fuel + 1, ts => do
    let isNegated := nextPlain? ts == some "!"
    let (c, ts) ← command last fuel (if isNegated then ts.drop 1 else ts)
    let (c, ts) ← pipelineRest last fuel c ts
    return (if isNegated then .negate c else c, ts)

/-- Reads what a command is piped to. -/
def pipelineRest (last : Nat) : Nat → Command → List Placed →
    Except ScriptFault (Command × List Placed)
  | 0, c, ts => .ok (c, ts)
  | fuel + 1, c, ts => do
    if isOp "|" ts then
      let (d, ts) ← command last fuel (dropNewlines (ts.drop 1))
      pipelineRest last fuel (.pipe c d) ts
    else return (c, ts)

/-- Reads a command. -/
def command (last : Nat) : Nat → List Placed → Except ScriptFault (Command × List Placed)
  | 0, ts => unexpected last none ts
  | fuel + 1, ts => do
    let line := endLine last ts
    if isOp "(" ts then
      let (c, ts) ← commandList last fuel false (ts.drop 1)
      let ts ← expectOp last ")" ts
      withRedirects last fuel line (.subshell c) ts
    else
      match nextPlain? ts with
      | some "\x7b" =>
        let (c, ts) ← commandList last fuel false (ts.drop 1)
        let ts ← expectWord last "\x7d" ts
        withRedirects last fuel line c ts
      | some "if" =>
        let (c, ts) ← conditional last fuel (ts.drop 1)
        withRedirects last fuel line c ts
      | some "while" =>
        let (c, ts) ← repetition last fuel false (ts.drop 1)
        withRedirects last fuel line c ts
      | some "until" =>
        let (c, ts) ← repetition last fuel true (ts.drop 1)
        withRedirects last fuel line c ts
      | some "for" =>
        let (c, ts) ← forLoop last fuel (ts.drop 1)
        withRedirects last fuel line c ts
      | some "case" =>
        match ts.drop 1 with
        | ⟨.word w, _⟩ :: ts =>
          let ts ← expectWord last "in" (dropNewlines ts)
          let (cases, ts) ← caseItems last fuel ts
          withRedirects last fuel line (.select w cases) ts
        | ts => unexpected last (some "word") ts
      | plain =>
        if plain.any (closingWords.contains ·) || plain == some "!" then unexpected last none ts
        else
          match plain, ts.drop 1 with
          | some name, ⟨.op "(", _⟩ :: more =>
            let ts ← expectOp last ")" more
            let (body, ts) ← command last fuel (dropNewlines ts)
            return (.define name body, ts)
          | _, _ =>
            let (c, rest) ← simpleCommand last (ts.length + 1) {} ts
            if c.words.isEmpty && c.assigns.isEmpty && c.redirects.isEmpty then
              unexpected last none ts
            else return (.simple line c.assigns c.words c.redirects, rest)

/-- Reads the redirections after a command. -/
def withRedirects (last : Nat) : Nat → Nat → Command → List Placed →
    Except ScriptFault (Command × List Placed)
  | _, line, c, ts => do
    let (rs, ts) ← redirects last (ts.length + 1) ts
    return (if rs.isEmpty then c else .redirected line c rs, ts)

/-- Reads a condition and its branches, up to their end. -/
def conditional (last : Nat) : Nat → List Placed → Except ScriptFault (Command × List Placed)
  | 0, ts => unexpected last none ts
  | fuel + 1, ts => do
    let (condition, ts) ← commandList last fuel false ts
    let ts ← expectWord last "then" ts
    let (yes, ts) ← commandList last fuel false ts
    match nextPlain? ts with
    | some "elif" =>
      let (no, ts) ← conditional last fuel (ts.drop 1)
      return (.branch condition yes no, ts)
    | some "else" =>
      let (no, ts) ← commandList last fuel false (ts.drop 1)
      let ts ← expectWord last "fi" ts
      return (.branch condition yes no, ts)
    | _ =>
      let ts ← expectWord last "fi" ts
      return (.branch condition yes .nothing, ts)

/-- Reads a condition and what is repeated. -/
def repetition (last : Nat) : Nat → Bool → List Placed → Except ScriptFault (Command × List Placed)
  | 0, _, ts => unexpected last none ts
  | fuel + 1, whileFailing, ts => do
    let (condition, ts) ← commandList last fuel false ts
    let ts ← expectWord last "do" ts
    let (body, ts) ← commandList last fuel false ts
    let ts ← expectWord last "done" ts
    return (.loop whileFailing condition body, ts)

/-- Reads a loop over words. -/
def forLoop (last : Nat) : Nat → List Placed → Except ScriptFault (Command × List Placed)
  | 0, ts => unexpected last none ts
  | fuel + 1, ts => do
    let name := (nextPlain? ts).getD ""
    if !(name.toList.head?.any isNameStart && name.toList.all isNameChar) then
      .error ⟨endLine last ts, "Bad for loop variable"⟩
    let ts := dropNewlines (ts.drop 1)
    let (words, ts) ← if nextPlain? ts == some "in" then do
        let (ws, ts) := wordList (ts.drop 1)
        if endsWords ts then pure (some ws, ts) else unexpected last none ts
      else pure (none, ts)
    let ts ← expectWord last "do" (dropNewlines (if isOp ";" ts then ts.drop 1 else ts))
    let (body, ts) ← commandList last fuel false ts
    let ts ← expectWord last "done" ts
    return (.each name words body, ts)

/-- Reads the cases of a selection, up to its end. -/
def caseItems (last : Nat) : Nat → List Placed →
    Except ScriptFault (List (List Word × Command) × List Placed)
  | 0, ts => unexpected last none ts
  | fuel + 1, ts => do
    let ts := dropNewlines ts
    if nextPlain? ts == some "esac" then return ([], ts.drop 1)
    let (patterns, ts) ← casePatterns last (ts.length + 1) (if isOp "(" ts then ts.drop 1 else ts)
    let (body, ts) ← commandList last fuel true ts
    if isOp ";;" ts then
      let (more, ts) ← caseItems last fuel (ts.drop 1)
      return ((patterns, body) :: more, ts)
    else
      if nextPlain? ts != some "esac" then unexpected last (some ";;") ts
      else return ([(patterns, body)], ts.drop 1)

end

/-- Reads the commands of one line. -/
def scriptLine (last : Nat) : Nat → List Placed → Except ScriptFault (Command × List Placed)
  | 0, ts => unexpected last none ts
  | fuel + 1, ts => do
    match ts with
    | [] => return (.nothing, [])
    | ⟨.newline, _⟩ :: ts => return (.nothing, ts)
    | ts =>
      let (c, ts) ← andOr last (8 * ts.length + 20) ts
      match ts with
      | ⟨.op ";", _⟩ :: ts =>
        let (rest, ts) ← scriptLine last fuel ts
        return (.seq c rest, ts)
      | ⟨.op "&", _⟩ :: ts =>
        let (rest, ts) ← scriptLine last fuel ts
        return (.seq (.aside c) rest, ts)
      | [] => return (c, [])
      | ⟨.newline, _⟩ :: ts => return (c, ts)
      | ts => unexpected last none ts

end ZigReflect.Tool
