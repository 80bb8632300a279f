/-!
# Patterns of lines

The patterns of the line editor, on bytes, in their basic and their extended
spelling. A pattern takes the leftmost place where it is found, there as much as
it can, and each of its parts, from the first on, takes as much as that leaves
it. So the ways a part can go are kept longest first.
-/

namespace ZigReflect.Tool

/-- A condition on a place. -/
inductive LineMark where
  | lineStart
  | lineEnd
  | textStart
  | textEnd
  | boundary
  | notBoundary
  | wordStart
  | wordEnd
deriving DecidableEq, Repr, Inhabited

/-- A pattern without its flags. -/
inductive LineExpr where
  | byte (takes : UInt8 → Bool)
  | mark (m : LineMark)
  | group (index : Nat) (e : LineExpr)
  /-- What a group has taken, once more. -/
  | again (index : Nat)
  | turns (min : Nat) (max : Option Nat) (e : LineExpr)
  | seq (es : List LineExpr)
  | alt (es : List LineExpr)

instance : Inhabited LineExpr := ⟨.seq []⟩

/-- A pattern of lines. -/
structure LinePattern where
  expr : LineExpr
  /-- How many groups it has. -/
  groups : Nat := 0
  ignoreCase : Bool := false
  /-- Whether line marks hold at inner line ends too. -/
  multiLine : Bool := false

/-- Where a pattern has come to, and what its groups have taken. -/
structure Place where
  pos : Nat
  /-- Groups with the start and the end of what they have taken. -/
  groups : List (Nat × Nat × Nat) := []
deriving DecidableEq, Repr, Inhabited

/-! ## Bytes -/

/-- Whether the byte is a decimal digit. -/
def isDigitByte (b : UInt8) : Bool := 48 ≤ b && b ≤ 57

/-- Whether the byte is an upper case letter. -/
def isUpperByte (b : UInt8) : Bool := 65 ≤ b && b ≤ 90

/-- Whether the byte is a lower case letter. -/
def isLowerByte (b : UInt8) : Bool := 97 ≤ b && b ≤ 122

/-- Whether the byte stands in words. -/
def isWordByte (b : UInt8) : Bool := isUpperByte b || isLowerByte b || isDigitByte b || b == 95

/-- Whether the byte is blank. -/
def isSpaceByte (b : UInt8) : Bool := b == 32 || (9 ≤ b && b ≤ 13)

/-- The letter in upper case. -/
def upperByte (b : UInt8) : UInt8 := if isLowerByte b then b - 32 else b

/-- The letter in lower case. -/
def lowerByte (b : UInt8) : UInt8 := if isUpperByte b then b + 32 else b

/-- The bytes of a text. -/
def bytesOf (s : String) : List UInt8 := s.toUTF8.data.toList

/-- The number that digits spell. -/
def numberOf (digits : List UInt8) : Nat :=
  digits.foldl (fun n b => 10 * n + (b.toNat - 48)) 0

/-- The named sets of bytes. -/
def byteClass? (name : List UInt8) : Option (UInt8 → Bool) :=
  let isGraph (b : UInt8) : Bool := 33 ≤ b && b ≤ 126
  let isAlnum (b : UInt8) : Bool := isUpperByte b || isLowerByte b || isDigitByte b
  if name = bytesOf "alpha" then some fun b => isUpperByte b || isLowerByte b
  else if name = bytesOf "digit" then some isDigitByte
  else if name = bytesOf "alnum" then some isAlnum
  else if name = bytesOf "upper" then some isUpperByte
  else if name = bytesOf "lower" then some isLowerByte
  else if name = bytesOf "space" then some isSpaceByte
  else if name = bytesOf "blank" then some fun b => b == 32 || b == 9
  else if name = bytesOf "punct" then some fun b => isGraph b && !isAlnum b
  else if name = bytesOf "print" then some fun b => 32 ≤ b && b ≤ 126
  else if name = bytesOf "graph" then some isGraph
  else if name = bytesOf "cntrl" then some fun b => b < 32 || b == 127
  else if name = bytesOf "xdigit" then
    some fun b => isDigitByte b || (65 ≤ b && b ≤ 70) || (97 ≤ b && b ≤ 102)
  else none

/-! ## Finding -/

namespace LinePattern

/-- Whether a condition holds at a place of a text. -/
def holds (p : LinePattern) (text : Array UInt8) (i : Nat) (m : LineMark) : Bool :=
  let before : Option UInt8 := if i = 0 then none else text[i - 1]?
  let after := text[i]?
  let wordBefore := before.any isWordByte
  let wordAfter := after.any isWordByte
  match m with
  | .lineStart => before.isNone || (p.multiLine && before == some 10)
  | .lineEnd => after.isNone || (p.multiLine && after == some 10)
  | .textStart => before.isNone
  | .textEnd => after.isNone
  | .boundary => wordBefore != wordAfter
  | .notBoundary => wordBefore == wordAfter
  | .wordStart => !wordBefore && wordAfter
  | .wordEnd => wordBefore && !wordAfter

/-- The places longest first, without those that are there already. What groups
have taken counts only in a pattern that takes it again. -/
def tidy (exact : Bool) (ps : List Place) : List Place :=
  (ps.mergeSort fun a b => b.pos ≤ a.pos).eraseDupsBy fun a b =>
    if exact then a == b else a.pos == b.pos

/-- The places after a fixed number of steps. -/
def times (exact : Bool) (step : Place → List Place) : Nat → List Place → List Place
  | 0, ps => ps
  | n + 1, ps =>
    if ps.isEmpty then [] else times exact step n (tidy exact (ps.flatMap step))

/-- The places after at most some steps from the newest of those seen so far. -/
def spread (exact : Bool) (step : Place → List Place) :
    Nat → List Place → List Place → List Place
  | 0, _, seen => seen
  | n + 1, newest, seen =>
    let isNew (p : Place) : Bool := !seen.any fun q => if exact then p == q else p.pos == q.pos
    let next := (tidy exact (newest.flatMap step)).filter isNew
    if next.isEmpty then seen else spread exact step n next (seen ++ next)

/-- The piece of a text that a group has taken. -/
def taken (text : Array UInt8) (groups : List (Nat × Nat × Nat)) (index : Nat) : List UInt8 :=
  match groups.lookup index with
  | some (start, stop) => (text.extract start stop).toList
  | none => []

mutual

/-- The places that an expression leads to, longest first. -/
def run (p : LinePattern) (exact : Bool) (text : Array UInt8) : LineExpr → Place → List Place
  | .byte takes, at_ =>
    match text[at_.pos]? with
    | some b =>
      if takes b || (p.ignoreCase && (takes (upperByte b) || takes (lowerByte b))) then
        [{ at_ with pos := at_.pos + 1 }]
      else []
    | none => []
  | .mark m, at_ => if p.holds text at_.pos m then [at_] else []
  | .group index e, at_ =>
    (run p exact text e at_).map fun q =>
      { q with groups := (index, at_.pos, q.pos) :: q.groups.filter (·.1 ≠ index) }
  | .again index, at_ =>
    match at_.groups.lookup index with
    | none => []
    | some (start, stop) =>
      let fold (b : UInt8) : UInt8 := if p.ignoreCase then lowerByte b else b
      let wanted := (text.extract start stop).map fold
      if (text.extract at_.pos (at_.pos + wanted.size)).map fold == wanted then
        [{ at_ with pos := at_.pos + wanted.size }]
      else []
  | .turns min max e, at_ =>
    let step := fun q => run p exact text e q
    let start := times exact step min [at_]
    let more := match max with
      | some m => Nat.min (m - min) (text.size + 1)
      | none => text.size + 1
    tidy exact (spread exact step more start start)
  | .seq es, at_ => runAll p exact text es [at_]
  | .alt es, at_ => tidy exact (runAny p exact text es at_)

/-- The places that expressions one after another lead to. -/
def runAll (p : LinePattern) (exact : Bool) (text : Array UInt8) :
    List LineExpr → List Place → List Place
  | [], ps => ps
  | e :: es, ps =>
    runAll p exact text es (tidy exact (ps.flatMap fun q => run p exact text e q))

/-- The places that one of several expressions leads to. -/
def runAny (p : LinePattern) (exact : Bool) (text : Array UInt8) :
    List LineExpr → Place → List Place
  | [], _ => []
  | e :: es, at_ => run p exact text e at_ ++ runAny p exact text es at_

end

mutual

/-- Whether an expression takes again what a group has taken. -/
def takesAgain : LineExpr → Bool
  | .byte _ => false
  | .mark _ => false
  | .group _ e => takesAgain e
  | .again _ => true
  | .turns _ _ e => takesAgain e
  | .seq es => someTakesAgain es
  | .alt es => someTakesAgain es

/-- Whether one of some expressions takes again what a group has taken. -/
def someTakesAgain : List LineExpr → Bool
  | [] => false
  | e :: es => takesAgain e || someTakesAgain es

end

/-- The first place from a position on where the pattern is found: the start,
the end, and what the groups have taken. -/
def find? (p : LinePattern) (text : Array UInt8) (start : Nat) : Option (Nat × Place) :=
  let exact := takesAgain p.expr
  (List.range' start (text.size + 1 - start)).findSome? fun i =>
    (run p exact text p.expr { pos := i }).head?.map (i, ·)

/-- Whether the pattern is found in a line. -/
def isFound (p : LinePattern) (line : List UInt8) : Bool :=
  (p.find? line.toArray 0).isSome

end LinePattern

/-! ## Reading -/

/-- The byte of an escape that stands for one. -/
def escapedByte? : UInt8 → Option UInt8
  | 97 => some 7
  | 102 => some 12
  | 110 => some 10
  | 114 => some 13
  | 116 => some 9
  | 118 => some 11
  | _ => none

/-- The value of a hexadecimal digit. -/
def hexByte? (b : UInt8) : Option Nat :=
  if isDigitByte b then some (b.toNat - 48)
  else if 97 ≤ lowerByte b && lowerByte b ≤ 102 then some ((lowerByte b).toNat - 87)
  else none

/-- The byte that digits of a base spell, of which there are at most some. -/
def numberedByte? (base width : Nat) (bytes : List UInt8) : Option (UInt8 × List UInt8) :=
  let digits := (bytes.take width).takeWhile fun b => (hexByte? b).any (· < base)
  if digits.isEmpty then none
  else
    some ((digits.foldl (fun n b => base * n + (hexByte? b).getD 0) 0).toUInt8,
      bytes.drop digits.length)

/-- The byte that an escape spells as a number or as a control key. -/
def spelledByte? : List UInt8 → Option (UInt8 × List UInt8)
  | 120 :: rest => numberedByte? 16 2 rest
  | 111 :: rest => numberedByte? 8 3 rest
  | 100 :: rest => numberedByte? 10 3 rest
  | 99 :: c :: rest => some (upperByte c ^^^ 64, rest)
  | _ => none

/-- A piece of a bracket: a byte, which can start or end a range, or a set. -/
inductive BracketItem where
  | one (b : UInt8)
  | set (isMember : UInt8 → Bool)

/-- The name between a mark and the same mark with a closing bracket behind it. -/
def bracketName (mark : UInt8) (bytes : List UInt8) : Except String (List UInt8 × List UInt8) :=
  let name := bytes.takeWhile (· != mark)
  match bytes.dropWhile (· != mark) with
  | _ :: 93 :: rest => .ok (name, rest)
  | _ => .error "Unmatched [, [^, [:, [., or [="

/-- Reads a piece of a bracket. -/
def bracketItem : List UInt8 → Except String (BracketItem × List UInt8)
  | [] => .error "Unmatched [, [^, [:, [., or [="
  | 91 :: 58 :: rest => do
    let (name, rest) ← bracketName 58 rest
    match byteClass? name with
    | some isMember => .ok (.set isMember, rest)
    | none => .error "Invalid character class name"
  | 91 :: 46 :: rest => do
    match ← bracketName 46 rest with
    | ([b], rest) => .ok (.one b, rest)
    | _ => .error "Invalid collation character"
  | 91 :: 61 :: rest => do
    match ← bracketName 61 rest with
    | ([b], rest) => .ok (.set (· == b), rest)
    | _ => .error "Invalid collation character"
  | 92 :: c :: rest =>
    match escapedByte? c with
    | some b => .ok (.one b, rest)
    | none => .ok (.one 92, c :: rest)
  | b :: rest => .ok (.one b, rest)

/-- What a bracket takes: named sets, ranges and bytes, up to its end. The flag
says whether a closing bracket still stands for itself. -/
def bracketItems : Nat → Bool → List UInt8 → (UInt8 → Bool) →
    Except String ((UInt8 → Bool) × List UInt8)
  | 0, _, _, _ => .error "Unmatched [, [^, [:, [., or [="
  | _, _, [], _ => .error "Unmatched [, [^, [:, [., or [="
  | fuel + 1, first, 93 :: rest, takes =>
    if first then bracketItems fuel false rest fun b => takes b || b == 93
    else .ok (takes, rest)
  | fuel + 1, first, bytes, takes => do
    if !first && bytes.head? == some 45 && bytes.tail.head? != some 93 then
      .error "Invalid range end"
    else
      match ← bracketItem bytes with
      | (.set isMember, rest) =>
        match rest with
        | 45 :: hi :: _ =>
          if hi == 93 then bracketItems fuel false rest fun b => takes b || isMember b
          else .error "Invalid range end"
        | rest => bracketItems fuel false rest fun b => takes b || isMember b
      | (.one lo, 45 :: hi :: more) =>
        if hi == 93 then bracketItems fuel false (45 :: hi :: more) fun b => takes b || b == lo
        else
          match ← bracketItem (hi :: more) with
          | (.one hi, rest) =>
            if hi < lo then .error "Invalid range end"
            else bracketItems fuel false rest fun b => takes b || (lo ≤ b && b ≤ hi)
          | (.set _, _) => .error "Invalid range end"
      | (.one lo, rest) => bracketItems fuel false rest fun b => takes b || b == lo

/-- The set in brackets. Where case does not count, a set of other bytes leaves out
a letter in both of its cases. -/
def bracketSet (ignoreCase : Bool) (bytes : List UInt8) :
    Except String ((UInt8 → Bool) × List UInt8) :=
  match bytes with
  | 94 :: rest =>
    (bracketItems (rest.length + 1) true rest fun _ => false).map fun (takes, rest) =>
      ((fun b => !(takes b || (ignoreCase && (takes (upperByte b) || takes (lowerByte b))))),
        rest)
  | bytes => bracketItems (bytes.length + 1) true bytes fun _ => false

/-- The pieces of a pattern, alike for both spellings. -/
inductive PatternToken where
  | expr (e : LineExpr)
  | openGroup
  | closeGroup
  | bar
  /-- A repetition; where there is nothing to repeat, a byte. -/
  | turns (min : Nat) (max : Option Nat) (itself : UInt8)
  /-- The start of the bounds of a repetition. -/
  | bounds

/-- The piece that a backslash starts. -/
def escapedToken (extended : Bool) : List UInt8 → Except String (PatternToken × List UInt8)
  | [] => .error "Trailing backslash"
  | c :: rest =>
    let one (takes : UInt8 → Bool) : PatternToken := .expr (.byte takes)
    let token? : Option PatternToken := match c with
      | 119 => some (one isWordByte)
      | 87 => some (one fun b => !isWordByte b)
      | 115 => some (one isSpaceByte)
      | 83 => some (one fun b => !isSpaceByte b)
      | 98 => some (.expr (.mark .boundary))
      | 66 => some (.expr (.mark .notBoundary))
      | 60 => some (.expr (.mark .wordStart))
      | 62 => some (.expr (.mark .wordEnd))
      | 96 => some (.expr (.mark .textStart))
      | 39 => some (.expr (.mark .textEnd))
      | 40 => if extended then none else some .openGroup
      | 41 => if extended then none else some .closeGroup
      | 124 => if extended then none else some .bar
      | 123 => if extended then none else some .bounds
      | 43 => if extended then none else some (.turns 1 none 43)
      | 63 => if extended then none else some (.turns 0 (some 1) 63)
      | c =>
        if 49 ≤ c && c ≤ 57 then some (.expr (.again (c.toNat - 48)))
        else (escapedByte? c).map fun b => one (· == b)
    match token?, spelledByte? (c :: rest) with
    | some token, _ => .ok (token, rest)
    | none, some (b, rest) => .ok (one (· == b), rest)
    | none, none => .ok (one (· == c), rest)

/-- Whether a pattern, or a part of it, ends here. -/
def isPartEnd (extended : Bool) : List UInt8 → Bool
  | [] => true
  | 92 :: 41 :: _ => !extended
  | 92 :: 124 :: _ => !extended
  | 41 :: _ => extended
  | 124 :: _ => extended
  | _ => false

/-- The piece at the start of a pattern; the flag says whether a part of the
pattern starts here. -/
def patternToken (extended ignoreCase atStart : Bool) : List UInt8 →
    Except String (PatternToken × List UInt8)
  | [] => .error "Premature end of regular expression"
  | 92 :: rest => escapedToken extended rest
  | 91 :: rest => (bracketSet ignoreCase rest).map fun (takes, rest) => (.expr (.byte takes), rest)
  | 46 :: rest => .ok (.expr (.byte fun _ => true), rest)
  | b :: rest =>
    let itself : PatternToken := .expr (.byte (· == b))
    let token := match b with
      | 42 => if atStart && !extended then itself else .turns 0 none 42
      | 94 => if atStart || extended then .expr (.mark .lineStart) else itself
      | 36 => if extended || isPartEnd extended rest then .expr (.mark .lineEnd) else itself
      | 43 => if extended then .turns 1 none 43 else itself
      | 63 => if extended then .turns 0 (some 1) 63 else itself
      | 123 => if extended then .bounds else itself
      | 40 => if extended then .openGroup else itself
      | 41 => if extended then .closeGroup else itself
      | 124 => if extended then .bar else itself
      | _ => itself
    .ok (token, rest)

/-- A number of the bounds of a repetition: its digits, whether it ends at the
comma, and what follows. -/
structure Bound where
  digits : List UInt8
  atComma : Bool
  rest : List UInt8

/-- Reads a number of bounds, up to a comma or the end of the braces. -/
def readBound (extended : Bool) : List UInt8 → List UInt8 → Option Bound
  | _, [] => none
  | seen, 44 :: rest => some ⟨seen.reverse, true, rest⟩
  | seen, 125 :: rest =>
    if extended then some ⟨seen.reverse, false, rest⟩ else readBound extended (125 :: seen) rest
  | seen, 92 :: 125 :: rest =>
    if extended then readBound extended (125 :: 92 :: seen) rest
    else some ⟨seen.reverse, false, rest⟩
  | seen, b :: rest => readBound extended (b :: seen) rest

/-- The greatest number of repetitions. -/
def maxTurns : Nat := 32767

/-- The bounds of a repetition, up to the end of its braces. -/
def patternBounds (extended : Bool) (bytes : List UInt8) :
    Except String (Nat × Option Nat × List UInt8) := do
  let some lo := readBound extended [] bytes | .error "Unmatched \\\x7b"
  let invalid : Except String (Nat × Option Nat × List UInt8) :=
    .error "Invalid content of \\\x7b\\\x7d"
  if !lo.digits.all isDigitByte || (lo.digits.isEmpty && !lo.atComma) then invalid
  else
    let min := numberOf lo.digits
    let (max, rest) ← if !lo.atComma then .ok (some min, lo.rest)
      else
        match readBound extended [] lo.rest with
        | none => .error "Unmatched \\\x7b"
        | some hi =>
          if hi.atComma || !hi.digits.all isDigitByte then
            .error "Invalid content of \\\x7b\\\x7d"
          else .ok (if hi.digits.isEmpty then none else some (numberOf hi.digits), hi.rest)
    if max.any (· < min) then invalid
    else if maxTurns < max.getD min then .error "Regular expression too big"
    else .ok (min, max, rest)

/-- A part of a pattern that is still open. -/
structure OpenPart where
  index : Nat
  /-- The branches before the last bar. -/
  branches : List LineExpr := []
  /-- The pieces of the branch, newest first. -/
  pieces : List LineExpr := []
  /-- The groups that were closed before it. -/
  closedBefore : List Nat := []
  /-- The groups that were closed in earlier branches. -/
  closedWithin : List Nat := []

/-- The whole of a part. -/
def OpenPart.value (o : OpenPart) : LineExpr :=
  let branch : LineExpr := .seq o.pieces.reverse
  if o.branches.isEmpty then branch else .alt (o.branches ++ [branch])

/-- Whether an expression is a repetition. -/
def LineExpr.isRepetition : LineExpr → Bool
  | .turns _ _ _ => true
  | _ => false

/-- The last piece, when it can be repeated, and those before it. A condition on a
place cannot. -/
def OpenPart.repeatable? (o : OpenPart) : Option (LineExpr × List LineExpr) :=
  match o.pieces with
  | [] => none
  | .mark _ :: _ => none
  | e :: pieces => some (e, pieces)

/-- The part with one more piece. -/
def OpenPart.add (o : OpenPart) (e : LineExpr) : OpenPart :=
  { o with pieces := e :: o.pieces }

/-- Reads a pattern; the parts around the innermost one are on the stack, and the
groups that have been closed are known. -/
def readPattern (extended ignoreCase : Bool) : Nat → Bool → OpenPart → List OpenPart → Nat →
    List Nat → List UInt8 → Except String (LineExpr × Nat)
  | 0, _, _, _, _, _, _ => .error "Regular expression too big"
  | _, _, o, outer, count, _, [] =>
    if outer.isEmpty then .ok (o.value, count) else .error "Unmatched ( or \\("
  | fuel + 1, atStart, o, outer, count, closed, bytes => do
    let (token, rest) ← patternToken extended ignoreCase atStart bytes
    let refused : Except String (LineExpr × Nat) := .error "Invalid preceding regular expression"
    let again (min : Nat) (max : Option Nat) (e : LineExpr) (pieces : List LineExpr)
        (rest : List UInt8) :=
      readPattern extended ignoreCase fuel false { o with pieces := .turns min max e :: pieces }
        outer count closed rest
    match token with
    | .expr (.again index) =>
      if closed.contains index then
        readPattern extended ignoreCase fuel false (o.add (.again index)) outer count closed rest
      else .error "Invalid back reference"
    | .expr e =>
      let stillStart := atStart && bytes.head? == some 94
      readPattern extended ignoreCase fuel stillStart (o.add e) outer count closed rest
    | .openGroup =>
      readPattern extended ignoreCase fuel true { index := count + 1, closedBefore := closed }
        (o :: outer) (count + 1) closed rest
    | .closeGroup =>
      match outer with
      | [] => .error "Unmatched ) or \\)"
      | next :: outer =>
        readPattern extended ignoreCase fuel false (next.add (.group o.index o.value)) outer count
          (o.index :: o.closedWithin ++ closed) rest
    | .bar =>
      readPattern extended ignoreCase fuel true
        { o with
          branches := o.branches ++ [.seq o.pieces.reverse]
          pieces := []
          closedWithin := o.closedWithin ++ closed } outer count o.closedBefore rest
    | .turns min max itself =>
      match o.repeatable? with
      | some (e, pieces) =>
        if !extended && itself == 42 && e.isRepetition then refused
        else again min max e pieces rest
      | none =>
        if extended then refused
        else
          readPattern extended ignoreCase fuel false (o.add (.byte (· == itself))) outer count
            closed rest
    | .bounds =>
      match o.repeatable? with
      | some (e, pieces) => do
        if !extended && e.isRepetition then refused
        else
          let (min, max, rest) ← patternBounds extended rest
          again min max e pieces rest
      | none => refused

/-- Reads a pattern with its flags. -/
def LinePattern.read (extended ignoreCase multiLine : Bool) (bytes : List UInt8) :
    Except String LinePattern :=
  (readPattern extended ignoreCase (bytes.length + 1) true { index := 0 } [] 0 [] bytes).map
    fun (expr, groups) => { expr, groups, ignoreCase, multiLine }

end ZigReflect.Tool
