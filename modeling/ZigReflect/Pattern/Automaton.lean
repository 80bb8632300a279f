import ZigReflect.Pattern.Bytes
import ZigReflect.Pattern.Regex

/-!
# The size of automata

An expression is matched by an automaton over bytes, forwards from the start of
a match and backwards from its end. Both have to stay below a limit, or the
pattern is refused. The sizes are computed along the expression: turns are
written out, a set is a graph of byte ranges, and alternatives that are all texts
share their starts.
-/

namespace ZigReflect.Pattern

namespace Automaton

/-- The size of a state. -/
def state : Nat := 32

/-- The size of an edge over a range of bytes, out of a state with several. -/
def edge : Nat := 8

/-- The size of a branch of a state that takes no byte. -/
def branch : Nat := 4

/-- The greatest size. -/
def limit : Nat := 10485760

/-- A part of an automaton: its size, and whether it ends in a state with
branches, so that what follows it is one more branch. -/
structure Part where
  size : Nat
  forks : Bool := false

/-- The size of the way out of a part. -/
def Part.exit (p : Part) : Nat := if p.forks then branch else 0

/-! ## Sets -/

/-- A state of the graph of a set: its edges, and the number of the state that
each leads to. -/
abbrev Node := List (ByteRange × Nat)

/-- Groups sequences that start with the same range; equal starts stand side by
side. -/
def groupByHead : List (List ByteRange) → List (ByteRange × List (List ByteRange))
  | [] => []
  | [] :: rest => groupByHead rest
  | (r :: tail) :: rest =>
    match groupByHead rest with
    | (q, tails) :: groups =>
      if r = q then (q, tail :: tails) :: groups else (r, [tail]) :: (q, tails) :: groups
    | [] => [(r, [tail])]

/-- The number of a state among those that have been made; a state like one of
them is not made again. The end is the state 0. -/
def share (node : Node) (nodes : List Node) : Nat × List Node :=
  match nodes.findIdx? (· == node) with
  | some i => (nodes.length - i, nodes)
  | none => (nodes.length + 1, node :: nodes)

/-- The state from which some sequences of a bounded length lead to the end. -/
def nodeOf : Nat → List (List ByteRange) → List Node → Nat × List Node
  | 0, _, nodes => (0, nodes)
  | depth + 1, sequences, nodes =>
    match groupByHead sequences with
    | [] => (0, nodes)
    | groups =>
      let (node, nodes) := groups.foldl (fun (node, nodes) (r, tails) =>
        let (target, nodes) := nodeOf depth tails nodes
        (node ++ [(r, target)], nodes)) (([] : Node), nodes)
      share node nodes

/-- The size of a set of ASCII characters. -/
def asciiSize (s : CharSet) : Nat := 2 * state + edge * s.ranges.length

/-- The size of a set that is read forwards: equal ends are shared. -/
def forwardSize (s : CharSet) : Nat :=
  let (_, nodes) := nodeOf 5 s.sequences []
  nodes.foldl (fun n node => n + state + edge * node.length) state

/-- How many ranges two sequences have in common at their starts. -/
def sharedRanges : List ByteRange → List ByteRange → Nat
  | a :: as, b :: bs => if a = b then sharedRanges as bs + 1 else 0
  | _, _ => 0

/-- How many states sequences need when equal starts are shared. -/
def startStates : List ByteRange → List (List ByteRange) → Nat
  | _, [] => 0
  | before, s :: rest => s.length - sharedRanges before s + startStates s rest

/-- The size of a set that is read backwards: equal starts are shared. -/
def backwardSize (s : CharSet) : Nat :=
  let sequences := s.sequences
  2 * state + state * startStates [] sequences + branch * sequences.length

/-- The size of a set. -/
def setSize (backwards : Bool) (s : CharSet) : Nat :=
  if s.isAscii then asciiSize s
  else if backwards then backwardSize s
  else forwardSize s

/-! ## Texts -/

/-- The bytes of some characters. -/
def bytesOf (cs : List Char) : List UInt8 := cs.flatMap String.utf8EncodeChar

/-- A tree of texts by their bytes. The edges come in groups: a text that ends at
a place closes the group there. -/
inductive Trie where
  | node (closed : List (List (UInt8 × Trie))) (current : List (UInt8 × Trie))

namespace Trie

/-- The empty tree. -/
def empty : Trie := .node [] []

/-- Whether nothing leads on from here. -/
def isLeaf : Trie → Bool
  | .node closed current => current.isEmpty && closed.all (·.isEmpty)

/-- The tree of one text. -/
def ofText : List UInt8 → Trie
  | [] => .node [[]] []
  | b :: bs => .node [] [(b, ofText bs)]

/-- Adds a text. -/
def add : List UInt8 → Trie → Trie
  | [], .node closed current =>
    if (Trie.node closed current).isLeaf && !closed.isEmpty then .node closed current
    else .node (closed ++ [current]) []
  | b :: bs, .node closed current =>
    match current.lookup b with
    | some next =>
      .node closed (current.map fun x => if x.1 == b then (b, add bs next) else x)
    | none => .node closed (current ++ [(b, ofText bs)])

/-- The size of a group of edges. -/
def groupSize (n : Nat) : Nat :=
  if n = 0 then 0 else branch + state + if n = 1 then 0 else edge * n

mutual

/-- The size of a tree below its root. A place where texts end leads to the end
once for each closed group. -/
def size : Trie → Nat
  | .node closed current =>
    if current.isEmpty && closed.all (·.isEmpty) then 0
    else state + branch * closed.length + groupSize current.length + edgesSize current +
      groupsSize closed

/-- The size of what groups of edges lead to, and of the groups. -/
def groupsSize : List (List (UInt8 × Trie)) → Nat
  | [] => 0
  | g :: gs => groupSize g.length + edgesSize g + groupsSize gs

/-- The size of what edges lead to. -/
def edgesSize : List (UInt8 × Trie) → Nat
  | [] => 0
  | (_, t) :: rest => t.size + edgesSize rest

end

end Trie

/-- The size of alternatives that are texts. -/
def textsSize (backwards : Bool) (texts : List (List Char)) : Nat :=
  state + (texts.foldl (fun t cs =>
    let bytes := bytesOf cs
    t.add (if backwards then bytes.reverse else bytes)) Trie.empty).size

/-! ## Expressions -/

/-- Parts one after another. -/
def chain : List Part → Part
  | [] => ⟨state, false⟩
  | [p] => p
  | p :: ps =>
    let rest := chain ps
    ⟨p.size + p.exit + rest.size, rest.forks⟩

/-- One of several parts. -/
def choice (ps : List Part) : Part :=
  match ps with
  | [p] => p
  | ps => ⟨ps.foldl (fun n p => n + p.size + p.exit + branch) (2 * state), false⟩

/-- A part a fixed number of times. -/
def copies (n : Nat) (p : Part) : Part :=
  if n = 0 then ⟨state, false⟩ else ⟨n * p.size + (n - 1) * p.exit, p.forks⟩

/-- A part with turns; `takes` says whether every turn takes a byte. -/
def loop (min : Nat) (max : Option Nat) (takes : Bool) (p : Part) : Part :=
  match min, max with
  | 0, some 1 => ⟨p.size + p.exit + 2 * state + 2 * branch, false⟩
  | 0, none =>
    if takes then ⟨p.size + p.exit + state + branch, true⟩
    else ⟨p.size + p.exit + 3 * state + 4 * branch, false⟩
  | n + 1, none => ⟨(copies (n + 1) p).size + p.exit + state + branch, true⟩
  | min, some max =>
    let start := copies min p
    if max ≤ min then start
    else ⟨start.size + start.exit + state + (max - min) * (p.size + p.exit + state + 2 * branch),
      false⟩

end Automaton

namespace Regex

open Automaton

mutual

/-- The least number of characters of a match, unless a set of no character
stands in the way. -/
def minLength : Regex → Option Nat
  | .text cs => some cs.length
  | .one s => if s.ranges.isEmpty then none else some 1
  | .anchor _ => some 0
  | .turns min _ r => r.minLength.map (· * min)
  | .group _ r => r.minLength
  | .seq rs => totalLength rs
  | .alt rs => leastLength rs

/-- The least number of characters of matches one after another. -/
def totalLength : List Regex → Option Nat
  | [] => some 0
  | r :: rs => r.minLength.bind fun n => (totalLength rs).map (n + ·)

/-- The least number of characters of a match of one of several expressions. -/
def leastLength : List Regex → Option Nat
  | [] => none
  | [r] => r.minLength
  | r :: rs => r.minLength.bind fun n => (leastLength rs).map (Nat.min n)

end

mutual

/-- Whether every match starts, or with `ends` ends, where the text does. -/
def isPinned (ends : Bool) : Regex → Bool
  | .text _ => false
  | .one _ => false
  | .anchor a => a == if ends then .textEnd else .textStart
  | .turns min _ r => 0 < min && r.isPinned ends
  | .group _ r => r.isPinned ends
  | .seq rs => if ends then isLastPinned rs else isFirstPinned rs
  | .alt rs => !rs.isEmpty && areAllPinned ends rs

/-- Whether a sequence of expressions starts where the text does. -/
def isFirstPinned : List Regex → Bool
  | [] => false
  | r :: rs => r.isPinned false || (r.isVoid && isFirstPinned rs)

/-- Whether a sequence of expressions ends where the text does. -/
def isLastPinned : List Regex → Bool
  | [] => false
  | r :: rs => isLastPinned rs || (areVoid rs && r.isPinned true)

/-- Whether all of some expressions start or end where the text does. -/
def areAllPinned (ends : Bool) : List Regex → Bool
  | [] => true
  | r :: rs => r.isPinned ends && areAllPinned ends rs

end

/-- The characters of an expression that is a text. -/
def text? : Regex → Option (List Char)
  | .text cs => if cs.isEmpty then none else some cs
  | _ => none

mutual

/-- The automaton of an expression. Only forwards, the places where groups start
and end are states of their own. -/
def automaton (backwards : Bool) : Regex → Part
  | .text cs => ⟨Nat.max 1 (bytesOf cs).length * state, false⟩
  | .one s => ⟨setSize backwards s, false⟩
  | .anchor _ => ⟨state, false⟩
  | .turns min max r =>
    loop min max (r.minLength.any (0 < ·)) (r.automaton backwards)
  | .group _ r =>
    let p := r.automaton backwards
    if backwards then p else ⟨p.size + p.exit + 2 * state, false⟩
  | .seq rs =>
    let ps := automata backwards rs
    chain (if backwards then ps.reverse else ps)
  | .alt rs =>
    match rs.mapM text? with
    | some texts => ⟨textsSize backwards texts, false⟩
    | none => choice (automata backwards rs)

/-- The automata of several expressions. -/
def automata (backwards : Bool) : List Regex → List Part
  | [] => []
  | r :: rs => r.automaton backwards :: automata backwards rs

end

/-- The size of the whole automaton: before the expression it passes over bytes,
unless every match is pinned to the end of the text where it starts, and after
the expression it accepts. -/
def size (backwards : Bool) (r : Regex) : Nat :=
  let before := if r.isPinned backwards then state else 3 * state + edge + 2 * branch
  let whole := (Regex.group 0 r).automaton backwards
  before + whole.size + whole.exit + state

/-- Whether the automata of the expression stay below the limit. -/
def isSmall (r : Regex) : Bool :=
  r.size false ≤ limit && r.size true ≤ limit

end Regex

end ZigReflect.Pattern
