import ZigReflect.Text.Find

/-!
# Fuzzy matching of names

A name matches a query when the characters of the query stand in it in order.
Matches are scored by alignment: a character matched at the start of a word
counts more, consecutive characters count more, and gaps count less. Two rows
of cells are filled by turns, one turn for each character of the query; a turn
leaves the cells before the first possible position as they were.
-/

namespace ZigReflect.Fuzzy

open ZigReflect.Text

/-- The classes of characters that mark the starts of words. -/
inductive CharClass where
  | empty
  /-- Separates words, and counts most. -/
  | hard
  /-- Separates words too. -/
  | soft
  | digit
  | upper
  | lower
deriving DecidableEq

/-- The class of a character. -/
def classify (c : Char) : CharClass :=
  let n := c.toNat
  if n = 0 then .empty
  else if [' ', '/', '\\', '|', '(', ')', '[', ']', '\x7b', '\x7d'].contains c then .hard
  else if (0x21 ≤ n && n ≤ 0x27) || (0x2A ≤ n && n ≤ 0x2E) || (0x3A ≤ n && n ≤ 0x40) ||
      (0x5E ≤ n && n ≤ 0x60) || n = 0x7E then .soft
  else if isDigit c then .digit
  else if 'A' ≤ c && c ≤ 'Z' then .upper
  else .lower

/-- What a character counts for standing after another one. -/
def bonus (before c : Char) : Int :=
  match classify before, classify c with
  | .empty, _ => 8
  | .hard, _ => 8
  | .soft, _ => 7
  | .lower, .upper => 6
  | .digit, .upper => 6
  | _, _ => 0

/-- The bonus of every character of a name; the first one counts twice. -/
def bonuses (name : List Char) : List Int :=
  match name.zipWith (fun c before => bonus before c) (Char.ofNat 0 :: name) with
  | [] => []
  | first :: rest => 2 * first :: rest

/-- Whether a query tells capitals from small letters. -/
def isCaseSensitive (query : List Char) : Bool :=
  query.any fun c => 'A' ≤ c && c ≤ 'Z'

/-- Whether two characters match. -/
def agrees (sensitive : Bool) (c p : Char) : Bool :=
  c == p || (!sensitive && lowerAscii c == lowerAscii p)

/-- The leftmost positions of the query in a name, counted from `start`, or
`none` when the query is not a subsequence of the name. -/
def positions? (sensitive : Bool) : Nat → List Char → List Char → Option (List Nat)
  | _, _, [] => some []
  | _, [], _ :: _ => none
  | start, c :: name, p :: query =>
    if agrees sensitive c p then (positions? sensitive (start + 1) name query).map (start :: ·)
    else positions? sensitive (start + 1) name (p :: query)

/-- Smaller than any score. -/
def worst : Int := -32768

/-- One column of a row. -/
structure Cell where
  /-- The best score with the column matched. -/
  matched : Int := worst
  /-- The best score with the column skipped. -/
  skipped : Int := worst
  /-- What the run of matches that ends here counts for each match. -/
  run : Int := 0
deriving Inhabited

/-- A row of cells, one for each character of a name and one before them. -/
abbrev Row := Array Cell

/-- A name with its bonuses, and how its characters are compared. -/
structure Target where
  name : Array Char
  bonus : Array Int
  sensitive : Bool

/-- Fills one column of a row from the row of the turn before. -/
def fillColumn (t : Target) (p : Char) (prev : Row) (row : Row) (col : Nat) : Row :=
  let c := t.name.getD (col - 1) (Char.ofNat 0)
  let start := t.bonus.getD (col - 1) 0
  let row :=
    if agrees t.sensitive c p then
      let score := if c = p then 16 else 14
      let left := row.getD (col - 1) {}
      let run := max (max left.run start) 4
      let diagonal := prev.getD (col - 1) {}
      let best := max (diagonal.matched + run) (diagonal.skipped + start) + score
      let row := row.setIfInBounds (col - 1) { left with run }
      row.modify col fun cell => { cell with matched := best }
    else row.modify col fun cell => { cell with matched := worst, run := 0 }
  let left := row.getD (col - 1) {}
  row.modify col fun cell => { cell with skipped := max (left.matched - 4) (left.skipped - 1) }

/-- The two rows: the one of the turn before, and the one to fill next. -/
structure Rows where
  prev : Row
  next : Row

/-- Fills a row for one character of the query, from its first position on. -/
def turn (t : Target) (rows : Rows) (step : Char × Nat) : Rows :=
  let (p, first) := step
  let count := t.name.size - first
  let filled := (List.range count).foldl
    (fun row k => fillColumn t p rows.prev row (first + 1 + k)) rows.next
  ⟨filled, rows.prev⟩

/-- The score of a name for a query, or `none` when it does not match. -/
def score (query name : String) : Option Int :=
  let qs := query.toList
  let cs := name.toList
  let sensitive := isCaseSensitive qs
  match positions? sensitive 0 cs qs with
  | none => none
  | some firsts =>
    match firsts.getLast? with
    | none => some 0
    | some last =>
      let t : Target := ⟨cs.toArray, (bonuses cs).toArray, sensitive⟩
      let blank : Row := Array.replicate (cs.length + 1) {}
      let start : Row := blank.map fun cell => { cell with skipped := -1 }
      let rows := (qs.zip firsts).foldl (turn t) ⟨start, blank⟩
      let tail := rows.prev.toList.drop last
      some (tail.foldl (fun best cell => max best cell.matched) worst)

end ZigReflect.Fuzzy
