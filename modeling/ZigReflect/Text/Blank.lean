/-!
# Blank characters and lines

`isBlank` is the Unicode property `White_Space`. Trimming removes blanks at
the ends of a text, and `lines` cuts a text at its line feeds. Comments are
trimmed as a whole before they are cut, so a trimmed text has no blank first
or last line.
-/

namespace ZigReflect.Text

/-- The characters with the Unicode property `White_Space`. -/
def isBlank (c : Char) : Bool :=
  let n := c.toNat
  (9 ≤ n && n ≤ 13) || n == 0x20 || n == 0x85 || n == 0xA0 || n == 0x1680 ||
    (0x2000 ≤ n && n ≤ 0x200A) || n == 0x2028 || n == 0x2029 || n == 0x202F ||
    n == 0x205F || n == 0x3000

/-- Drops the blanks at the end. -/
def dropBlankEnd (cs : List Char) : List Char :=
  (cs.reverse.dropWhile isBlank).reverse

/-- Drops the blanks at both ends. -/
def dropBlankEnds (cs : List Char) : List Char :=
  dropBlankEnd (cs.dropWhile isBlank)

/-- The text without the blanks at its end. -/
def trimEnd (s : String) : String :=
  String.ofList (dropBlankEnd s.toList)

/-- The text without the blanks at its ends. -/
def trim (s : String) : String :=
  String.ofList (dropBlankEnds s.toList)

/-- Cuts after every line feed; the last piece is what follows the last one. -/
def splitFeeds : List Char → List (List Char)
  | [] => [[]]
  | '\n' :: rest => [] :: splitFeeds rest
  | c :: rest =>
    match splitFeeds rest with
    | [] => [[c]]
    | piece :: pieces => (c :: piece) :: pieces

/-- Removes one carriage return at the end. -/
def dropReturn (cs : List Char) : List Char :=
  if cs.getLast? = some '\r' then cs.dropLast else cs

/-- The lines of a text: what stands between line feeds, without a carriage
return before the feed. A text that ends in a line feed has no further line. -/
def lineChars (cs : List Char) : List (List Char) :=
  match (splitFeeds cs).reverse with
  | [] => []
  | last :: before =>
    let fed := before.reverse.map dropReturn
    if last.isEmpty then fed else fed ++ [last]

/-- The lines of a text, as texts. -/
def lines (s : String) : List String :=
  (lineChars s.toList).map String.ofList

end ZigReflect.Text
