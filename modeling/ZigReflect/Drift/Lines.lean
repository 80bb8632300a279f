/-!
# Lines with their ends

A text is cut after every line feed, carriage return, or the two together, and
every line keeps its end. Nothing is lost: the lines joined are the text.
-/

namespace ZigReflect.Drift

/-- Cuts a text into lines; `line` holds the characters of the open one. -/
def cutLines : List Char → List Char → List (List Char)
  | [], [] => []
  | line, [] => [line.reverse]
  | line, '\r' :: '\n' :: rest => ('\n' :: '\r' :: line).reverse :: cutLines [] rest
  | line, c :: rest =>
    if c = '\n' || c = '\r' then (c :: line).reverse :: cutLines [] rest
    else cutLines (c :: line) rest

/-- The lines of a text with their ends. -/
def lines (s : String) : List String :=
  (cutLines [] s.toList).map String.ofList

/-- Whether a line has an end. -/
def isEnded (line : String) : Bool :=
  match line.toList.getLast? with
  | some c => c == '\n' || c == '\r'
  | none => false

end ZigReflect.Drift
