import ZigReflect.Text.Blank
import ZigReflect.Zig.Name

/-!
# Initializers

The initializer of a constant is source text. A text in single quotes, a
decimal number and a dotted path of names carry over into Zig; anything else
has to be finished by hand.
-/

namespace ZigReflect.Zig

open ZigReflect.Text

/-- What stands between two single quotes. -/
def betweenQuotes? : List Char → Option (List Char)
  | '\'' :: rest => if rest.getLast? = some '\'' then some rest.dropLast else none
  | _ => none

/-- Whether the characters are an exponent after the letter `e`. -/
def isExponent : List Char → Bool
  | '+' :: ds => !ds.isEmpty && ds.all isDigit
  | '-' :: ds => !ds.isEmpty && ds.all isDigit
  | ds => !ds.isEmpty && ds.all isDigit

/-- Whether the characters are the end of a number, after its fraction. -/
def isNumberEnd : List Char → Bool
  | [] => true
  | c :: rest => (c == 'e' || c == 'E') && isExponent rest

/-- Whether the characters are a decimal number without a sign: digits, a point
with or without digits after it, and an exponent. -/
def isUnsignedNumber (cs : List Char) : Bool :=
  let whole := cs.takeWhile isDigit
  !whole.isEmpty &&
    match cs.dropWhile isDigit with
    | '.' :: rest => isNumberEnd (rest.dropWhile isDigit)
    | rest => isNumberEnd rest

/-- Whether the characters are a decimal number, negated or not. -/
def isNumber : List Char → Bool
  | '-' :: rest => isUnsignedNumber rest
  | cs => isUnsignedNumber cs

/-- Whether the characters are a name in a path. -/
def isPathPart : List Char → Bool
  | [] => false
  | c :: rest => (isLetter c || c == '_') && rest.all isWordAscii

/-- Whether the characters are names with dots between them. -/
def isPath (cs : List Char) : Bool :=
  (splitAt '.' cs).all isPathPart

/-- The Zig expression of an initializer, when it carries over. -/
def initializer? (source : String) : Option String :=
  let cs := dropBlankEnds source.toList
  match betweenQuotes? cs with
  | some inner => some (stringLiteral (String.ofList inner))
  | none => if isNumber cs || isPath cs then some (String.ofList cs) else none

end ZigReflect.Zig
