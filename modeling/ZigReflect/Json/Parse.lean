import ZigReflect.Json.Token

/-!
# From tokens to JSON values

The tokens are read one at a time onto a stack of the containers that are
still open, so the nesting of a text is limited only by the readers of the
value.
-/

namespace ZigReflect.Json

/-- A container that is still open, its parts newest first. -/
inductive Frame where
  | array (items : List Json)
  /-- `sound` fails once a key stands for no text. -/
  | object (fields : List (String × Json)) (sound : Bool)
  /-- An object whose last key still waits for its value. -/
  | member (fields : List (String × Json)) (sound : Bool) (key : Option String)

/-- What may come next. -/
inductive Expect where
  | value
  /-- A value, or the end of an empty array. -/
  | item
  /-- A key, or the end of an empty object. -/
  | firstKey
  | key
  | colon
  /-- A comma, or the end of the container. -/
  | separator
  /-- The text is complete. -/
  | nothing (v : Json)

/-- The containers still open, innermost first, and what may come next. -/
structure State where
  stack : List Frame
  expect : Expect

/-- Puts a finished value where it stands. -/
def deliver (v : Json) : List Frame → Option State
  | [] => some ⟨[], .nothing v⟩
  | .array items :: rest => some ⟨.array (v :: items) :: rest, .separator⟩
  | .member fields sound (some key) :: rest =>
    some ⟨.object ((key, v) :: fields) sound :: rest, .separator⟩
  | .member fields _ none :: rest => some ⟨.object fields false :: rest, .separator⟩
  | .object .. :: _ => none

/-- Closes the innermost container when it is an array. -/
def closeArray? : List Frame → Option State
  | .array items :: rest => deliver (.array items.reverse) rest
  | _ => none

/-- Closes the innermost container when it is an object. -/
def closeObject? : List Frame → Option State
  | .object fields sound :: rest =>
    deliver (if sound then .object fields.reverse else .unreadable) rest
  | _ => none

/-- Reads a token where a value is due. -/
def stepValue (stack : List Frame) : Token → Option State
  | .openArray => some ⟨.array [] :: stack, .item⟩
  | .openObject => some ⟨.object [] true :: stack, .firstKey⟩
  | .null => deliver .null stack
  | .bool b => deliver (.bool b) stack
  | .number (some n) => deliver (.number n) stack
  | .number none => deliver .unreadable stack
  | .string (some s) => deliver (.string s) stack
  | .string none => deliver .unreadable stack
  | _ => none

/-- Reads a token where a key is due. -/
def stepKey (stack : List Frame) : Token → Option State
  | .string key =>
    match stack with
    | .object fields sound :: rest => some ⟨.member fields sound key :: rest, .colon⟩
    | _ => none
  | _ => none

/-- Reads a token after a part of a container. -/
def stepSeparator (stack : List Frame) : Token → Option State
  | .comma =>
    match stack with
    | .array _ :: _ => some ⟨stack, .value⟩
    | .object .. :: _ => some ⟨stack, .key⟩
    | _ => none
  | .closeArray => closeArray? stack
  | .closeObject => closeObject? stack
  | _ => none

/-- Reads one token. -/
def State.step (s : State) (t : Token) : Option State :=
  match s.expect, t with
  | .value, t => stepValue s.stack t
  | .item, .closeArray => closeArray? s.stack
  | .item, t => stepValue s.stack t
  | .firstKey, .closeObject => closeObject? s.stack
  | .firstKey, t => stepKey s.stack t
  | .key, t => stepKey s.stack t
  | .colon, .colon => some ⟨s.stack, .value⟩
  | .colon, _ => none
  | .separator, t => stepSeparator s.stack t
  | .nothing _, _ => none

/-- The value of a text, or `none` when the text is not one complete value. -/
def parse? (text : String) : Option Json := do
  let tokens ← tokens? text
  let final ← tokens.foldlM State.step ⟨[], .value⟩
  match final.expect with
  | .nothing v => some v
  | _ => none

end ZigReflect.Json
