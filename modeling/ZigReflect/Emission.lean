import ZigReflect.Emitted
import ZigReflect.Notice

/-!
# Emitters and emissions

An emitter holds the output of a run: the text and the notices so far, the names
that have been emitted, and which of the two documents is being read. An
emission is a step of an emitter that has a result or fails. A failed emission
keeps the text that it wrote before it failed.

`within` is the only step that changes which document is read. It sets the
document back afterwards, on failure too.
-/

namespace ZigReflect

/-- The output of a run, and the document that is being read. -/
structure Emitter where
  schema : Schema
  names : EmittedNames := .empty
  text : String := ""
  notices : Array Notice := #[]

/-- An emitter that has written nothing. -/
def Emitter.fresh (schema : Schema) : Emitter := { schema }

/-- A step of an emitter, with a result or the failure that ended it. -/
abbrev Emission := ExceptT Failure (StateM Emitter)

namespace Emission

variable {α β : Type}

/-- Takes the step from an emitter. -/
def on (x : Emission α) (e : Emitter) : Except Failure α × Emitter :=
  ExceptT.run x e

/-- Writes a text at the end. -/
def write (s : String) : Emission Unit :=
  modify fun e => { e with text := e.text ++ s }

/-- Notes something. -/
def note (n : Notice) : Emission Unit :=
  modify fun e => { e with notices := e.notices.push n }

/-- Fails. -/
def fail (f : Failure) : Emission α :=
  throw f

/-- Goes on with a result, or fails. -/
def ofExcept : Except Failure α → Emission α
  | .ok a => pure a
  | .error f => fail f

/-- The document that is being read. -/
def reading : Emission Schema :=
  return (← get).schema

/-- Takes a step that reads another document, and goes back to the one before. -/
def within (schema : Schema) (x : Emission α) : Emission α := fun e =>
  let (result, after) := ExceptT.run x { e with schema }
  (result, { after with schema := e.schema })

/-- The names that have been emitted. -/
def emittedNames : Emission EmittedNames :=
  return (← get).names

/-- Records that a name has been emitted. -/
def record (name : String) : Emission Unit :=
  modify fun e => { e with names := e.names.insert name }

/-- Runs emissions in order. -/
def all : List (Emission Unit) → Emission Unit
  | [] => pure ()
  | x :: xs => do
    x
    all xs

/-- Runs emissions in order and writes a text between them. -/
def separated (separator : String) : List (Emission Unit) → Emission Unit
  | [] => pure ()
  | [x] => x
  | x :: xs => do
    x
    write separator
    separated separator xs

/-! ## Each step from an emitter -/

@[simp] theorem on_pure (a : α) (e : Emitter) : (pure a : Emission α).on e = (.ok a, e) := rfl

@[simp] theorem on_write (s : String) (e : Emitter) :
    (write s).on e = (.ok (), { e with text := e.text ++ s }) := rfl

@[simp] theorem on_note (n : Notice) (e : Emitter) :
    (note n).on e = (.ok (), { e with notices := e.notices.push n }) := rfl

@[simp] theorem on_fail (f : Failure) (e : Emitter) :
    (fail f : Emission α).on e = (.error f, e) := rfl

@[simp] theorem on_reading (e : Emitter) : reading.on e = (.ok e.schema, e) := rfl

@[simp] theorem on_emittedNames (e : Emitter) : emittedNames.on e = (.ok e.names, e) := rfl

@[simp] theorem on_record (name : String) (e : Emitter) :
    (record name).on e = (.ok (), { e with names := e.names.insert name }) := rfl

theorem on_within (schema : Schema) (x : Emission α) (e : Emitter) :
    (within schema x).on e =
      ((x.on { e with schema }).1, { (x.on { e with schema }).2 with schema := e.schema }) := rfl

/-- The second step starts where the first one ended, unless that one failed. -/
theorem on_bind (x : Emission α) (f : α → Emission β) (e : Emitter) :
    (x >>= f).on e =
      match x.on e with
      | (.ok a, after) => (f a).on after
      | (.error r, after) => (.error r, after) := by
  show (match x.on e with | (r, after) => (ExceptT.bindCont f r) after) = _
  rcases x.on e with ⟨_ | _, _⟩ <;> rfl

end Emission

end ZigReflect
