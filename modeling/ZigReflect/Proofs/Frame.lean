import ZigReflect.Lowering.Basic

/-!
# What an emission adds

`Addition` is what a step adds to an emitter: text and notices at the end, and a
result. An emission is framed (`Framed`) if from every emitter it adds what it
adds alone, to a fresh emitter that reads the same document. So a framed
emission reads neither the text before it nor the emitted names, and it leaves
the names and the document as they were, on failure too.

Framed emissions are closed under the steps that the rules are made of
(`Framed.bind`, `Framed.within`). Every rule is framed if its parts are, and the
recursion over types and declarations carries that to `Pair.emitType` and
`Pair.emitDeclaration` (`emit_keepsFrame`).
-/

set_option linter.unusedSectionVars false

namespace ZigReflect

/-- Text and notices that a step adds, and its result. -/
structure Addition (α : Type) where
  text : String
  notices : Array Notice
  result : Except Failure α

namespace Addition

variable {α β : Type}

/-- Adds to an emitter. -/
def onto (y : Addition α) (e : Emitter) : Except Failure α × Emitter :=
  (y.result, { e with text := e.text ++ y.text, notices := e.notices ++ y.notices })

/-- One addition after another; a failure ends both. -/
def bind (y : Addition α) (f : α → Addition β) : Addition β :=
  match y.result with
  | .error r => ⟨y.text, y.notices, .error r⟩
  | .ok a => ⟨y.text ++ (f a).text, y.notices ++ (f a).notices, (f a).result⟩

end Addition

namespace Emission

variable {α β : Type}

/-- What a step adds to a fresh emitter. -/
def alone (x : Emission α) (schema : Schema) : Addition α :=
  let (result, e) := x.on (.fresh schema)
  ⟨e.text, e.notices, result⟩

/-- From every emitter, the step adds what it adds alone. -/
def Framed (x : Emission α) : Prop :=
  ∀ e, x.on e = (x.alone e.schema).onto e

/-- An emission that adds the same to all emitters that read one document adds
just that when it is alone. -/
theorem alone_eq {x : Emission α} {y : Schema → Addition α}
    (h : ∀ e, x.on e = (y e.schema).onto e) (schema : Schema) : x.alone schema = y schema := by
  simp [alone, h, Addition.onto, Emitter.fresh]

/-- An emission that adds the same to all emitters that read one document is framed. -/
theorem Framed.of_onto {x : Emission α} {y : Schema → Addition α}
    (h : ∀ e, x.on e = (y e.schema).onto e) : x.Framed := by
  intro e
  rw [alone_eq h, h]

/-! ## Steps -/

theorem framed_pure (a : α) : (pure a : Emission α).Framed :=
  .of_onto (y := fun _ => ⟨"", #[], .ok a⟩) fun e => by simp [Addition.onto]

/-- Writing adds its text. -/
theorem framed_write (s : String) : (write s).Framed :=
  .of_onto (y := fun _ => ⟨s, #[], .ok ()⟩) fun e => by simp [Addition.onto]

/-- Noting adds its notice. -/
theorem framed_note (n : Notice) : (note n).Framed :=
  .of_onto (y := fun _ => ⟨"", #[n], .ok ()⟩) fun e => by simp [Addition.onto]

/-- A failure adds nothing. -/
theorem framed_fail (f : Failure) : (fail f : Emission α).Framed :=
  .of_onto (y := fun _ => ⟨"", #[], .error f⟩) fun e => by simp [Addition.onto]

/-- The document that is read is the one thing of an emitter that a framed emission may ask for. -/
theorem framed_reading : reading.Framed :=
  .of_onto (y := fun schema => ⟨"", #[], .ok schema⟩) fun e => by simp [Addition.onto]

theorem framed_ofExcept (r : Except Failure α) : (ofExcept r).Framed := by
  cases r with
  | ok a => exact framed_pure a
  | error f => exact framed_fail f

/-- Two framed steps add one after the other. -/
theorem on_bind_of_framed {x : Emission α} {f : α → Emission β} (hx : x.Framed)
    (hf : ∀ a, (f a).Framed) (e : Emitter) :
    (x >>= f).on e =
      ((x.alone e.schema).bind fun a => (f a).alone e.schema).onto e := by
  rw [on_bind, hx e]
  cases hr : (x.alone e.schema).result with
  | error r => simp [Addition.onto, Addition.bind, hr]
  | ok a =>
    simp only [Addition.onto, hr]
    rw [hf a]
    simp [Addition.onto, Addition.bind, hr, String.append_assoc]

/-- A framed step after a framed step is framed, also if the first one fails. -/
theorem Framed.bind {x : Emission α} {f : α → Emission β} (hx : x.Framed)
    (hf : ∀ a, (f a).Framed) : (x >>= f).Framed :=
  .of_onto (y := fun schema => (x.alone schema).bind fun a => (f a).alone schema)
    (on_bind_of_framed hx hf)

/-- A step that reads another document adds what it adds there, and the document
is the one before again. -/
theorem Framed.within {x : Emission α} (hx : x.Framed) (schema : Schema) :
    (within schema x).Framed :=
  .of_onto (y := fun _ => x.alone schema) fun e => by
    rw [on_within, hx]
    rfl

/-- Framed steps, one after another. -/
theorem framed_all : ∀ {xs : List (Emission Unit)}, (∀ x ∈ xs, x.Framed) → (all xs).Framed
  | [], _ => framed_pure ()
  | x :: xs, h => (h x (by simp)).bind fun _ => framed_all fun y hy => h y (by simp [hy])

/-- Framed steps, with one text between all of them. -/
theorem framed_separated (separator : String) :
    ∀ {xs : List (Emission Unit)}, (∀ x ∈ xs, x.Framed) → (separated separator xs).Framed
  | [], _ => framed_pure ()
  | [x], h => h x (by simp)
  | x :: y :: xs, h =>
    (h x (by simp)).bind fun _ => (framed_write separator).bind fun _ =>
      framed_separated separator fun z hz => h z (List.mem_cons_of_mem x hz)

end Emission

namespace Lowering

open Emission

variable {d : Declaration} {parts : Parts}

/-! ## The rules for types -/

/-- Whether a declaration was written is not asked for inside a type. -/
theorem framed_void {x : Emission Bool} (hx : x.Framed) : (void x).Framed :=
  hx.bind fun _ => framed_pure ()

/-- A placeholder is a notice and a text. -/
theorem framed_placeholder (n : Schema → Notice) (text : String) : (placeholder n text).Framed :=
  framed_reading.bind fun _ => (framed_note _).bind fun _ => framed_write text

/-- A reference with framed arguments, in parentheses if there are any. -/
theorem framed_reference (name : String) {arguments : List (Emission Unit)}
    (h : ∀ x ∈ arguments, x.Framed) : (reference name arguments).Framed := by
  refine (framed_write _).bind fun _ => ?_
  cases arguments.isEmpty with
  | true => exact framed_pure ()
  | false =>
    exact (framed_write "(").bind fun _ => (framed_separated ", " h).bind fun _ =>
      framed_write ")"

theorem framed_array {element : Emission Unit} (h : element.Framed) : (array element).Framed :=
  (framed_write _).bind fun _ => h

/-- A tuple with framed elements. -/
theorem framed_tuple {elements : List (Emission Unit)} (h : ∀ x ∈ elements, x.Framed) :
    (tuple elements).Framed :=
  (framed_write _).bind fun _ => (framed_separated ", " h).bind fun _ => framed_write _

/-- An enum of literals is text only. -/
theorem framed_literalEnum (values : List Literal) : (literalEnum values).Framed :=
  (framed_write _).bind fun _ => (framed_write _).bind fun _ => framed_write _

theorem framed_unionCase (name : String) {payload : Emission Unit} (h : payload.Framed) :
    (unionCase name payload).Framed :=
  (framed_write _).bind fun _ => (framed_write _).bind fun _ => h

/-- Every case has a label and a framed payload. -/
theorem framed_unionCases (names : List String) {cases : List (TypeNode × Emission Unit)}
    (h : ∀ c ∈ cases, c.2.Framed) :
    ∀ x ∈ names.zipWith unionCase (cases.map (·.2)), x.Framed := by
  intro x hx
  obtain ⟨i, hi, rfl⟩ := List.mem_iff_getElem.1 hx
  simp only [List.getElem_zipWith, List.getElem_map]
  exact framed_unionCase _ (h _ (List.getElem_mem _))

/-- A tagged union with framed payloads. -/
theorem framed_taggedUnion {cases : List (TypeNode × Emission Unit)}
    (h : ∀ c ∈ cases, c.2.Framed) : (taggedUnion cases).Framed :=
  (framed_write _).bind fun _ => (framed_separated ", " (framed_unionCases _ h)).bind fun _ =>
    framed_write _

/-- A union is framed in each of its forms. -/
theorem framed_union {members : List (TypeNode × Emission Unit)}
    (h : ∀ m ∈ members, m.2.Framed) : (union members).Framed := by
  have hc : ∀ m ∈ members.filter fun m => !m.1.isNull, m.2.Framed := fun m hm =>
    h m (List.mem_filter.1 hm).1
  unfold union
  split
  · exact framed_literalEnum _
  · split
    · refine (framed_write _).bind fun _ => ?_
      split
      · exact framed_write _
      · next only heq => exact hc only (by simp [heq])
      · exact framed_taggedUnion hc
    · exact framed_taggedUnion hc

/-- A reference has its fields inlined. Any other member is only noted. -/
theorem framed_intersectionMember {inline : Inliner} (h : ∀ name, (inline name).Framed)
    (t : TypeNode) : (intersectionMember inline t).Framed := by
  unfold intersectionMember
  split
  · exact h _
  · exact framed_reading.bind fun _ => framed_note _

theorem framed_intersectionMembers {inline : Inliner} (h : ∀ name, (inline name).Framed)
    (members : List TypeNode) : ∀ x ∈ members.map (intersectionMember inline), x.Framed := by
  intro x hx
  obtain ⟨t, -, rfl⟩ := List.mem_map.1 hx
  exact framed_intersectionMember h t

/-- The members of an intersection, one after another in one body. -/
theorem framed_intersection {inline : Inliner} (h : ∀ name, (inline name).Framed)
    (members : List TypeNode) : (intersection inline members).Framed :=
  (framed_write _).bind fun _ => (framed_all (framed_intersectionMembers h members)).bind fun _ =>
    framed_write _

/-! ## The rules for declarations -/

/-- A comment is written or it is not. -/
theorem framed_doc (d : Declaration) : (doc d).Framed := by
  unfold doc
  split
  · exact framed_write _
  · exact framed_pure ()

/-- A declaration that is left out with a notice. -/
theorem framed_skipNoting (n : Notice) : (skipNoting n).Framed :=
  (framed_note n).bind fun _ => framed_pure false

/-- A constant after its comment, as most rules write it. -/
theorem framed_documented (d : Declaration) (value : String) :
    (do doc d; constant d value; return true : Emission Bool).Framed :=
  (framed_doc d).bind fun _ => (framed_write _).bind fun _ => framed_pure true

/-- A reference fails where its target is not found, and otherwise is a constant. -/
theorem framed_referenceDeclaration (pair : Pair) (d : Declaration) :
    (referenceDeclaration pair d).Framed := by
  unfold referenceDeclaration
  split
  · exact framed_fail _
  · exact framed_reading.bind fun _ => (framed_ofExcept _).bind fun _ => framed_documented d _

/-- An alias is framed in both layouts. -/
theorem framed_aliasText (d : Declaration) {type : Emission Unit} (h : type.Framed) :
    (aliasText d type).Framed := by
  refine (framed_doc d).bind fun _ => ?_
  split
  · exact (framed_write _).bind fun _ => h.bind fun _ => framed_write _
  · exact (framed_write _).bind fun _ => (framed_write _).bind fun _ => h.bind fun _ =>
      framed_write _

/-- An alias asks for the document, to see whether a namespace of its name is there. -/
theorem framed_typeAlias (pair : Pair) (h : parts.type.Framed) :
    (typeAlias pair d parts).Framed := by
  unfold typeAlias
  split
  · exact framed_skipNoting _
  · exact framed_skipNoting _
  · refine framed_reading.bind fun _ => ?_
    split
    · exact framed_skipNoting _
    · exact (framed_aliasText d h).bind fun _ => framed_pure true

/-- An interface is framed if its children are. -/
theorem framed_interface (h : parts.children.Framed) : (interface d parts).Framed := by
  refine (framed_doc d).bind fun _ => ?_
  split
  · exact (framed_write _).bind fun _ => h.bind fun _ => (framed_write _).bind fun _ =>
      framed_pure true
  · exact (framed_write _).bind fun _ => (framed_write _).bind fun _ => h.bind fun _ =>
      (framed_write _).bind fun _ => framed_pure true

theorem framed_typeLiteral (h : parts.children.Framed) : (typeLiteral d parts).Framed := by
  unfold typeLiteral
  split
  · exact (framed_placeholder _ _).bind fun _ => framed_pure true
  · exact (framed_write _).bind fun _ => h.bind fun _ => (framed_write _).bind fun _ =>
      framed_pure true

/-- A property is framed if its type is. -/
theorem framed_property (h : parts.type.Framed) : (property d parts).Framed := by
  unfold property
  split
  · exact framed_skipNoting _
  · exact (framed_doc d).bind fun _ => (framed_write _).bind fun _ => framed_pure true
  · refine (framed_doc d).bind fun _ => ?_
    split <;>
      exact (framed_write _).bind fun _ => h.bind fun _ => (framed_write _).bind fun _ =>
        framed_pure true

/-- A child is a case with its comment, or a notice. -/
theorem framed_enumCase (owner child : Declaration) : (enumCase owner child).Framed := by
  unfold enumCase
  split
  · exact (framed_doc child).bind fun _ => framed_write _
  · exact framed_note _

/-- A namespace is framed if its children are, and always as an enum. -/
theorem framed_namespaceDeclaration (h : parts.children.Framed) :
    (namespaceDeclaration d parts).Framed := by
  unfold namespaceDeclaration
  split
  · exact framed_skipNoting _
  · refine (framed_doc d).bind fun _ => ?_
    split
    · refine (framed_write _).bind fun _ => (framed_all ?_).bind fun _ =>
        (framed_write _).bind fun _ => framed_pure true
      intro x hx
      obtain ⟨child, -, rfl⟩ := List.mem_map.1 hx
      exact framed_enumCase d child
    · exact (framed_write _).bind fun _ => h.bind fun _ => (framed_write _).bind fun _ =>
        framed_pure true

/-- A binding is framed if its type is. -/
theorem framed_binding (h : parts.type.Framed) : (binding d parts).Framed := by
  unfold binding
  split
  · exact framed_skipNoting _
  · split
    · exact framed_documented d _
    · split
      · exact framed_documented d _
      · exact (framed_note _).bind fun _ => framed_documented d _
    · exact (framed_doc d).bind fun _ => (framed_write _).bind fun _ => h.bind fun _ =>
        (framed_write _).bind fun _ => framed_pure true
    · exact framed_skipNoting _

theorem framed_enumeration (h : parts.children.Framed) : (enumeration d parts).Framed :=
  (framed_doc d).bind fun _ => (framed_write _).bind fun _ => h.bind fun _ =>
    (framed_write _).bind fun _ => framed_pure true

theorem framed_enumerationMember (d : Declaration) : (enumerationMember d).Framed := by
  unfold enumerationMember
  split
  · exact framed_documented d _
  · exact (framed_note _).bind fun _ => framed_documented d _

/-- The rule of every kind is framed if the parts of the declaration are. -/
theorem framed_byKind (pair : Pair) (d : Declaration) (ht : parts.type.Framed)
    (hc : parts.children.Framed) : (byKind pair d parts).Framed := by
  unfold byKind
  split
  · exact framed_pure false
  · cases d.kind with
    | reference => exact framed_referenceDeclaration pair d
    | interface => exact framed_interface hc
    | property => exact framed_property ht
    | typeAlias => exact framed_typeAlias pair ht
    | typeLiteral => exact framed_typeLiteral hc
    | nameSpace => exact framed_namespaceDeclaration hc
    | binding => exact framed_binding ht
    | enumeration => exact framed_enumeration hc
    | enumerationMember => exact framed_enumerationMember d
    | other kind => exact framed_skipNoting _
    | _ => exact framed_pure false

/-! ## The recursion -/

/-- Sorting does not matter to whether children are framed. -/
theorem framed_inOrder {children : List (Nat × Emission Bool)} (h : ∀ c ∈ children, c.2.Framed) :
    (inOrder children).Framed := by
  refine framed_all fun x hx => ?_
  obtain ⟨c, hc, rfl⟩ := List.mem_map.1 hx
  exact framed_void (h c (List.mem_mergeSort.1 hc))

section

variable (pair : Pair) {inline : Inliner} (hi : ∀ name, (inline name).Framed)
include hi

mutual

/-- By recursion over types and declarations, all of them are framed if the inlined fields are. -/
theorem framed_type : ∀ t : TypeNode, (type pair inline t).Framed
  | .intrinsic _ => framed_write _
  | .reference name arguments => framed_reference name (framed_types arguments)
  | .array element => framed_array (framed_type element)
  | .literal _ => framed_write _
  | .union members => framed_union fun _ hm => framed_types members _ (List.of_mem_zip hm).2
  | .tuple elements => framed_tuple (framed_types elements)
  | .intersection members => framed_intersection hi members
  | .indexedAccess _ _ => framed_placeholder _ _
  | .query _ => framed_placeholder _ _
  | .reflection d => framed_void (framed_declaration d)

theorem framed_types : ∀ ts : List TypeNode, ∀ x ∈ types pair inline ts, x.Framed
  | [], x, hx => by simp [types] at hx
  | t :: ts, x, hx => by
    rw [types, List.mem_cons] at hx
    rcases hx with rfl | hx
    · exact framed_type t
    · exact framed_types ts x hx

theorem framed_optionalType : ∀ t : Option TypeNode, (optionalType pair inline t).Framed
  | none => framed_pure ()
  | some t => framed_type t

theorem framed_declaration : ∀ d : Declaration, (declaration pair inline d).Framed
  | { children, type, .. } => by
    rw [declaration_eq]
    exact framed_byKind pair _ (framed_optionalType type)
      (framed_inOrder (framed_declarations children))

theorem framed_declarations : ∀ ds : List Declaration,
    ∀ c ∈ declarations pair inline ds, c.2.Framed
  | [], c, hc => by simp [declarations] at hc
  | d :: ds, c, hc => by
    rw [declarations, List.mem_cons] at hc
    rcases hc with rfl | hc
    · exact framed_declaration d
    · exact framed_declarations ds c hc

end

end

/-- The fields of an intersection member are framed: the step into the document
that has the member comes back from it. -/
theorem framed_inliner (pair : Pair) : ∀ (depth : Nat) (name : String),
    (inliner pair depth name).Framed
  | 0, _ => framed_fail _
  | depth + 1, _ =>
    framed_reading.bind fun _ => (framed_ofExcept _).bind fun found =>
      (framed_inOrder (framed_declarations pair (framed_inliner pair depth)
        found.2.children)).within found.1

end Lowering

namespace Pair

open Lowering

/-- Writing a type is framed. -/
theorem framed_emitType (pair : Pair) (t : TypeNode) : (pair.emitType t).Framed :=
  framed_type pair (framed_inliner pair pair.depth) t

/-- Writing a declaration is framed. -/
theorem framed_emitDeclaration (pair : Pair) (d : Declaration) :
    (pair.emitDeclaration d).Framed :=
  framed_declaration pair (framed_inliner pair pair.depth) d

end Pair

/-! ## The frame of an emitter -/

/-- An emission that only appends, reads nothing of the emitter but which document
it reads, and leaves the emitted names and the document as they were. It says so
of failed runs too. -/
structure Emission.KeepsFrame {α : Type} (x : Emission α) : Prop where
  appends : ∀ e, ∃ added, (x.on e).2.text = e.text ++ added
  contextFree : ∀ e₁ e₂ : Emitter, e₁.schema = e₂.schema → (x.on e₁).1 = (x.on e₂).1 ∧
    ∃ added, (x.on e₁).2.text = e₁.text ++ added ∧ (x.on e₂).2.text = e₂.text ++ added
  names : ∀ e, (x.on e).2.names = e.names
  schema : ∀ e, (x.on e).2.schema = e.schema

/-- A framed emission keeps the frame: what it adds is what it adds alone. -/
theorem Emission.Framed.keepsFrame {α : Type} {x : Emission α} (hx : x.Framed) :
    x.KeepsFrame where
  appends e := ⟨_, by rw [hx e]; rfl⟩
  contextFree e₁ e₂ h := by
    rw [hx e₁, hx e₂, h]
    exact ⟨rfl, _, rfl, rfl⟩
  names e := by rw [hx e]; rfl
  schema e := by rw [hx e]; rfl

/-- Writing a type or a declaration keeps the frame of every emitter, also where
an intersection member of the other document fails. -/
theorem emit_keepsFrame (pair : Pair) :
    (∀ t, (pair.emitType t).KeepsFrame) ∧ ∀ d, (pair.emitDeclaration d).KeepsFrame :=
  ⟨fun t => (pair.framed_emitType t).keepsFrame,
    fun d => (pair.framed_emitDeclaration d).keepsFrame⟩

end ZigReflect
