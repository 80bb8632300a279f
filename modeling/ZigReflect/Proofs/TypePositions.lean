import ZigReflect.Proofs.Inclusion
import ZigReflect.Proofs.OptionalFields
import ZigReflect.Proofs.WrittenFlag

/-!
# Empty type positions

A declaration in the place of a type is written by the rule of its kind, and nothing takes its
place if the rule leaves it out. `Pair.LeavesOut` says which declarations are left out, from what
they are and the names of the document (`Pair.skips_emitDeclaration_iff`). Every other type starts
with a text of its own, so a type is written as nothing if and only if it is `Pair.Silent`.

`Pair.Encloses` leads from a part to the parts that are written in it, each at a place of its own.
What holds of a type alone therefore holds at every position: as a field, the value of an alias or
constant, an argument, an element or a payload (`Pair.type_position_empty_iff`). A declaration of a
kind without a rule leaves its position empty (`Pair.left_out_type_empty`).
-/

namespace ZigReflect

theorem Literal.render_ne_empty (value : Literal) : value.render ≠ "" := by
  by_cases hnull : value = .null
  · subst hnull
    decide
  · obtain ⟨c, cs, hcons, -⟩ := value.render_head hnull
    intro h
    simp [h] at hcons

namespace Zig

theorem primitive_eq_empty_iff {name : String} : primitive name = "" ↔ name = "" := by
  unfold primitive
  split <;> simp_all

theorem identifier_ne_empty (name : String) : identifier name ≠ "" := by
  unfold identifier
  split
  · simp
  · next hbare =>
    rintro rfl
    exact hbare rfl

end Zig

namespace Lowering

open Emission

theorem yields_placeholder_iff {n : Schema → Notice} {s : Schema} {written text : String} :
    (placeholder n written).Yields s () text ↔ text = written := by
  unfold placeholder
  rw [yields_reading_bind_iff, yields_note_bind_iff (framed_write written), yields_write_iff]

end Lowering

namespace Pair

open Lowering Emission

variable {pair : Pair} {s : Schema} {d : Declaration} {t : TypeNode} {text : String}

/-! ## Empty types -/

/-- A declaration that succeeds writes nothing if and only if it is left out. -/
theorem empty_declaration_iff {written : Bool}
    (h : (pair.emitDeclaration d).Yields s written text) : text = "" ↔ pair.LeavesOut s d := by
  have hresult : ((pair.emitDeclaration d).on (.fresh s)).1 = .ok written := h.result
  have hskips : ((pair.emitDeclaration d).on (.fresh s)).1 = .ok false ↔ pair.LeavesOut s d :=
    skips_emitDeclaration_iff
  cases written with
  | false =>
    have hquiet : text = "" := h.text ▸ pair.quiet_emitDeclaration d (.fresh s) hresult
    exact ⟨fun _ => hskips.1 hresult, fun _ => hquiet⟩
  | true =>
    refine ⟨fun htext => ((pair.audible_emitDeclaration d).ne_empty s text h htext).elim,
      fun hleft => ?_⟩
    rw [hskips.2 hleft] at hresult
    cases hresult

/-- Nothing is written in the place of the type. -/
inductive Silent (pair : Pair) (s : Schema) : TypeNode → Prop
  | unnamed : Silent pair s (.intrinsic "")
  | leftOut {d : Declaration} (h : pair.LeavesOut s d) : Silent pair s (.reflection d)

theorem ne_empty_of_write {β : Type} {first : String} (hfirst : first ≠ "") {x : Emission β}
    (hx : x.Framed) {b : β} (h : (write first >>= fun _ => x).Yields s b text) : text ≠ "" := by
  obtain ⟨rest, -, rfl⟩ := (yields_write_bind_iff hx).1 h
  simp [hfirst]

theorem union_ne_empty {members : List TypeNode}
    (h : (pair.emitType (.union members)).Yields s () text) : text ≠ "" := by
  rw [← h.text]
  by_cases hliteral : IsLiteralUnion members
  · rw [emitType_union, union_of_literals _ hliteral]
    obtain ⟨rest, htext⟩ := alone_literalEnum (members.filterMap TypeNode.literalValue?) s
    simp [htext]
  · by_cases hnull : HasNull members
    · simp [alone_union_of_null pair s hliteral hnull, Addition.after]
    · obtain ⟨rest, htext⟩ := alone_union_of_not_null pair s hliteral hnull
      simp [htext]

/-- Apart from a name and a declaration, every type starts with a text of its own. -/
theorem type_ne_empty (h : (pair.emitType t).Yields s () text)
    (hname : ∀ name, t ≠ .intrinsic name) (hdeclaration : ∀ d, t ≠ .reflection d) :
    text ≠ "" := by
  have hinline := framed_inliner pair pair.depth
  cases t with
  | intrinsic name => exact (hname name rfl).elim
  | reference name arguments =>
    refine ne_empty_of_write (Zig.identifier_ne_empty name) ?_ h
    split
    · exact framed_pure ()
    · exact (framed_write _).bind fun _ =>
        (framed_separated ", " (framed_types pair hinline arguments)).bind fun _ =>
          framed_write _
  | array element => exact ne_empty_of_write (by decide) (pair.framed_emitType element) h
  | literal value =>
    rw [yields_write_iff.1 h]
    exact value.render_ne_empty
  | union members => exact union_ne_empty h
  | tuple elements =>
    have helements := framed_separated ", " (framed_types pair hinline elements)
    exact ne_empty_of_write (by decide) (helements.bind fun _ => framed_write _) h
  | intersection members =>
    have hmembers := framed_all (framed_intersectionMembers hinline members)
    exact ne_empty_of_write (by decide) (hmembers.bind fun _ => framed_write _) h
  | indexedAccess object index =>
    rw [yields_placeholder_iff.1 h]
    decide
  | query subject =>
    rw [yields_placeholder_iff.1 h]
    decide
  | reflection d => exact (hdeclaration d rfl).elim

/-- A type that succeeds is written as nothing if and only if it has no name or is a declaration
that is left out. -/
theorem empty_type_iff (h : (pair.emitType t).Yields s () text) : text = "" ↔ pair.Silent s t := by
  cases t with
  | intrinsic name =>
    obtain rfl := yields_write_iff.1 h
    rw [Zig.primitive_eq_empty_iff]
    constructor
    · rintro rfl
      exact .unnamed
    · rintro ⟨⟩
      rfl
  | reflection d =>
    obtain ⟨written, hwritten⟩ := (yields_void_iff (pair.framed_emitDeclaration d)).1 h
    rw [empty_declaration_iff hwritten]
    constructor
    · exact .leftOut
    · rintro ⟨⟩
      assumption
  | _ =>
    have hsome : text ≠ "" := type_ne_empty h (by simp) (by simp)
    exact ⟨fun htext => (hsome htext).elim, fun hsilent => by cases hsilent⟩

/-! ## Positions -/

variable (pair)

/-- Writes a part of a reflection in the document that is being read. -/
def emitPart : Part → Emission Unit
  | .declaration d => void (pair.emitDeclaration d)
  | .type t => pair.emitType t

/-- Writing the first part, in its document, writes the second one at a place of its own. -/
inductive Encloses : Schema × Part → Schema × Part → Prop
  | argument {s : Schema} {name : String} {arguments : List TypeNode} {t : TypeNode}
      (h : t ∈ arguments) : Encloses (s, .type (.reference name arguments)) (s, .type t)
  | element {s : Schema} (t : TypeNode) : Encloses (s, .type (.array t)) (s, .type t)
  | tupleElement {s : Schema} {elements : List TypeNode} {t : TypeNode} (h : t ∈ elements) :
    Encloses (s, .type (.tuple elements)) (s, .type t)
  /-- Literals alone are written as an enum, which has no payloads. -/
  | payload {s : Schema} {members : List TypeNode} {t : TypeNode}
      (mixed : ¬IsLiteralUnion members) (h : t ∈ withoutNull members) :
    Encloses (s, .type (.union members)) (s, .type t)
  | inline {s : Schema} (d : Declaration) : Encloses (s, .type (.reflection d)) (s, .declaration d)
  /-- The children of a member are written in the document that has the member. -/
  | inlined {s home : Schema} {members arguments : List TypeNode} {name : String}
      {d c : Declaration} (member : .reference name arguments ∈ members)
      (located : pair.locateMember s name = .ok (home, d)) (h : c ∈ d.children) :
    Encloses (s, .type (.intersection members)) (home, .declaration c)
  | fieldType {s : Schema} {d : Declaration} {t : TypeNode}
      (name : d.name ≠ Declaration.internalName) (kind : d.kind = .property)
      (type : d.type = some t) (shape : t.isLiteral = false) :
    Encloses (s, .declaration d) (s, .type t)
  | aliasType {s : Schema} {d : Declaration} {t : TypeNode}
      (name : d.name ≠ Declaration.internalName) (kind : d.kind = .typeAlias)
      (type : d.type = some t) (shape : ∀ inner, t ≠ .reflection inner)
      (free : (pair.document s).hasDataNamespace d.name = false) :
    Encloses (s, .declaration d) (s, .type t)
  | constantType {s : Schema} {d : Declaration} {t : TypeNode}
      (name : d.name ≠ Declaration.internalName) (kind : d.kind = .binding)
      (data : d.isCallable = false) (literal : d.literalType = none)
      (default : d.defaultValue = none) (type : d.type = some t) :
    Encloses (s, .declaration d) (s, .type t)
  | child {s : Schema} {d c : Declaration} (name : d.name ≠ Declaration.internalName)
      (kind : d.kind = .interface ∨ d.kind = .typeLiteral ∨ d.kind = .enumeration)
      (h : c ∈ d.children) : Encloses (s, .declaration d) (s, .declaration c)
  | member {s : Schema} {d c : Declaration} (name : d.name ≠ Declaration.internalName)
      (kind : d.kind = .nameSpace) (data : d.hasCallableChild = false)
      (numbers : d.children.any isNumericMember = false) (h : c ∈ d.children) :
    Encloses (s, .declaration d) (s, .declaration c)

variable {pair}

theorem framed_emitPart (p : Part) : (pair.emitPart p).Framed := by
  cases p with
  | declaration d => exact framed_void (pair.framed_emitDeclaration d)
  | type t => exact pair.framed_emitType t

theorem includes_child {c : Declaration} (h : c ∈ d.children) :
    Includes s (pair.parts d).children s (pair.emitPart (.declaration c)) :=
  includes_fields pair (framed_inliner pair pair.depth) h

/-- A declaration is written one level deeper as it is written alone. -/
theorem includes_deeper {depth : Nat} (hdepth : pair.depth = depth + 1) (c : Declaration)
    (s : Schema) :
    Includes s (void (declaration pair (inliner pair depth) c)) s
      (pair.emitPart (.declaration c)) where
  framed := framed_void (framed_declaration pair (framed_inliner pair depth) c)
  part _ text h := by
    have hframed := framed_declaration pair (framed_inliner pair depth) c
    obtain ⟨written, hwritten⟩ := (yields_void_iff hframed).1 h
    have hyields : (pair.emitPart (.declaration c)).Yields s () text :=
      (yields_void_iff (pair.framed_emitDeclaration c)).2
        ⟨written, yields_of_deeper hdepth hwritten⟩
    exact ⟨(), text, hyields, List.infix_rfl⟩

/-- The children of the declaration that a name leads to are written in its document. -/
theorem includes_inliner {depth : Nat} (hdepth : pair.depth = depth + 1) {home : Schema}
    {name : String} {d c : Declaration} (hlocated : pair.locateMember s name = .ok (home, d))
    (hc : c ∈ d.children) :
    Includes s (inliner pair (depth + 1) name) home (pair.emitPart (.declaration c)) := by
  have hinline := framed_inliner pair depth
  have hfields : ∀ found : Member,
      (within found.1 (fields pair (inliner pair depth) found.2)).Framed := fun found =>
    (framed_inOrder (framed_declarations pair hinline found.2.children)).within found.1
  have hchild := (includes_fields pair hinline hc).trans (includes_deeper hdepth c home)
  exact .reading_bind (fun _ => (framed_ofExcept _).bind hfields)
    (.ofExcept_bind hfields hlocated (hchild.within s))

theorem includes_inlined {home : Schema} {members arguments : List TypeNode} {name : String}
    {d c : Declaration} (hmember : .reference name arguments ∈ members)
    (hlocated : pair.locateMember s name = .ok (home, d)) (hc : c ∈ d.children) :
    Includes s (pair.emitType (.intersection members)) home (pair.emitPart (.declaration c)) := by
  obtain ⟨depth, hdepth⟩ : ∃ depth, pair.depth = depth + 1 := ⟨_, rfl⟩
  have hmembers := framed_intersectionMembers (framed_inliner pair (depth + 1)) members
  have hname := includes_inliner hdepth hlocated hc
  have hall := (includes_all hmembers (List.mem_map.2 ⟨_, hmember, rfl⟩) s).trans hname
  show Includes s (intersection (inliner pair pair.depth) members) home _
  rw [hdepth]
  exact .bind_right (framed_write _) fun _ => hall.bind_left fun _ => framed_write _

/-- What a part encloses is written in it. -/
theorem includes_of_encloses {a b : Schema × Part} (h : pair.Encloses a b) :
    Includes a.1 (pair.emitPart a.2) b.1 (pair.emitPart b.2) := by
  have hinline := framed_inliner pair pair.depth
  cases h with
  | argument h =>
    exact includes_reference _ (framed_types pair hinline _) (mem_types h)
  | element t => exact includes_array (pair.framed_emitType t)
  | tupleElement h =>
    exact includes_tuple (framed_types pair hinline _) (mem_types h)
  | payload mixed h =>
    rw [emitPart, emitType_union]
    exact includes_union pair.framed_emitType mixed h
  | inline d => exact .refl (framed_emitPart (.declaration d)) _
  | inlined member located h => exact includes_inlined member located h
  | @fieldType s d t name kind type shape =>
    have hrule := includes_property (s := s) (pair.framed_parts_type d) type shape
    rw [parts_type type] at hrule
    refine includes_void ?_
    rwa [emitDeclaration_eq_byKind, byKind, if_neg (by simpa using name), kind]
  | @aliasType s d t name kind type shape free =>
    have hrule := includes_typeAlias pair (pair.framed_parts_type d) type shape free
    rw [parts_type type] at hrule
    refine includes_void ?_
    rwa [emitDeclaration_eq_byKind, byKind, if_neg (by simpa using name), kind]
  | @constantType s d t name kind data literal default type =>
    have hrule := includes_binding (s := s) (pair.framed_parts_type d) data literal default type
    rw [parts_type type] at hrule
    refine includes_void ?_
    rwa [emitDeclaration_eq_byKind, byKind, if_neg (by simpa using name), kind]
  | @child s d c name kind h =>
    refine includes_void (Includes.trans ?_ (includes_child h))
    rw [emitDeclaration_eq_byKind, byKind, if_neg (by simpa using name)]
    obtain kind | kind | kind := kind
    · rw [kind]
      exact includes_interface (pair.framed_parts_children d)
    · rw [kind]
      exact includes_typeLiteral (pair.framed_parts_children d) (List.ne_nil_of_mem h)
    · rw [kind]
      exact includes_enumeration (pair.framed_parts_children d)
  | @member s d c name kind data numbers h =>
    refine includes_void (Includes.trans ?_ (includes_child h))
    rw [emitDeclaration_eq_byKind, byKind, if_neg (by simpa using name), kind]
    exact includes_namespaceDeclaration (pair.framed_parts_children d) data numbers

theorem includes_of_reaches {a b : Schema × Part} (h : Relation.ReflTransGen pair.Encloses a b) :
    Includes a.1 (pair.emitPart a.2) b.1 (pair.emitPart b.2) := by
  induction h with
  | refl => exact .refl (framed_emitPart a.2) a.1
  | tail _ hstep ih => exact ih.trans (includes_of_encloses hstep)

/-- A type literal in the place of a type is a struct, or a placeholder without members. -/
theorem yields_inline_literal (hkind : d.kind = .typeLiteral)
    (hname : d.name ≠ Declaration.internalName)
    (h : (pair.emitType (.reflection d)).Yields s () text) :
    (d.children = [] ∧ text = Zig.manualPlaceholder) ∨
      d.children ≠ [] ∧ ∃ body, text = "struct \x7b\n" ++ body ++ "\x7d" := by
  obtain ⟨written, hwritten⟩ := (yields_void_iff (pair.framed_emitDeclaration d)).1 h
  rw [emitDeclaration_eq_byKind, byKind, if_neg (by simpa using hname), hkind] at hwritten
  dsimp only at hwritten
  unfold typeLiteral at hwritten
  by_cases hnone : d.children = []
  · rw [if_pos (by simp [hnone]), yields_bind_pure_iff (framed_placeholder _ _),
      yields_placeholder_iff] at hwritten
    exact .inl ⟨hnone, hwritten.2⟩
  · rw [if_neg (by simp [hnone]),
      yields_enclosed_pure_iff (pair.framed_parts_children d)] at hwritten
    obtain ⟨-, body, -, rfl⟩ := hwritten
    exact .inr ⟨hnone, body, rfl⟩

/-- A type that succeeds is written as nothing if and only if it is an intrinsic type without a
name, or a declaration that is left out. The same holds of the type at every position that writing
a part comes to, at any depth and in either document: the type is written there as it is alone,
and an inline type literal is a struct or a placeholder. -/
theorem type_position_empty_iff (pair : Pair) (e : Emitter) :
    (∀ t, ((pair.emitType t).on e).1 = .ok () →
      ∃ text, ((pair.emitType t).on e).2.text = e.text ++ text ∧
        (text = "" ↔ pair.Silent e.schema t)) ∧
    ∀ p, ((pair.emitPart p).on e).1 = .ok () →
      ∃ text, ((pair.emitPart p).on e).2.text = e.text ++ text ∧
        ∀ s t, Relation.ReflTransGen pair.Encloses (e.schema, p) (s, .type t) →
          ∃ part, (pair.emitType t).Yields s () part ∧ part.toList <:+: text.toList ∧
            (part = "" ↔ pair.Silent s t) ∧
            ∀ d, t = .reflection d → d.kind = .typeLiteral → d.name ≠ Declaration.internalName →
              (d.children = [] ∧ part = Zig.manualPlaceholder) ∨
                d.children ≠ [] ∧ ∃ body, part = "struct \x7b\n" ++ body ++ "\x7d" := by
  constructor
  · intro t hok
    obtain ⟨text, htext, hyields⟩ := yields_of_ok (pair.framed_emitType t) hok
    exact ⟨text, htext, empty_type_iff hyields⟩
  · intro p hok
    obtain ⟨text, htext, hyields⟩ := yields_of_ok (framed_emitPart p) hok
    refine ⟨text, htext, fun s t hreach => ?_⟩
    obtain ⟨_, part, hpart, hinfix⟩ := (includes_of_reaches hreach).part () text hyields
    refine ⟨part, hpart, hinfix, empty_type_iff hpart, ?_⟩
    rintro d rfl hkind hname
    exact yields_inline_literal hkind hname hpart

/-- The argument of a field's type is a type literal without members, and is not left empty. -/
theorem type_position_empty_iff_argument :
    let literal : Declaration := { id := 2, name := "__type", kind := .typeLiteral }
    let type := TypeNode.reference "Set" [.reflection literal]
    let field : Declaration := { id := 1, name := "seen", kind := .property, type := some type }
    let pair : Pair := ⟨.ofRoot { id := 0, name := "t" }, .ofRoot { id := 0, name := "p" }⟩
    (∃ text, ((pair.emitType type).on (.fresh .types)).2.text = "" ++ text ∧ text ≠ "") ∧
      ∃ text, ((pair.emitPart (.declaration field)).on (.fresh .types)).2.text = "" ++ text ∧
        (pair.emitType (.reflection literal)).Yields .types () Zig.manualPlaceholder ∧
        Zig.manualPlaceholder.toList <:+: text.toList := by
  intro literal type field pair
  have hname : field.name ≠ Declaration.internalName := by decide
  have hfield : pair.Encloses (.types, .declaration field) (.types, .type type) :=
    .fieldType hname rfl rfl rfl
  have hargument : pair.Encloses (.types, .type type) (.types, .type (.reflection literal)) :=
    .argument List.mem_cons_self
  obtain ⟨htypes, hparts⟩ := type_position_empty_iff pair (.fresh .types)
  constructor
  · obtain ⟨text, htext, hempty⟩ := htypes type rfl
    refine ⟨text, htext, fun h => ?_⟩
    have hsilent : pair.Silent .types (.reference "Set" [.reflection literal]) := hempty.1 h
    cases hsilent
  · obtain ⟨text, htext, hpositions⟩ := hparts (.declaration field) rfl
    obtain ⟨part, hpart, hinfix, -, hliteral⟩ := hpositions .types (.reflection literal)
      ((Relation.ReflTransGen.single hfield).tail hargument)
    obtain ⟨-, rfl⟩ | ⟨hsome, -⟩ := hliteral literal rfl rfl (by decide)
    · exact ⟨text, htext, hpart, hinfix⟩
    · exact (hsome rfl).elim

/-- A declaration of a kind without a rule, one that is behaviour, and the internal container are
each written as nothing in the place of a type, and a field of the first has no type. No intrinsic
type is involved. -/
theorem left_out_type_empty :
    let accessor : Declaration := { id := 1, name := "size", kind := .other "Accessor" }
    let method : Declaration := { id := 1, name := "size", kind := .method }
    let internal : Declaration := { id := 1, name := "<internal>", kind := .typeLiteral }
    let field : Declaration :=
      { id := 2, name := "x", kind := .property, type := some (.reflection accessor) }
    let pair : Pair := ⟨.ofRoot { id := 0, name := "t" }, .ofRoot { id := 0, name := "p" }⟩
    (∀ d ∈ [accessor, method, internal],
      ((pair.emitType (.reflection d)).alone .types).result = .ok () ∧
        ((pair.emitType (.reflection d)).alone .types).text = "") ∧
      ((pair.emitDeclaration field).alone .types).result = .ok true ∧
      ((pair.emitDeclaration field).alone .types).text = "x: ,\n" := by
  intro accessor method internal field pair
  refine ⟨?_, rfl, by decide +kernel⟩
  simp only [List.forall_mem_cons]
  exact ⟨⟨rfl, rfl⟩, ⟨rfl, rfl⟩, ⟨rfl, rfl⟩, fun _ h => by cases h⟩

end Pair

end ZigReflect
