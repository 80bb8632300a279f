import Mathlib
import ZigReflect.Proofs.ChildOrder
import ZigReflect.Proofs.FirstWriter
import ZigReflect.Proofs.Inlining
import ZigReflect.Proofs.StepRelation
import ZigReflect.Proofs.WrittenText

/-!
# Intersections are flattened

The body of the struct for an intersection is made of what the children of its members
(`Pair.inlined`) are written as, each alone in the document that has the member (`Pair.texts`). A
member that is an interface has the same body when it is written itself, whichever documents the
intersections inside it lead to (`intersection_flattens`).

An intersection writes the children of its members one level deeper than they are written alone.
What a step writes does not depend on the depth once the step succeeds: `persists` relates a
step to another one that does the same unless the first runs out of depth, and all steps keep
this relation.

The internal container is never written itself, so a member of that name has a body only where
it is inlined (`internal_body_not_written`).
-/

namespace ZigReflect

open Lowering Emission

/-! ## More depth changes no answer -/

namespace Emission

variable {α : Type}

/-- Unless the first step runs out of depth, the second one does the same. -/
def Persists (s : Schema) (x y : Emission α) : Prop :=
  ∀ e, e.schema = s → (x.on e).2.schema = s ∧ ((x.on e).1 ≠ .error .endless → y.on e = x.on e)

theorem persists_of_framed {x : Emission α} (hx : x.Framed) (s : Schema) : x.Persists s x := by
  intro e he
  refine ⟨?_, fun _ => rfl⟩
  rw [hx e]
  exact he

theorem Persists.bind {β : Type} {s : Schema} {x y : Emission α} {f g : α → Emission β}
    (hxy : Persists s x y) (hfg : ∀ a, Persists s (f a) (g a)) :
    Persists s (x >>= f) (y >>= g) := by
  intro e he
  obtain ⟨hschema, hsame⟩ := hxy e he
  rw [on_bind, on_bind]
  rcases hx : x.on e with ⟨r | a, after⟩
  · rw [hx] at hschema hsame
    refine ⟨hschema, fun hr => ?_⟩
    rw [hsame fun h => hr (by rw [Except.error.inj h])]
  · rw [hx] at hschema hsame
    obtain ⟨hschema', hsame'⟩ := hfg a after hschema
    refine ⟨hschema', fun hr => ?_⟩
    rw [hsame (by simp)]
    exact hsame' hr

theorem Persists.reading_bind {β : Type} {s : Schema} {f g : Schema → Emission β}
    (hfg : Persists s (f s) (g s)) : Persists s (reading >>= f) (reading >>= g) := by
  intro e he
  subst he
  exact hfg e rfl

theorem Persists.within {x y : Emission α} {home : Schema} (hxy : Persists home x y) (s : Schema) :
    Persists s (within home x) (within home y) := by
  intro e he
  refine ⟨he, fun hr => ?_⟩
  rw [on_within, on_within, (hxy { e with schema := home } rfl).2 hr]

/-- Doing the same unless depth runs out is a relation that all steps keep. -/
def persists : StepRelation where
  rel s x y := Persists s x y
  rel_pure s a := persists_of_framed (framed_pure a) s
  rel_write s text := persists_of_framed (framed_write text) s
  rel_note s n := persists_of_framed (framed_note n) s
  rel_bind := Persists.bind
  rel_reading := Persists.reading_bind

/-- A success stays the same. -/
theorem Persists.yields {s : Schema} {x y : Emission α} (hxy : Persists s x y) {a : α}
    {text : String} (h : x.Yields s a text) : y.Yields s a text := by
  have hsame : y.on (.fresh s) = x.on (.fresh s) := (hxy (.fresh s) rfl).2 fun hr => by
    have hresult : (x.on (.fresh s)).1 = .ok a := h.result
    rw [hr] at hresult
    cases hresult
  have halone : y.alone s = x.alone s := by
    rw [alone, alone, hsame]
  exact ⟨halone ▸ h.result, halone ▸ h.text⟩

end Emission

namespace Lowering

variable {pair : Pair} {s : Schema}

theorem covers_persists {inline inline' : Inliner}
    (h : ∀ (s : Schema) name, Persists s (inline name) (inline' name)) (s : Schema) (p : Part) :
    persists.Covers pair inline inline' s p where
  target d _ _ := persists_of_framed (framed_referenceDeclaration pair d) s
  member _ _ name _ _ := h s name

theorem persists_inliner (pair : Pair) : ∀ (depth : Nat) (s : Schema) (name : String),
    Persists s (inliner pair depth name) (inliner pair (depth + 1) name)
  | 0, _, _ => fun _ he => ⟨he, fun hr => (hr rfl).elim⟩
  | depth + 1, s, name => by
    refine .reading_bind (.bind (persists_of_framed (framed_ofExcept _) s) fun m => ?_)
    exact .within (StepRelation.rel_fields fun c _ =>
      covers_persists (persists_inliner pair depth) m.1 _) s

/-- A declaration that is written one level deeper is written alike. -/
theorem yields_of_deeper {depth : Nat} (hdepth : pair.depth = depth + 1) {d : Declaration}
    {written : Bool} {text : String}
    (h : (declaration pair (inliner pair depth) d).Yields s written text) :
    (pair.emitDeclaration d).Yields s written text := by
  have hpersists : Persists s (declaration pair (inliner pair depth) d)
      (declaration pair (inliner pair (depth + 1)) d) :=
    (covers_persists (persists_inliner pair depth) s (.declaration d)).rel_declaration
  rw [Pair.emitDeclaration, hdepth]
  exact hpersists.yields h

/-! ## What the rules write -/

variable {text : String}

theorem yields_void_iff {x : Emission Bool} (hx : x.Framed) :
    (void x).Yields s () text ↔ ∃ written, x.Yields s written text := by
  unfold void
  rw [yields_bind_iff hx fun _ => framed_pure ()]
  constructor
  · rintro ⟨written, first, rest, hfirst, hrest, rfl⟩
    rw [(yields_pure_iff.1 hrest).2, String.append_empty]
    exact ⟨written, hfirst⟩
  · rintro ⟨written, hwritten⟩
    exact ⟨written, text, "", hwritten, yields_pure_iff.2 ⟨rfl, rfl⟩, String.append_empty.symm⟩

/-- The fields of a declaration are its children in the order of their ids. -/
theorem fields_eq_all (pair : Pair) (inline : Inliner) (d : Declaration) :
    fields pair inline d =
      all (d.sortedChildren.map fun c => void (declaration pair inline c)) := by
  unfold fields inOrder Declaration.sortedChildren
  have hsorted : (d.children.mergeSort fun a b => a.id ≤ b.id).map
        (fun c => (c.id, declaration pair inline c)) =
      (d.children.map fun c => (c.id, declaration pair inline c)).mergeSort
        fun a b => a.1 ≤ b.1 :=
    List.map_mergeSort fun _ _ _ _ => rfl
  rw [declarations_eq_map, ← hsorted, List.map_map]
  rfl

theorem framed_sortedChildren (pair : Pair) {inline : Inliner}
    (hi : ∀ name, (inline name).Framed) (d : Declaration) :
    ∀ x ∈ d.sortedChildren.map fun c => void (declaration pair inline c), x.Framed := by
  intro x hx
  obtain ⟨c, -, rfl⟩ := List.mem_map.1 hx
  exact framed_void (framed_declaration pair hi c)

theorem yields_fields_iff {inline : Inliner} (hi : ∀ name, (inline name).Framed)
    {d : Declaration} :
    (fields pair inline d).Yields s () text ↔
      ∃ texts, List.Forall₂ (fun c t => ∃ written, (declaration pair inline c).Yields s written t)
        d.sortedChildren texts ∧ text = String.join texts := by
  rw [fields_eq_all, yields_all_iff (framed_sortedChildren pair hi d)]
  simp only [List.forall₂_map_left_iff, yields_void_iff (framed_declaration pair hi _)]

theorem yields_inliner_iff {depth : Nat} {name : String} :
    (inliner pair (depth + 1) name).Yields s () text ↔
      ∃ m, pair.locateMember s name = .ok m ∧
        (fields pair (inliner pair depth) m.2).Yields m.1 () text := by
  rw [inliner, yields_reading_bind_iff, yields_ofExcept_bind_iff]
  exact exists_congr fun m => and_congr_right fun _ => yields_within_iff

theorem yields_intersection_iff {inline : Inliner} (hi : ∀ name, (inline name).Framed)
    {members : List TypeNode} :
    (intersection inline members).Yields s () text ↔
      ∃ texts, List.Forall₂ (fun t u => (intersectionMember inline t).Yields s () u)
        members texts ∧ text = "struct \x7b\n" ++ String.join texts ++ "\x7d" := by
  have hframed := framed_intersectionMembers hi members
  unfold intersection
  rw [yields_enclosed_iff (framed_all hframed)]
  simp only [yields_all_iff hframed, List.forall₂_map_left_iff]
  constructor
  · rintro ⟨_, ⟨texts, htexts, rfl⟩, rfl⟩
    exact ⟨texts, htexts, rfl⟩
  · rintro ⟨texts, htexts, rfl⟩
    exact ⟨_, ⟨texts, htexts, rfl⟩, rfl⟩

/-- The comment of a declaration, empty if there is none. -/
def comment (d : Declaration) : String :=
  (d.doc.map docText).getD ""

theorem on_doc (d : Declaration) (e : Emitter) :
    (doc d).on e = (.ok (), { e with text := e.text ++ comment d }) := by
  unfold doc comment
  cases d.doc with
  | none => simp
  | some blurb => rfl

/-- The comment of a declaration comes first. -/
theorem yields_doc_bind_iff {β : Type} {d : Declaration} {x : Emission β} (hx : x.Framed) {b : β} :
    (doc d >>= fun _ => x).Yields s b text ↔
      ∃ rest, x.Yields s b rest ∧ text = comment d ++ rest := by
  unfold doc comment
  cases d.doc with
  | none =>
    rw [pure_bind]
    simp
  | some blurb => exact yields_write_bind_iff hx

/-- A comment, a line, and the answer that they were written. -/
theorem yields_doc_write_iff {d : Declaration} {line : String} {written : Bool} :
    (do doc d; write line; return true : Emission Bool).Yields s written text ↔
      written = true ∧ text = comment d ++ line := by
  rw [yields_doc_bind_iff ((framed_write line).bind fun _ => framed_pure true)]
  simp only [yields_bind_pure_iff (framed_write line), yields_write_iff]
  constructor
  · rintro ⟨_, ⟨rfl, rfl⟩, rfl⟩
    exact ⟨rfl, rfl⟩
  · rintro ⟨rfl, rfl⟩
    exact ⟨_, ⟨rfl, rfl⟩, rfl⟩

/-- A comment, a part between two texts, and the answer that they were written. -/
theorem yields_documented_iff {d : Declaration} {x : Emission Unit} (hx : x.Framed)
    {opening closing : String} {written : Bool} :
    (do doc d; write opening; x; write closing; return true : Emission Bool).Yields s written
        text ↔
      ∃ inner, x.Yields s () inner ∧ written = true ∧
        text = comment d ++ (opening ++ inner ++ closing) := by
  have hbody : (do write opening; x; write closing; return true : Emission Bool).Framed :=
    (framed_write opening).bind fun _ => hx.bind fun _ => (framed_write closing).bind fun _ =>
      framed_pure true
  rw [yields_doc_bind_iff hbody]
  simp only [yields_enclosed_pure_iff hx]
  constructor
  · rintro ⟨_, ⟨rfl, inner, hinner, rfl⟩, rfl⟩
    exact ⟨inner, hinner, rfl, rfl⟩
  · rintro ⟨inner, hinner, rfl, rfl⟩
    exact ⟨_, ⟨rfl, inner, hinner, rfl⟩, rfl⟩

end Lowering

namespace Pair

variable {pair : Pair} {d : Declaration}

/-- How the parts of a declaration are written. -/
def parts (pair : Pair) (d : Declaration) : Parts where
  type := optionalType pair (inliner pair pair.depth) d.type
  children := fields pair (inliner pair pair.depth) d

theorem emitDeclaration_eq_byKind : pair.emitDeclaration d = byKind pair d (pair.parts d) := by
  rw [emitDeclaration, declaration_eq]
  rfl

theorem framed_parts_type (pair : Pair) (d : Declaration) : (pair.parts d).type.Framed :=
  framed_optionalType pair (framed_inliner pair pair.depth) d.type

theorem framed_parts_children (pair : Pair) (d : Declaration) : (pair.parts d).children.Framed :=
  framed_inOrder (framed_declarations pair (framed_inliner pair pair.depth) d.children)

theorem parts_type {t : TypeNode} (h : d.type = some t) :
    (pair.parts d).type = pair.emitType t := by
  rw [parts, h]
  rfl

end Pair

namespace Lowering

variable {pair : Pair} {s : Schema} {text : String}

/-- A declaration that is an interface without parameters, and is not the internal container, is
its comment and a struct around its fields. -/
theorem yields_interface_iff {d : Declaration} (hkind : d.kind = .interface)
    (hparameters : d.typeParameters = []) (hname : d.name ≠ Declaration.internalName)
    {written : Bool} :
    (pair.emitDeclaration d).Yields s written text ↔
      ∃ body, (fields pair (inliner pair pair.depth) d).Yields s () body ∧ written = true ∧
        text = comment d ++ (constHead d ++ "struct \x7b\n" ++ body ++ "\x7d;\n") := by
  rw [Pair.emitDeclaration_eq_byKind, byKind, if_neg (by simpa using hname), hkind]
  dsimp only
  rw [interface]
  simp only [hparameters, List.isEmpty_nil, if_true]
  exact yields_documented_iff (pair.framed_parts_children d)

end Lowering

namespace Pair

variable (pair : Pair)

/-- The declarations that a member puts into the body of an intersection, each with its document:
the children of the declaration that a reference names, in the order of their ids. -/
def inlined (s : Schema) : TypeNode → List Visit
  | .reference name _ =>
    match pair.locateMember s name with
    | .ok m => m.2.sortedChildren.map (m.1, ·)
    | .error _ => []
  | _ => []

/-- What declarations are written as, each alone, in a row. -/
def texts (vs : List Visit) : String :=
  String.join (vs.map fun v => (pair.standalone v).text)

variable {pair} {s : Schema} {text : String}

theorem inlined_reference {name : String} (arguments : List TypeNode) {m : Member}
    (h : pair.locateMember s name = .ok m) :
    pair.inlined s (.reference name arguments) = m.2.sortedChildren.map (m.1, ·) := by
  rw [inlined, h]

/-- What each of a list of declarations is written as in a document. -/
theorem texts_of_forall₂ {cs : List Declaration} {ts : List String}
    (h : List.Forall₂ (fun c t => ∃ written, (pair.emitDeclaration c).Yields s written t) cs ts) :
    pair.texts (cs.map (s, ·)) = String.join ts := by
  have hts : cs.map (fun c => (pair.standalone (s, c)).text) = ts := by
    rw [← List.forall₂_eq_eq_eq, List.forall₂_map_left_iff]
    refine h.imp fun c t hct => ?_
    obtain ⟨written, hwritten⟩ := hct
    exact hwritten.text
  rw [texts, List.map_map]
  exact congrArg String.join hts

/-- What the fields of a member are written as one level deeper, its children are written as
alone. -/
theorem yields_of_inliner {name : String}
    (h : (inliner pair pair.depth name).Yields s () text) :
    ∃ m, pair.locateMember s name = .ok m ∧
      ∃ ts, List.Forall₂ (fun c t => ∃ written, (pair.emitDeclaration c).Yields m.1 written t)
        m.2.sortedChildren ts ∧ text = String.join ts := by
  have hdepth : pair.depth = pair.types.names.size + pair.protocol.names.size + 1 := rfl
  rw [hdepth, yields_inliner_iff] at h
  obtain ⟨m, hm, hfields⟩ := h
  obtain ⟨ts, hts, rfl⟩ := (yields_fields_iff (framed_inliner pair _)).1 hfields
  refine ⟨m, hm, ts, hts.imp fun c t hct => ?_, rfl⟩
  obtain ⟨written, hwritten⟩ := hct
  exact ⟨written, yields_of_deeper hdepth hwritten⟩

/-- A member of an intersection adds what its children are written as alone, and all of them
succeed. -/
theorem text_of_intersectionMember {t : TypeNode}
    (h : (intersectionMember (inliner pair pair.depth) t).Yields s () text) :
    text = pair.texts (pair.inlined s t) ∧
      ∀ v ∈ pair.inlined s t, ∃ written, (pair.standalone v).result = .ok written := by
  unfold intersectionMember at h
  split at h
  · next name arguments =>
    obtain ⟨m, hm, ts, hts, rfl⟩ := yields_of_inliner h
    rw [inlined_reference arguments hm]
    refine ⟨(texts_of_forall₂ hts).symm, fun v hv => ?_⟩
    obtain ⟨c, hc, rfl⟩ := List.mem_map.1 hv
    obtain ⟨t, written, ht⟩ := exists_of_forall₂ hts c hc
    exact ⟨written, ht.result⟩
  · next hother =>
    rw [yields_reading_bind_iff, yields_note_iff] at h
    cases t with
    | reference name arguments => exact (hother name arguments rfl).elim
    | _ => exact ⟨h, by simp [inlined]⟩

/-- An intersection is a struct around what its members add. -/
theorem text_of_intersection {members : List TypeNode}
    (h : (pair.emitType (.intersection members)).Yields s () text) :
    text = "struct \x7b\n" ++ String.join (members.map fun t => pair.texts (pair.inlined s t)) ++
        "\x7d" ∧
      ∀ t ∈ members, ∀ v ∈ pair.inlined s t,
        ∃ written, (pair.standalone v).result = .ok written := by
  obtain ⟨ts, hts, rfl⟩ := (yields_intersection_iff (framed_inliner pair pair.depth)).1 h
  have hmembers := hts.imp fun t u htu => text_of_intersectionMember htu
  constructor
  · have hmap : members.map (fun t => pair.texts (pair.inlined s t)) = ts := by
      rw [← List.forall₂_eq_eq_eq, List.forall₂_map_left_iff]
      exact hmembers.imp fun t u htu => htu.1.symm
    rw [hmap]
  · intro t ht
    obtain ⟨u, -, hu⟩ := exists_of_forall₂ hmembers t ht
    exact hu

/-- The references of an intersection that succeeds name declarations. -/
theorem located_of_intersection {members : List TypeNode}
    (h : (pair.emitType (.intersection members)).Yields s () text) {name : String}
    {arguments : List TypeNode} (hmem : .reference name arguments ∈ members) :
    ∃ m, pair.locateMember s name = .ok m := by
  obtain ⟨ts, hts, rfl⟩ := (yields_intersection_iff (framed_inliner pair pair.depth)).1 h
  obtain ⟨u, hu⟩ := exists_of_forall₂ hts _ hmem
  obtain ⟨m, hm, -⟩ := yields_of_inliner hu
  exact ⟨m, hm⟩

/-- The fields of a declaration are its children as they are alone. -/
theorem yields_fields_of_standalone {d : Declaration}
    (h : ∀ c ∈ d.sortedChildren, ∃ written, (pair.standalone (s, c)).result = .ok written) :
    (fields pair (inliner pair pair.depth) d).Yields s ()
      (pair.texts (d.sortedChildren.map (s, ·))) := by
  refine (yields_fields_iff (framed_inliner pair pair.depth)).2
    ⟨d.sortedChildren.map fun c => (pair.standalone (s, c)).text, ?_, ?_⟩
  · rw [List.forall₂_map_right_iff, List.forall₂_same]
    intro c hc
    obtain ⟨written, hwritten⟩ := h c hc
    exact ⟨written, hwritten, rfl⟩
  · rw [texts, List.map_map]
    rfl

end Pair

open Pair

/-- A successful intersection is a struct around what its members add, in their order: each
reference the children of the declaration it names, written as they are alone in the document of
that declaration, and other members nothing. If that declaration is an interface without
parameters, and not the internal container, this is the body that the interface has when it is
written itself. -/
theorem intersection_flattens (pair : Pair) (e : Emitter) (members : List TypeNode)
    (h : ((pair.emitType (.intersection members)).on e).1 = .ok ()) :
    ((pair.emitType (.intersection members)).on e).2.text = e.text ++ ("struct \x7b\n" ++
      String.join (members.map fun t => pair.texts (pair.inlined e.schema t)) ++ "\x7d") ∧
    ∀ name arguments, .reference name arguments ∈ members →
      ∃ home d, pair.locateMember e.schema name = .ok (home, d) ∧
        (∀ c ∈ d.children, ∃ written, (pair.standalone (home, c)).result = .ok written) ∧
        (d.kind = .interface → d.typeParameters = [] → d.name ≠ Declaration.internalName →
          (pair.standalone (home, d)).result = .ok true ∧
          (pair.standalone (home, d)).text = comment d ++ (constHead d ++ "struct \x7b\n" ++
            pair.texts (pair.inlined e.schema (.reference name arguments)) ++ "\x7d;\n")) := by
  obtain ⟨text, htext, hyields⟩ := yields_of_ok (pair.framed_emitType _) h
  obtain ⟨hstruct, hresults⟩ := text_of_intersection hyields
  refine ⟨by rw [htext, hstruct], fun name arguments hmem => ?_⟩
  obtain ⟨⟨home, d⟩, hlocated⟩ := located_of_intersection hyields hmem
  have hchildren : ∀ c ∈ d.sortedChildren,
      ∃ written, (pair.standalone (home, c)).result = .ok written := fun c hc =>
    hresults _ hmem (home, c) <| by
      rw [inlined_reference arguments hlocated]
      exact List.mem_map.2 ⟨c, hc, rfl⟩
  refine ⟨home, d, hlocated, fun c hc => hchildren c (List.mem_mergeSort.2 hc), ?_⟩
  intro hkind hparameters hname
  rw [inlined_reference arguments hlocated]
  have hwritten := (yields_interface_iff hkind hparameters hname).2
    ⟨_, yields_fields_of_standalone hchildren, rfl, rfl⟩
  exact ⟨hwritten.result, hwritten.text⟩

/-- Interfaces of the two documents by turns, each with a field that is an intersection over the
next one. -/
theorem intersection_flattens_by_turns :
    let field (id : Nat) (name : String) (t : TypeNode) : Declaration :=
      { id, name, kind := .property, type := some t }
    let interface (id : Nat) (name : String) (child : Declaration) : Declaration :=
      { id, name, kind := .interface, children := [child] }
    let a := interface 1 "A" (field 2 "a" (.intersection [.reference "B" []]))
    let b := interface 1 "B" (field 2 "b" (.intersection [.reference "C" []]))
    let c := interface 3 "C" (field 4 "c" (.intrinsic "string"))
    let pair : Pair := ⟨.ofRoot { id := 0, name := "types", children := [a, c] },
      .ofRoot { id := 0, name := "protocol", children := [b] }⟩
    let body := "a: struct \x7b\nb: struct \x7b\nc: []const u8,\n\x7d,\n\x7d,\n"
    ((pair.emitType (.intersection [.reference "A" [], .intrinsic "string"])).on
        (.fresh .protocol)).2.text = "struct \x7b\n" ++ body ++ "\x7d" ∧
      (pair.standalone (.types, a)).text = "pub const A = struct \x7b\n" ++ body ++ "\x7d;\n" := by
  intro field interface a b c pair body
  have hok : ((pair.emitType (.intersection [.reference "A" [], .intrinsic "string"])).on
      (.fresh .protocol)).1 = .ok () := by
    cbv
  have hlocated : pair.locateMember .protocol "A" = .ok (.types, a) := by
    cbv
  have hbody : pair.texts (pair.inlined .protocol (.reference "A" [])) = body := by
    cbv
  have hother : pair.texts (pair.inlined .protocol (.intrinsic "string")) = "" := rfl
  have hhead : comment a ++ constHead a = "pub const A = " := by
    cbv
  obtain ⟨htext, hmembers⟩ := intersection_flattens pair (.fresh .protocol) _ hok
  obtain ⟨home, d, hd, -, hinterface⟩ := hmembers "A" [] (by simp)
  obtain ⟨rfl, rfl⟩ := Prod.mk.inj (Except.ok.inj (hd.symm.trans hlocated))
  obtain ⟨-, hwritten⟩ := hinterface rfl rfl (by decide)
  constructor
  · rw [htext]
    simp [Emitter.fresh, hbody, hother]
  · rw [hwritten, ← String.append_assoc, ← String.append_assoc, ← String.append_assoc, hhead]
    simp only [Emitter.fresh, hbody]
    rfl

/-- An interface with the name of the internal container is inlined, but not written itself: the
body that it has in an intersection is nowhere in what it is written as. -/
theorem internal_body_not_written :
    let field : Declaration :=
      { id := 2, name := "x", kind := .property, type := some (.intrinsic "string") }
    let container : Declaration :=
      { id := 1, name := "<internal>", kind := .interface, children := [field] }
    let pair : Pair := ⟨.ofRoot { id := 0, name := "types" },
      .ofRoot { id := 0, name := "protocol", children := [container] }⟩
    let inlined := (pair.emitType (.intersection [.reference "<internal>" []])).alone .protocol
    let written := pair.standalone (.protocol, container)
    pair.locateMember .protocol "<internal>" = .ok (.protocol, container) ∧
      container.kind = .interface ∧ container.typeParameters = [] ∧
      inlined.result = .ok () ∧
      inlined.text = "struct \x7b\n" ++ "x: []const u8,\n" ++ "\x7d" ∧
      written.result = .ok false ∧
      ∀ head, written.text ≠ head ++ ("struct \x7b\n" ++ "x: []const u8,\n" ++ "\x7d;\n") := by
  intro field container pair inlined written
  have hlocated : pair.locateMember .protocol "<internal>" = .ok (.protocol, container) := by
    cbv
  have hresult : inlined.result = .ok () := by
    cbv
  have htext : inlined.text = "struct \x7b\n" ++ "x: []const u8,\n" ++ "\x7d" := by
    cbv
  have hwritten : written.text = "" := rfl
  refine ⟨hlocated, rfl, rfl, hresult, htext, rfl, fun head h => ?_⟩
  rw [hwritten] at h
  simpa using congrArg String.toList h

end ZigReflect
