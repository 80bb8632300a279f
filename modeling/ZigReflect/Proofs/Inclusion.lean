import ZigReflect.Proofs.Flattening
import ZigReflect.Proofs.UnionMembers

/-!
# What is written inside

One step includes another one if it cannot succeed without it: whenever the first succeeds, so
does the second in its document, and the text of the first holds that of the second (`Includes`).
Inclusion is transitive, and a step that is put together includes what its parts include. So each
rule includes the parts that it writes.
-/

namespace ZigReflect

namespace Emission

variable {α β γ : Type} {s s' s'' : Schema}

/-- The first step is framed, and whenever it succeeds, so does the second one in its document, and
the text of the first holds that of the second. -/
structure Includes (s : Schema) (x : Emission α) (s' : Schema) (y : Emission β) : Prop where
  framed : x.Framed
  part : ∀ a text, x.Yields s a text → ∃ b part, y.Yields s' b part ∧ part.toList <:+: text.toList

/-- A framed emission includes itself. -/
theorem Includes.refl {x : Emission α} (hx : x.Framed) (s : Schema) : Includes s x s x :=
  ⟨hx, fun a text h => ⟨a, text, h, List.infix_rfl⟩⟩

/-- What is included in an included emission is included. -/
theorem Includes.trans {x : Emission α} {y : Emission β} {z : Emission γ}
    (h : Includes s x s' y) (h' : Includes s' y s'' z) : Includes s x s'' z where
  framed := h.framed
  part a text hx := by
    obtain ⟨b, middle, hy, hmiddle⟩ := h.part a text hx
    obtain ⟨c, part, hz, hpart⟩ := h'.part b middle hy
    exact ⟨c, part, hz, hpart.trans hmiddle⟩

/-- What the first step includes is included: the second one adds behind it. -/
theorem Includes.bind_left {x : Emission α} {y : Emission β} {f : α → Emission γ}
    (h : Includes s x s' y) (hf : ∀ a, (f a).Framed) : Includes s (x >>= f) s' y where
  framed := h.framed.bind hf
  part c text hbind := by
    obtain ⟨a, first, rest, hx, -, rfl⟩ := (yields_bind_iff h.framed hf).1 hbind
    obtain ⟨b, part, hy, hpart⟩ := h.part a first hx
    rw [String.toList_append]
    exact ⟨b, part, hy, List.infix_append_of_infix_left hpart⟩

/-- What the second step includes is included: the first one adds before it. -/
theorem Includes.bind_right {x : Emission α} {y : Emission β} {f : α → Emission γ}
    (hx : x.Framed) (h : ∀ a, Includes s (f a) s' y) : Includes s (x >>= f) s' y where
  framed := hx.bind fun a => (h a).framed
  part c text hbind := by
    obtain ⟨a, first, rest, -, hrest, rfl⟩ :=
      (yields_bind_iff hx fun a => (h a).framed).1 hbind
    obtain ⟨b, part, hy, hpart⟩ := (h a).part c rest hrest
    rw [String.toList_append]
    exact ⟨b, part, hy, List.infix_append_of_infix_right hpart⟩

/-- Only what follows in the document that is read matters. -/
theorem Includes.reading_bind {y : Emission β} {f : Schema → Emission γ}
    (hf : ∀ s, (f s).Framed) (h : Includes s (f s) s' y) : Includes s (reading >>= f) s' y where
  framed := framed_reading.bind hf
  part c text hbind := h.part c text (yields_reading_bind_iff.1 hbind)

theorem Includes.ofExcept_bind {r : Except Failure α} {y : Emission β} {f : α → Emission γ}
    (hf : ∀ a, (f a).Framed) {a : α} (hr : r = .ok a) (h : Includes s (f a) s' y) :
    Includes s (ofExcept r >>= f) s' y where
  framed := (framed_ofExcept r).bind hf
  part c text hbind := by
    obtain ⟨a', hr', hfound⟩ := yields_ofExcept_bind_iff.1 hbind
    obtain rfl : a = a' := Except.ok.inj (hr.symm.trans hr')
    exact h.part c text hfound

/-- A step into another document includes what is written there. -/
theorem Includes.within {x : Emission α} {y : Emission β} {home : Schema}
    (h : Includes home x s' y) (s : Schema) : Includes s (within home x) s' y where
  framed := h.framed.within home
  part a text hx := h.part a text (yields_within_iff.1 hx)

/-- A step between two texts. -/
theorem includes_enclosed {x : Emission Unit} (hx : x.Framed) (s : Schema)
    (opening closing : String) (a : α) :
    Includes s (do write opening; x; write closing; return a : Emission α) s x :=
  .bind_right (framed_write opening) fun _ => (Includes.refl hx s).bind_left fun _ =>
    (framed_write closing).bind fun _ => framed_pure a

/-- Emissions in a row include each of them. -/
theorem includes_all {xs : List (Emission Unit)} (hxs : ∀ x ∈ xs, x.Framed) {x : Emission Unit}
    (hx : x ∈ xs) (s : Schema) : Includes s (all xs) s x where
  framed := framed_all hxs
  part _ text h := by
    obtain ⟨texts, htexts, rfl⟩ := (yields_all_iff hxs).1 h
    obtain ⟨part, hpart, hyields⟩ := exists_mem_of_forall₂ htexts x hx
    refine ⟨(), part, hyields, ?_⟩
    rw [String.toList_join, List.flatMap_def]
    exact List.infix_of_mem_flatten (List.mem_map.2 ⟨part, hpart, rfl⟩)

/-- Each part stands in the text that is put together. -/
theorem infix_intercalate {separator part : String} : ∀ {parts : List String}, part ∈ parts →
    part.toList <:+: (separator.intercalate parts).toList
  | [first], h => by
    obtain rfl := List.mem_singleton.1 h
    simp
  | first :: second :: rest, h => by
    rw [String.intercalate_cons_of_ne_nil (by simp), String.toList_append, String.toList_append]
    rcases List.mem_cons.1 h with rfl | h
    · rw [List.append_assoc]
      exact List.infix_append_of_infix_left List.infix_rfl
    · exact List.infix_append_of_infix_right (infix_intercalate h)

/-- Emissions with a text between them include each of them. -/
theorem includes_separated (separator : String) {xs : List (Emission Unit)}
    (hxs : ∀ x ∈ xs, x.Framed) {x : Emission Unit} (hx : x ∈ xs) (s : Schema) :
    Includes s (separated separator xs) s x where
  framed := framed_separated separator hxs
  part _ text h := by
    obtain ⟨texts, htexts, rfl⟩ := (yields_separated_iff hxs).1 h
    obtain ⟨part, hpart, hyields⟩ := exists_mem_of_forall₂ htexts x hx
    exact ⟨(), part, hyields, infix_intercalate hpart⟩

end Emission

namespace Lowering

open Emission

variable {s : Schema} {d : Declaration} {parts : Parts}

/-! ## What the rules include -/

theorem includes_void {β : Type} {x : Emission Bool} {y : Emission β} {s' : Schema}
    (h : Includes s x s' y) : Includes s (void x) s' y :=
  h.bind_left fun _ => framed_pure ()

/-- The emissions of types are those of each of them. -/
theorem mem_types {pair : Pair} {inline : Inliner} {t : TypeNode} {ts : List TypeNode}
    (h : t ∈ ts) : type pair inline t ∈ types pair inline ts := by
  rw [types_eq_map]
  exact List.mem_map.2 ⟨t, h, rfl⟩

/-- A reference holds each of its arguments. -/
theorem includes_reference (name : String) {arguments : List (Emission Unit)}
    (h : ∀ x ∈ arguments, x.Framed) {x : Emission Unit} (hx : x ∈ arguments) :
    Includes s (reference name arguments) s x := by
  have hsome : arguments.isEmpty = false := by
    cases arguments with
    | nil => cases hx
    | cons => rfl
  unfold reference
  rw [hsome]
  exact .bind_right (framed_write _) fun _ => .bind_right (framed_write _) fun _ =>
    (includes_separated ", " h hx s).bind_left fun _ => framed_write _

theorem includes_array {element : Emission Unit} (h : element.Framed) :
    Includes s (array element) s element :=
  .bind_right (framed_write _) fun _ => .refl h s

/-- A tuple holds each of its elements. -/
theorem includes_tuple {elements : List (Emission Unit)} (h : ∀ x ∈ elements, x.Framed)
    {x : Emission Unit} (hx : x ∈ elements) : Includes s (tuple elements) s x :=
  .bind_right (framed_write _) fun _ => (includes_separated ", " h hx s).bind_left fun _ =>
    framed_write _

/-- A tagged union holds the payload of each of its cases, behind the label. -/
theorem includes_taggedUnion {x : TypeNode → Emission Unit} (hx : ∀ t, (x t).Framed)
    {types : List TypeNode} {t : TypeNode} (ht : t ∈ types) :
    Includes s (taggedUnion (withEmissions x types)) s (x t) := by
  rw [taggedUnion_withEmissions]
  obtain ⟨i, hi, rfl⟩ := List.mem_iff_getElem.1 ht
  have hname : i < (caseNames types).length := by rwa [length_caseNames]
  have hmem : unionCase (caseNames types)[i] (x types[i]) ∈
      (caseNames types).zipWith unionCase (types.map x) :=
    List.mem_iff_getElem.2 ⟨i, by simpa using ⟨hname, hi⟩, by simp⟩
  have hcase : Includes s (unionCase (caseNames types)[i] (x types[i])) s (x types[i]) :=
    .bind_right (framed_write _) fun _ => .bind_right (framed_write _) fun _ => .refl (hx _) s
  have hcases := (includes_separated ", " (framed_cases hx types) hmem s).trans hcase
  exact .bind_right (framed_write _) fun _ => hcases.bind_left fun _ => framed_write _

/-- Every member of a union but null is a payload, unless the union has literals alone. -/
theorem includes_union {x : TypeNode → Emission Unit} (hx : ∀ t, (x t).Framed)
    {members : List TypeNode} (hmixed : ¬IsLiteralUnion members) {t : TypeNode}
    (ht : t ∈ withoutNull members) : Includes s (union (withEmissions x members)) s (x t) := by
  have htagged := includes_taggedUnion (s := s) hx ht
  rw [union_of_mixed x hmixed, ← withoutNull]
  dsimp only
  split
  · refine .bind_right (framed_write _) fun _ => ?_
    cases hmembers : withoutNull members with
    | nil =>
      rw [hmembers] at ht
      cases ht
    | cons first rest =>
      rw [hmembers] at ht htagged
      cases rest with
      | nil =>
        obtain rfl := List.mem_singleton.1 ht
        exact .refl (hx t) s
      | cons second rest => exact htagged
  · exact htagged

/-- The fields of a declaration hold each of its children. -/
theorem includes_fields (pair : Pair) {inline : Inliner} (hi : ∀ name, (inline name).Framed)
    {c : Declaration} (hc : c ∈ d.children) :
    Includes s (fields pair inline d) s (void (declaration pair inline c)) := by
  rw [fields_eq_all]
  exact includes_all (framed_sortedChildren pair hi d)
    (List.mem_map.2 ⟨c, List.mem_mergeSort.2 hc, rfl⟩) s

/-- A field that is not a constant. -/
theorem includes_property (h : parts.type.Framed) {t : TypeNode} (htype : d.type = some t)
    (hshape : t.isLiteral = false) : Includes s (property d parts) s parts.type := by
  unfold property
  rw [htype]
  cases t with
  | literal value => cases hshape
  | _ =>
    refine .bind_right (framed_doc d) fun _ => ?_
    dsimp only
    split <;> exact includes_enclosed h s _ _ _

theorem includes_aliasText (h : parts.type.Framed) :
    Includes s (do aliasText d parts.type; return true : Emission Bool) s parts.type := by
  refine Includes.bind_left (.bind_right (framed_doc d) fun _ => ?_) fun _ => framed_pure true
  split
  · exact .bind_right (framed_write _) fun _ => (Includes.refl h s).bind_left fun _ =>
      framed_write _
  · exact .bind_right (framed_write _) fun _ => .bind_right (framed_write _) fun _ =>
      (Includes.refl h s).bind_left fun _ => framed_write _

/-- An alias that is written holds its type. -/
theorem includes_typeAlias (pair : Pair) (h : parts.type.Framed) {t : TypeNode}
    (htype : d.type = some t) (hshape : ∀ inner, t ≠ .reflection inner)
    (hfree : (pair.document s).hasDataNamespace d.name = false) :
    Includes s (typeAlias pair d parts) s parts.type := by
  have htext := includes_aliasText (s := s) (d := d) h
  unfold typeAlias
  rw [htype]
  cases t with
  | reflection inner => exact (hshape inner rfl).elim
  | _ =>
    refine .reading_bind (fun s' => ?_) ?_
    · split
      · exact framed_skipNoting _
      · exact htext.framed
    · rw [if_neg (by simp [hfree])]
      exact htext

/-- A binding that has only a type holds it. -/
theorem includes_binding (h : parts.type.Framed) (hcallable : d.isCallable = false)
    (hliteral : d.literalType = none) (hdefault : d.defaultValue = none) {t : TypeNode}
    (htype : d.type = some t) : Includes s (binding d parts) s parts.type := by
  unfold binding
  rw [if_neg (by simp [hcallable]), hliteral, hdefault, htype]
  exact .bind_right (framed_doc d) fun _ => includes_enclosed h s _ _ _

theorem includes_interface (h : parts.children.Framed) :
    Includes s (interface d parts) s parts.children := by
  refine .bind_right (framed_doc d) fun _ => ?_
  split
  · exact includes_enclosed h s _ _ _
  · exact .bind_right (framed_write _) fun _ => includes_enclosed h s _ _ _

/-- A type literal holds its children, if it has any. -/
theorem includes_typeLiteral (h : parts.children.Framed) (hsome : d.children ≠ []) :
    Includes s (typeLiteral d parts) s parts.children := by
  unfold typeLiteral
  rw [if_neg (by simp [hsome])]
  exact includes_enclosed h s _ _ _

/-- A namespace of data that is no enum holds its children. -/
theorem includes_namespaceDeclaration (h : parts.children.Framed)
    (hdata : d.hasCallableChild = false) (hnumbers : d.children.any isNumericMember = false) :
    Includes s (namespaceDeclaration d parts) s parts.children := by
  unfold namespaceDeclaration
  rw [if_neg (by simp [hdata]), if_neg (by simp [hnumbers])]
  exact .bind_right (framed_doc d) fun _ => includes_enclosed h s _ _ _

theorem includes_enumeration (h : parts.children.Framed) :
    Includes s (enumeration d parts) s parts.children :=
  .bind_right (framed_doc d) fun _ => includes_enclosed h s _ _ _

end Lowering

end ZigReflect
