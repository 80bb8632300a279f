import Mathlib.Logic.Relation
import ZigReflect.Proofs.Contents
import ZigReflect.Proofs.Lookup

/-!
# Parts of a reflection

The parts of a reflection are the declarations and types that a run can come to
from one of them without looking anything up. A part holds the children and the
type of a declaration and the components of a type (`Part.Holds`). Signatures, the
operands of an indexed access or a query, and the members of an intersection are
never written, so they are not parts; the names of the members are looked up.

`Part.Below` is what stands anywhere below a declaration. Declarations that a lookup
finds are below the root of their document.
-/

namespace ZigReflect

/-- A declaration or type that stands in a reflection. -/
inductive Part where
  | declaration (d : Declaration)
  | type (t : TypeNode)

namespace Part

/-- The first part is written with the second one in it. -/
inductive Holds : Part → Part → Prop
  | child {d c : Declaration} (h : c ∈ d.children) : Holds (.declaration d) (.declaration c)
  | typeOf {d : Declaration} {t : TypeNode} (h : d.type = some t) :
    Holds (.declaration d) (.type t)
  | argument {name : String} {arguments : List TypeNode} {t : TypeNode} (h : t ∈ arguments) :
    Holds (.type (.reference name arguments)) (.type t)
  | element (t : TypeNode) : Holds (.type (.array t)) (.type t)
  | unionMember {members : List TypeNode} {t : TypeNode} (h : t ∈ members) :
    Holds (.type (.union members)) (.type t)
  | tupleElement {elements : List TypeNode} {t : TypeNode} (h : t ∈ elements) :
    Holds (.type (.tuple elements)) (.type t)
  | inline (d : Declaration) : Holds (.type (.reflection d)) (.declaration d)

/-- The second part is the first one, or stands in it at some depth. -/
abbrev Reaches : Part → Part → Prop :=
  Relation.ReflTransGen Holds

/-- What a part reaches is itself, or is reached from one of the parts it holds. -/
theorem reaches_iff {p q : Part} : p.Reaches q ↔ p = q ∨ ∃ r, p.Holds r ∧ r.Reaches q :=
  Relation.ReflTransGen.cases_head_iff

/-- A declaration reaches itself and what its children and its type reach. -/
theorem reaches_declaration_iff {d : Declaration} {p : Part} :
    (declaration d).Reaches p ↔ declaration d = p ∨
      (∃ c ∈ d.children, (declaration c).Reaches p) ∨
        ∃ t, d.type = some t ∧ (type t).Reaches p := by
  rw [reaches_iff]
  refine or_congr_right ⟨?_, ?_⟩
  · rintro ⟨q, hq, hp⟩
    cases hq with
    | child h => exact .inl ⟨_, h, hp⟩
    | typeOf h => exact .inr ⟨_, h, hp⟩
  · rintro (⟨c, h, hp⟩ | ⟨t, h, hp⟩)
    · exact ⟨_, .child h, hp⟩
    · exact ⟨_, .typeOf h, hp⟩

theorem reaches_intrinsic_iff {name : String} {p : Part} :
    (type (.intrinsic name)).Reaches p ↔ type (.intrinsic name) = p := by
  rw [reaches_iff, or_iff_left]
  rintro ⟨q, hq, -⟩
  cases hq

/-- Nothing is reached through an intersection: its members are looked up. -/
theorem reaches_intersection_iff {members : List TypeNode} {p : Part} :
    (type (.intersection members)).Reaches p ↔ type (.intersection members) = p := by
  rw [reaches_iff, or_iff_left]
  rintro ⟨q, hq, -⟩
  cases hq

/-- The part stands in a child of the declaration, or is one. -/
def Below (p : Part) (d : Declaration) : Prop :=
  ∃ c ∈ d.children, (Part.declaration c).Reaches p

theorem below_of_mem {d c : Declaration} (h : c ∈ d.children) : (declaration c).Below d :=
  ⟨c, h, .refl⟩

/-- What is below a declaration is below everything that declaration is below of. -/
theorem Below.trans {p : Part} {d e : Declaration} (hp : p.Below e) (he : (declaration e).Below d) :
    p.Below d := by
  obtain ⟨below, hbelow, hp⟩ := hp
  obtain ⟨c, hc, he⟩ := he
  exact ⟨c, hc, (he.tail (.child hbelow)).trans hp⟩

end Part

/-- An entry among siblings is reached from one of them. -/
theorem reaches_of_mem_entriesAmong {named : Bool} {ds : List Declaration} {e : Entry}
    (h : e ∈ entriesAmong named ds) :
    ∃ d ∈ ds, (Part.declaration d).Reaches (.declaration e.1) := by
  induction ds using siblings_induction generalizing named with
  | nil => simp [entriesAmong] at h
  | cons d ds ihBelow ihRest =>
    rw [entriesAmong_cons, List.mem_cons, List.mem_append] at h
    obtain rfl | h | h := h
    · exact ⟨d, List.mem_cons_self, .refl⟩
    · obtain ⟨c, hc, hreach⟩ := ihBelow h
      exact ⟨d, List.mem_cons_self, .head (.child hc) hreach⟩
    · obtain ⟨c, hc, hreach⟩ := ihRest h
      exact ⟨c, List.mem_cons_of_mem d hc, hreach⟩

/-- The entries of a document are below its root. -/
theorem Declaration.below_of_mem_entries {root : Declaration} {e : Entry} (h : e ∈ root.entries) :
    (Part.declaration e.1).Below root :=
  reaches_of_mem_entriesAmong h

namespace Document

/-- What a lookup by name finds is below the root. -/
theorem below_of_mem_byName {root d : Declaration} {name : String}
    (h : d ∈ (ofRoot root).byName name) : (Part.declaration d).Below root := by
  rw [byName_ofRoot, List.mem_map] at h
  obtain ⟨e, he, rfl⟩ := h
  refine root.below_of_mem_entries ?_
  exact (List.mem_filter.1 (List.mem_mergeSort.1 (List.mem_filter.1 he).1)).1

end Document

end ZigReflect
