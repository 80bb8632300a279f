import Mathlib.Data.List.Basic
import ZigReflect.Proofs.Frame

/-!
# Null in a union

A union that has null among its members is optional: its text starts with the marker, and where
one other member remains, that member alone follows. Null is either the literal or the intrinsic
type of that name.

A union of literals alone is an enum whatever the literals are, and null is one of its cases
then. So the statement is about all unions but those of literals with null among them
(`union_nullability`), and fails for one of those (`literal_union_not_optional`).
-/

namespace ZigReflect

/-- The text of an optional type. -/
def Zig.IsOptional (text : String) : Prop :=
  ∃ rest, text = "?" ++ rest

theorem Zig.not_isOptional_enum (rest : String) : ¬IsOptional ("enum \x7b " ++ rest) := by
  rintro ⟨rest', h⟩
  simpa using congrArg String.toList h

theorem Zig.not_isOptional_union (rest : String) : ¬IsOptional ("union(enum) \x7b " ++ rest) := by
  rintro ⟨rest', h⟩
  simpa using congrArg String.toList h

/-- What is added with a text in front. -/
def Addition.after {α : Type} (y : Addition α) (text : String) : Addition α :=
  { y with text := text ++ y.text }

namespace Emission

/-- What a step adds alone comes behind a text that is written before it. -/
theorem alone_write_bind {α : Type} {x : Emission α} (hx : x.Framed) (text : String)
    (schema : Schema) :
    (write text >>= fun _ => x).alone schema = (x.alone schema).after text := by
  rw [alone, on_bind, on_write]
  dsimp only
  rw [hx]
  simp [Addition.onto, Addition.after, Emitter.fresh]

end Emission

namespace Lowering

open Emission

/-- A union of literals alone. -/
def IsLiteralUnion (members : List TypeNode) : Prop :=
  ∀ m ∈ members, m.isLiteral = true

/-- A union with null among its members. -/
def HasNull (members : List TypeNode) : Prop :=
  ∃ m ∈ members, m.isNull = true

theorem types_eq_map (pair : Pair) (inline : Inliner) : ∀ ts : List TypeNode,
    types pair inline ts = ts.map (type pair inline)
  | [] => by simp [types]
  | t :: ts => by simp [types, types_eq_map pair inline ts]

/-! ## Unions by their shape -/

section

variable {members : List TypeNode} (x : TypeNode → Emission Unit)

/-- The members with what they are written as. -/
def withEmissions (members : List TypeNode) : List (TypeNode × Emission Unit) :=
  members.map fun m => (m, x m)

/-- The members other than null, with what they are written as. -/
theorem filter_withEmissions (members : List TypeNode) :
    (withEmissions x members).filter (fun m => !m.1.isNull) =
      withEmissions x (members.filter fun m => !m.isNull) := by
  simp [withEmissions, List.filter_map, Function.comp_def]

theorem union_of_literals (h : IsLiteralUnion members) :
    union (withEmissions x members) = literalEnum (members.filterMap TypeNode.literalValue?) := by
  have hall : (withEmissions x members).all (·.1.isLiteral) = true := by
    simpa [withEmissions, IsLiteralUnion] using h
  rw [union, if_pos hall]
  simp [withEmissions]

/-- What follows the marker in a union with null. -/
def nonNull : List (TypeNode × Emission Unit) → Emission Unit
  | [] => write "void"
  | [only] => only.2
  | cases => taggedUnion cases

theorem union_of_mixed (h : ¬IsLiteralUnion members) :
    union (withEmissions x members) =
      let cases := withEmissions x (members.filter fun m => !m.isNull)
      if (members.any TypeNode.isNull) = true then do write "?"; nonNull cases
      else taggedUnion cases := by
  have hall : ¬(withEmissions x members).all (·.1.isLiteral) = true := by
    simpa [withEmissions, IsLiteralUnion] using h
  have hany : (withEmissions x members).any (·.1.isNull) = members.any TypeNode.isNull := by
    simp [withEmissions, Function.comp_def]
  rw [union, if_neg hall, hany, filter_withEmissions]
  rfl

theorem framed_nonNull {cases : List (TypeNode × Emission Unit)} (h : ∀ c ∈ cases, c.2.Framed) :
    (nonNull cases).Framed := by
  unfold nonNull
  split
  · exact framed_write _
  · exact h _ (by simp)
  · exact framed_taggedUnion h

end

/-- A union of literals is an enum. -/
theorem alone_literalEnum (values : List Literal) (schema : Schema) :
    ∃ rest, ((literalEnum values).alone schema).text = "enum \x7b " ++ rest :=
  ⟨_, congrArg Addition.text (alone_write_bind
    ((framed_write _).bind fun _ => framed_write _) _ schema)⟩

theorem alone_taggedUnion {cases : List (TypeNode × Emission Unit)} (h : ∀ c ∈ cases, c.2.Framed)
    (schema : Schema) :
    ∃ rest, ((taggedUnion cases).alone schema).text = "union(enum) \x7b " ++ rest :=
  ⟨_, congrArg Addition.text (alone_write_bind
    ((framed_separated ", " (framed_unionCases _ h)).bind fun _ => framed_write _) _ schema)⟩

/-! ## Whole unions -/

variable (pair : Pair) (schema : Schema) {members : List TypeNode}

theorem emitType_union :
    pair.emitType (.union members) = union (withEmissions pair.emitType members) := by
  unfold Pair.emitType withEmissions
  rw [type, types_eq_map, List.map_prod_left_eq_zip]

theorem framed_withEmissions (members : List TypeNode) :
    ∀ c ∈ withEmissions pair.emitType members, c.2.Framed := by
  intro c hc
  obtain ⟨m, -, rfl⟩ := List.mem_map.1 hc
  exact pair.framed_emitType m

/-- A union with null is the marker and what follows it, unless it has literals alone. -/
theorem alone_union_of_null (hmixed : ¬IsLiteralUnion members) (hnull : HasNull members) :
    (pair.emitType (.union members)).alone schema =
      ((nonNull (withEmissions pair.emitType (members.filter fun m => !m.isNull))).alone
        schema).after "?" := by
  have hany : members.any TypeNode.isNull = true := List.any_eq_true.2 hnull
  rw [emitType_union, union_of_mixed _ hmixed]
  simp only [hany, if_true]
  exact alone_write_bind (framed_nonNull (framed_withEmissions pair _)) "?" schema

/-- A union without null is a tagged union, unless it has literals alone. -/
theorem alone_union_of_not_null (hmixed : ¬IsLiteralUnion members) (hnull : ¬HasNull members) :
    ∃ rest, ((pair.emitType (.union members)).alone schema).text =
      "union(enum) \x7b " ++ rest := by
  have hany : ¬members.any TypeNode.isNull = true := fun h => hnull (List.any_eq_true.1 h)
  rw [emitType_union, union_of_mixed _ hmixed]
  simp only [hany]
  exact alone_taggedUnion (framed_withEmissions pair _) schema

end Lowering

open Lowering

/-- The text of a union is that of an optional type if and only if null is among the members, and
where one other member remains it is the marker and what that member is alone. A union of
literals is an enum, and so the first two do not hold where null is among the literals. -/
theorem union_nullability (pair : Pair) (schema : Schema) (members : List TypeNode) :
    (¬(IsLiteralUnion members ∧ HasNull members) →
      (Zig.IsOptional ((pair.emitType (.union members)).alone schema).text ↔ HasNull members) ∧
      ∀ only, HasNull members → members.filter (fun m => !m.isNull) = [only] →
        (pair.emitType (.union members)).alone schema =
          ((pair.emitType only).alone schema).after "?") ∧
    (IsLiteralUnion members →
      ∃ rest, ((pair.emitType (.union members)).alone schema).text = "enum \x7b " ++ rest) := by
  have henum : IsLiteralUnion members →
      ∃ rest, ((pair.emitType (.union members)).alone schema).text = "enum \x7b " ++ rest := by
    intro hliteral
    rw [emitType_union, union_of_literals _ hliteral]
    exact alone_literalEnum _ schema
  refine ⟨fun h => ?_, henum⟩
  by_cases hnull : HasNull members
  · have hmarked := alone_union_of_null pair schema (fun hliteral => h ⟨hliteral, hnull⟩) hnull
    refine ⟨⟨fun _ => hnull, fun _ => ⟨_, congrArg Addition.text hmarked⟩⟩, ?_⟩
    intro only _ honly
    rw [hmarked, honly]
    rfl
  · refine ⟨⟨fun hoptional => ?_, fun h => (hnull h).elim⟩, fun _ h => (hnull h).elim⟩
    by_cases hliteral : IsLiteralUnion members
    · obtain ⟨rest, htext⟩ := henum hliteral
      exact (Zig.not_isOptional_enum rest (htext ▸ hoptional)).elim
    · obtain ⟨rest, htext⟩ := alone_union_of_not_null pair schema hliteral hnull
      exact (Zig.not_isOptional_union rest (htext ▸ hoptional)).elim

/-- Both spellings of null are left out behind the marker. -/
theorem union_nullability_twice :
    let pair : Pair := ⟨.ofRoot { id := 0, name := "t" }, .ofRoot { id := 0, name := "p" }⟩
    ((pair.emitType (.union [.literal .null, .reference "Range" [], .intrinsic "null"])).alone
      .protocol).text = "?Range" := by
  intro pair
  have hmixed : ¬(IsLiteralUnion [.literal .null, .reference "Range" [], .intrinsic "null"] ∧
      HasNull [.literal .null, .reference "Range" [], .intrinsic "null"]) := by
    simp [IsLiteralUnion, TypeNode.isLiteral, TypeNode.literalValue?]
  have hnull : HasNull [.literal .null, .reference "Range" [], .intrinsic "null"] :=
    ⟨.literal .null, by simp, rfl⟩
  rw [((union_nullability pair .protocol _).1 hmixed).2 (.reference "Range" []) hnull rfl]
  decide +kernel

/-- The literals `"a"` and null are an enum, which is not optional. -/
theorem literal_union_not_optional :
    let pair : Pair := ⟨.ofRoot { id := 0, name := "t" }, .ofRoot { id := 0, name := "p" }⟩
    let members := [TypeNode.literal (.string "a"), .literal .null]
    let added := (pair.emitType (.union members)).alone .types
    HasNull members ∧ members.filter (fun m => !m.isNull) = [.literal (.string "a")] ∧
      added.result = .ok () ∧
      added.text = "enum \x7b a, null, usingnamespace StringBackedEnumStringify(@This()); \x7d" ∧
      ¬Zig.IsOptional added.text := by
  intro pair members added
  have htext : added.text =
      "enum \x7b a, null, usingnamespace StringBackedEnumStringify(@This()); \x7d" := by
    decide +kernel
  refine ⟨⟨.literal .null, by simp [members], rfl⟩, rfl, rfl, htext, ?_⟩
  rw [htext]
  exact Zig.not_isOptional_enum "a, null, usingnamespace StringBackedEnumStringify(@This()); \x7d"

end ZigReflect
