import ZigReflect.Proofs.CaseLabels
import ZigReflect.Proofs.Nullability
import ZigReflect.Proofs.WrittenText

/-!
# The members of a union

`Pair.WritesUnion` says how a union is written, one rule for each shape: literals alone are an
enum with a case for each, null and at most one other member are an optional type, and all that
is left is a tagged union. No member but null is lost, none is written twice, and the order is
that of the members. The payload of a case is what its member is written as alone, and the
label is the name of the member with the number of its earlier occurrences.

A union is written as a text if and only if the rules say so (`union_written_iff`).
-/

namespace ZigReflect

open Lowering Emission

namespace Lowering

/-! ## Labels -/

/-- The label of the case at a place of a tagged union: the name of its type, and the number of
types before it that have the same name, unless there are none. -/
def caseLabel (types : List TypeNode) (i : Nat) (t : TypeNode) : String :=
  Zig.identifier (numbered (baseName t) (((types.take i).map baseName).count (baseName t)))

theorem map_caseNamesAfter : ∀ (before : List String) (types : List TypeNode),
    (caseNamesAfter before (types.map baseName)).map Zig.identifier =
      types.mapIdx fun i t => Zig.identifier (numbered (baseName t)
        (before.count (baseName t) + ((types.take i).map baseName).count (baseName t)))
  | _, [] => rfl
  | before, t :: types => by
    have hcount : ∀ i (u : TypeNode),
        (baseName t :: before).count (baseName u) +
            ((types.take i).map baseName).count (baseName u) =
          before.count (baseName u) +
            (((t :: types).take (i + 1)).map baseName).count (baseName u) := by
      intro i u
      rw [List.take_succ_cons, List.map_cons, List.count_cons, List.count_cons]
      omega
    rw [List.map_cons, caseNamesAfter, List.map_cons,
      map_caseNamesAfter (baseName t :: before) types, List.mapIdx_cons]
    simp only [hcount]
    rfl

theorem map_caseNames (types : List TypeNode) :
    (caseNames types).map Zig.identifier = types.mapIdx (caseLabel types) := by
  rw [caseNames, map_caseNamesAfter]
  simp only [List.count_nil, Nat.zero_add]
  rfl

theorem length_caseNames (types : List TypeNode) : (caseNames types).length = types.length := by
  have hlength := congrArg List.length (map_caseNames types)
  rwa [List.length_map, List.length_mapIdx] at hlength

/-! ## Texts of the shapes -/

/-- An enum with a case for each literal, and one request to be written by the case names. -/
def literalEnumText (values : List Literal) : String :=
  "enum \x7b " ++ String.join (values.map fun v => Zig.identifier v.caseName ++ ", ") ++
    "usingnamespace StringBackedEnumStringify(@This()); \x7d"

/-- A tagged union with a case for each label. -/
def taggedUnionText (labels payloads : List String) : String :=
  "union(enum) \x7b " ++
    ", ".intercalate
      (List.zipWith (fun label payload => label ++ ": " ++ payload) labels payloads) ++
    " \x7d"

/-- The members other than null. -/
def withoutNull (members : List TypeNode) : List TypeNode :=
  members.filter fun m => !m.isNull

/-- The marker of an optional type in front of a union that has null among its members. -/
def optionalMarker (members : List TypeNode) : String :=
  if members.any TypeNode.isNull then "?" else ""

theorem optionalMarker_of_hasNull {members : List TypeNode} (h : HasNull members) :
    optionalMarker members = "?" :=
  if_pos (List.any_eq_true.2 h)

theorem optionalMarker_of_not_hasNull {members : List TypeNode} (h : ¬HasNull members) :
    optionalMarker members = "" :=
  if_neg fun hany => h (List.any_eq_true.1 hany)

/-- A union of literals alone is given by their values. -/
theorem eq_map_literal_iff {members : List TypeNode} {values : List Literal} :
    members = values.map .literal ↔
      IsLiteralUnion members ∧ values = members.filterMap TypeNode.literalValue? := by
  have hvalue : ∀ v : Literal, (TypeNode.literal v).literalValue? = some v := fun _ => rfl
  constructor
  · rintro rfl
    refine ⟨fun m hm => ?_, by simp [hvalue]⟩
    obtain ⟨v, -, rfl⟩ := List.mem_map.1 hm
    rfl
  · rintro ⟨hliteral, rfl⟩
    induction members with
    | nil => rfl
    | cons m members ih =>
      have hrest := ih fun n hn => hliteral n (List.mem_cons_of_mem m hn)
      cases m with
      | literal v => rw [List.filterMap_cons_some (hvalue v), List.map_cons, ← hrest]
      | _ => exact absurd (hliteral _ List.mem_cons_self) (Bool.false_ne_true)

/-! ## The rules -/

variable {s : Schema} {text : String}

theorem yields_literalEnum_iff {values : List Literal} :
    (literalEnum values).Yields s () text ↔ text = literalEnumText values := by
  unfold literalEnum
  rw [yields_enclosed_iff (framed_write _)]
  simp only [yields_write_iff, exists_eq_left]
  rfl

theorem yields_unionCase_iff {name : String} {payload : Emission Unit} (hp : payload.Framed) :
    (unionCase name payload).Yields s () text ↔
      ∃ p, payload.Yields s () p ∧ text = Zig.identifier name ++ ": " ++ p := by
  unfold unionCase
  rw [yields_write_bind_iff ((framed_write _).bind fun _ => hp)]
  simp only [yields_write_bind_iff hp]
  constructor
  · rintro ⟨_, ⟨p, hpayload, rfl⟩, rfl⟩
    exact ⟨p, hpayload, by rw [String.append_assoc]⟩
  · rintro ⟨p, hpayload, rfl⟩
    exact ⟨_, ⟨p, hpayload, rfl⟩, by rw [String.append_assoc]⟩

/-- Labels and payloads stay side by side. -/
theorem forall₂_unionCases_iff {x : TypeNode → Emission Unit} (hx : ∀ t, (x t).Framed) :
    ∀ {names : List String} {types : List TypeNode} {texts : List String},
      names.length = types.length →
      (List.Forall₂ (fun c t => c.Yields s () t) (names.zipWith unionCase (types.map x)) texts ↔
        ∃ payloads, List.Forall₂ (fun t p => (x t).Yields s () p) types payloads ∧
          texts = List.zipWith (fun label payload => label ++ ": " ++ payload)
            (names.map Zig.identifier) payloads)
  | [], [], texts, _ => by simp
  | name :: names, t :: types, texts, h => by
    have hrest := @forall₂_unionCases_iff x hx names types
    rw [List.map_cons, List.zipWith_cons_cons]
    constructor
    · rintro (_ | ⟨hfirst, htexts⟩)
      obtain ⟨p, hp, rfl⟩ := (yields_unionCase_iff (hx t)).1 hfirst
      obtain ⟨payloads, hpayloads, rfl⟩ := (hrest (Nat.succ.inj h)).1 htexts
      exact ⟨p :: payloads, .cons hp hpayloads, rfl⟩
    · rintro ⟨_, _ | ⟨hp, hpayloads⟩, rfl⟩
      exact .cons ((yields_unionCase_iff (hx t)).2 ⟨_, hp, rfl⟩)
        ((hrest (Nat.succ.inj h)).2 ⟨_, hpayloads, rfl⟩)

theorem framed_cases {x : TypeNode → Emission Unit} (hx : ∀ t, (x t).Framed)
    (types : List TypeNode) :
    ∀ c ∈ (caseNames types).zipWith unionCase (types.map x), c.Framed := by
  have hcases : ∀ c ∈ withEmissions x types, c.2.Framed := by
    intro c hc
    obtain ⟨t, -, rfl⟩ := List.mem_map.1 hc
    exact hx t
  have hframed := framed_unionCases (caseNames types) hcases
  simpa [withEmissions, Function.comp_def] using hframed

/-- The cases of a tagged union are its labels with what the types are written as. -/
theorem taggedUnion_withEmissions (x : TypeNode → Emission Unit) (types : List TypeNode) :
    taggedUnion (withEmissions x types) = (do
      write "union(enum) \x7b "
      separated ", " ((caseNames types).zipWith unionCase (types.map x))
      write " \x7d") := by
  have htypes : (withEmissions x types).map (·.1) = types := by
    simp [withEmissions, Function.comp_def]
  have hpayloads : (withEmissions x types).map (·.2) = types.map x := by
    simp [withEmissions, Function.comp_def]
  rw [taggedUnion, htypes, hpayloads]

theorem yields_taggedUnion_iff {x : TypeNode → Emission Unit} (hx : ∀ t, (x t).Framed)
    {types : List TypeNode} :
    (taggedUnion (withEmissions x types)).Yields s () text ↔
      ∃ payloads, List.Forall₂ (fun t p => (x t).Yields s () p) types payloads ∧
        text = taggedUnionText (types.mapIdx (caseLabel types)) payloads := by
  have hframed := framed_cases hx types
  rw [taggedUnion_withEmissions, yields_enclosed_iff (framed_separated ", " hframed)]
  simp only [yields_separated_iff hframed, forall₂_unionCases_iff hx (length_caseNames types),
    map_caseNames]
  constructor
  · rintro ⟨_, ⟨_, ⟨payloads, hyields, rfl⟩, rfl⟩, rfl⟩
    exact ⟨payloads, hyields, rfl⟩
  · rintro ⟨payloads, hyields, rfl⟩
    exact ⟨_, ⟨_, ⟨payloads, hyields, rfl⟩, rfl⟩, rfl⟩

end Lowering

namespace Pair

/-- How the members of a union are written. -/
inductive WritesUnion (pair : Pair) (s : Schema) (members : List TypeNode) : String → Prop
  /-- Literals alone are an enum. -/
  | enum {values : List Literal} (literals : members = values.map .literal) :
    WritesUnion pair s members (literalEnumText values)
  /-- Null alone leaves nothing to be optional. -/
  | void (mixed : ¬IsLiteralUnion members) (null : HasNull members)
      (nothing : withoutNull members = []) :
    WritesUnion pair s members "?void"
  /-- Null and one other member are that member, optional. -/
  | optional {only : TypeNode} {payload : String} (mixed : ¬IsLiteralUnion members)
      (null : HasNull members) (single : withoutNull members = [only])
      (written : (pair.emitType only).Yields s () payload) :
    WritesUnion pair s members ("?" ++ payload)
  /-- Other members are a tagged union, which is optional with null among them. -/
  | tagged {payloads : List String} (mixed : ¬IsLiteralUnion members)
      (several : HasNull members → 2 ≤ (withoutNull members).length)
      (written : List.Forall₂ (fun t payload => (pair.emitType t).Yields s () payload)
        (withoutNull members) payloads) :
    WritesUnion pair s members (optionalMarker members ++
      taggedUnionText ((withoutNull members).mapIdx (caseLabel (withoutNull members))) payloads)

variable (pair : Pair) {s : Schema} {members : List TypeNode} {text : String}

theorem yields_union_of_literals_iff (hliteral : IsLiteralUnion members) :
    (pair.emitType (.union members)).Yields s () text ↔ pair.WritesUnion s members text := by
  rw [emitType_union, union_of_literals _ hliteral, yields_literalEnum_iff]
  constructor
  · rintro rfl
    exact .enum (eq_map_literal_iff.2 ⟨hliteral, rfl⟩)
  · rintro (literals | mixed | mixed | mixed)
    · rw [(eq_map_literal_iff.1 literals).2]
    · exact (mixed hliteral).elim
    · exact (mixed hliteral).elim
    · exact (mixed hliteral).elim

/-- A union with null among its members is written behind the marker, by how many of them are
left. -/
theorem yields_union_of_null_iff (hmixed : ¬IsLiteralUnion members) (hnull : HasNull members) :
    (pair.emitType (.union members)).Yields s () text ↔ pair.WritesUnion s members text := by
  have hany : members.any TypeNode.isNull = true := List.any_eq_true.2 hnull
  have hmarker := optionalMarker_of_hasNull hnull
  rw [emitType_union, union_of_mixed _ hmixed]
  simp only [hany, if_true]
  rw [← withoutNull, yields_write_bind_iff (framed_nonNull (framed_withEmissions pair _))]
  constructor
  · rintro ⟨rest, hrest, rfl⟩
    match hothers : withoutNull members with
    | [] =>
      rw [hothers] at hrest
      rw [yields_write_iff.1 hrest]
      exact .void hmixed hnull hothers
    | [only] =>
      rw [hothers] at hrest
      exact .optional hmixed hnull hothers hrest
    | first :: second :: others =>
      rw [hothers] at hrest
      have htagged : (taggedUnion (withEmissions pair.emitType
          (first :: second :: others))).Yields s () rest := hrest
      rw [← hothers, yields_taggedUnion_iff pair.framed_emitType] at htagged
      obtain ⟨payloads, hyields, rfl⟩ := htagged
      rw [← hmarker]
      exact .tagged hmixed (fun _ => by simp [hothers]) hyields
  · rintro (literals | ⟨-, -, hothers⟩ | ⟨-, -, hothers, hyields⟩ | ⟨-, hseveral, hyields⟩)
    · exact (hmixed (eq_map_literal_iff.1 literals).1).elim
    · exact ⟨"void", by rw [hothers]; exact yields_write_iff.2 rfl, rfl⟩
    · exact ⟨_, by rw [hothers]; exact hyields, rfl⟩
    · refine ⟨_, ?_, by rw [hmarker]⟩
      have htagged := (yields_taggedUnion_iff pair.framed_emitType).2 ⟨_, hyields, rfl⟩
      match hothers : withoutNull members with
      | [] => exact absurd (hseveral hnull) (by simp [hothers])
      | [_] => exact absurd (hseveral hnull) (by simp [hothers])
      | first :: second :: others =>
        rw [hothers] at htagged
        exact htagged

theorem yields_union_of_not_null_iff (hmixed : ¬IsLiteralUnion members) (hnull : ¬HasNull members) :
    (pair.emitType (.union members)).Yields s () text ↔ pair.WritesUnion s members text := by
  have hany : ¬members.any TypeNode.isNull = true := fun h => hnull (List.any_eq_true.1 h)
  have hmarker := optionalMarker_of_not_hasNull hnull
  rw [emitType_union, union_of_mixed _ hmixed]
  simp only [if_neg hany]
  rw [← withoutNull, yields_taggedUnion_iff pair.framed_emitType]
  constructor
  · rintro ⟨payloads, hyields, rfl⟩
    rw [← String.empty_append (s := taggedUnionText _ _), ← hmarker]
    exact .tagged hmixed (fun h => (hnull h).elim) hyields
  · rintro (literals | ⟨-, h, -⟩ | ⟨-, h, -, -⟩ | ⟨-, -, hyields⟩)
    · exact (hmixed (eq_map_literal_iff.1 literals).1).elim
    · exact (hnull h).elim
    · exact (hnull h).elim
    · exact ⟨_, hyields, by rw [hmarker, String.empty_append]⟩

/-- Writing a union succeeds and appends a text if and only if the text is that of the members. -/
theorem union_written_iff (pair : Pair) (e : Emitter) (members : List TypeNode) (text : String) :
    (((pair.emitType (.union members)).on e).1 = .ok () ∧
      ((pair.emitType (.union members)).on e).2.text = e.text ++ text) ↔
    pair.WritesUnion e.schema members text := by
  rw [← yields_iff_on (pair.framed_emitType _) e]
  by_cases hliteral : IsLiteralUnion members
  · exact pair.yields_union_of_literals_iff hliteral
  · by_cases hnull : HasNull members
    · exact pair.yields_union_of_null_iff hliteral hnull
    · exact pair.yields_union_of_not_null_iff hliteral hnull

end Pair

end ZigReflect
