import ZigReflect.Lowering.Basic
import ZigReflect.Proofs.Parts

/-!
# Relations that all steps keep

A step relation relates emissions that read one document, and every plain step keeps
it (`StepRelation`). Then every rule keeps it: what a rule makes of related parts is
related. The recursion over types and declarations carries this to two runs that
differ in how intersection members are inlined, if they are related where a part is
looked up: at references, and at the members of intersections (`Covers`).

A property of emissions is the case in which both sides are the same.
-/

set_option linter.unusedSectionVars false

namespace ZigReflect

/-- A relation between emissions that read one document. Writing and noting are
related to themselves, and what is put together from related steps is related. -/
structure StepRelation where
  rel : ∀ {α : Type}, Schema → Emission α → Emission α → Prop
  rel_pure : ∀ {α : Type} (s : Schema) (a : α), rel s (pure a) (pure a)
  rel_write : ∀ (s : Schema) (text : String), rel s (Emission.write text) (Emission.write text)
  rel_note : ∀ (s : Schema) (n : Notice), rel s (Emission.note n) (Emission.note n)
  rel_bind : ∀ {α β : Type} {s : Schema} {x y : Emission α} {f g : α → Emission β},
    rel s x y → (∀ a, rel s (f a) (g a)) → rel s (x >>= f) (y >>= g)
  /-- The document that is asked for is the one that is read. -/
  rel_reading : ∀ {β : Type} {s : Schema} {f g : Schema → Emission β},
    rel s (f s) (g s) → rel s (Emission.reading >>= f) (Emission.reading >>= g)

namespace StepRelation

open Emission Lowering

/-- Both relations at once. -/
def and (R Q : StepRelation) : StepRelation where
  rel s x y := R.rel s x y ∧ Q.rel s x y
  rel_pure s a := ⟨R.rel_pure s a, Q.rel_pure s a⟩
  rel_write s text := ⟨R.rel_write s text, Q.rel_write s text⟩
  rel_note s n := ⟨R.rel_note s n, Q.rel_note s n⟩
  rel_bind hxy hfg :=
    ⟨R.rel_bind hxy.1 fun a => (hfg a).1, Q.rel_bind hxy.2 fun a => (hfg a).2⟩
  rel_reading hfg := ⟨R.rel_reading hfg.1, Q.rel_reading hfg.2⟩

/-- The relation with its sides exchanged. -/
def flip (R : StepRelation) : StepRelation where
  rel s x y := R.rel s y x
  rel_pure := R.rel_pure
  rel_write := R.rel_write
  rel_note := R.rel_note
  rel_bind hxy hfg := R.rel_bind hxy hfg
  rel_reading hfg := R.rel_reading hfg

variable (R : StepRelation) {s : Schema}

/-- Related steps, one after another. -/
theorem rel_all : ∀ {xs ys : List (Emission Unit)}, List.Forall₂ (R.rel s) xs ys →
    R.rel s (all xs) (all ys)
  | _, _, .nil => R.rel_pure s ()
  | _, _, .cons hxy h => R.rel_bind hxy fun _ => rel_all h

/-- Related steps, with one text between all of them. -/
theorem rel_separated (separator : String) : ∀ {xs ys : List (Emission Unit)},
    List.Forall₂ (R.rel s) xs ys → R.rel s (separated separator xs) (separated separator ys)
  | _, _, .nil => R.rel_pure s ()
  | _, _, .cons hxy .nil => hxy
  | _, _, .cons hxy (.cons hxy' h) =>
    R.rel_bind hxy fun _ => R.rel_bind (R.rel_write s separator) fun _ =>
      rel_separated separator (.cons hxy' h)

/-! ## The rules for types -/

/-- Whether a declaration was written is not asked for inside a type. -/
theorem rel_void {x y : Emission Bool} (h : R.rel s x y) : R.rel s (void x) (void y) :=
  R.rel_bind h fun _ => R.rel_pure s ()

/-- A placeholder notes what it stands for, which may depend on the document. -/
theorem rel_placeholder (n : Schema → Notice) (text : String) :
    R.rel s (placeholder n text) (placeholder n text) :=
  R.rel_reading (R.rel_bind (R.rel_note s _) fun _ => R.rel_write s text)

/-- A reference with related arguments. Both sides have as many of them, so both or neither write
parentheses. -/
theorem rel_reference (name : String) {xs ys : List (Emission Unit)}
    (h : List.Forall₂ (R.rel s) xs ys) : R.rel s (reference name xs) (reference name ys) := by
  refine R.rel_bind (R.rel_write s _) fun _ => ?_
  cases h with
  | nil => exact R.rel_pure s ()
  | cons hxy h =>
    exact R.rel_bind (R.rel_write s "(") fun _ =>
      R.rel_bind (R.rel_separated ", " (.cons hxy h)) fun _ => R.rel_write s ")"

theorem rel_array {x y : Emission Unit} (h : R.rel s x y) : R.rel s (array x) (array y) :=
  R.rel_bind (R.rel_write s _) fun _ => h

/-- A tuple with related elements. -/
theorem rel_tuple {xs ys : List (Emission Unit)} (h : List.Forall₂ (R.rel s) xs ys) :
    R.rel s (tuple xs) (tuple ys) :=
  R.rel_bind (R.rel_write s _) fun _ => R.rel_bind (R.rel_separated ", " h) fun _ =>
    R.rel_write s _

/-- The values of an enum have no parts. -/
theorem rel_literalEnum (values : List Literal) :
    R.rel s (literalEnum values) (literalEnum values) :=
  R.rel_bind (R.rel_write s _) fun _ => R.rel_bind (R.rel_write s _) fun _ => R.rel_write s _

/-- A case with a related payload. -/
theorem rel_unionCase (name : String) {x y : Emission Unit} (h : R.rel s x y) :
    R.rel s (unionCase name x) (unionCase name y) :=
  R.rel_bind (R.rel_write s _) fun _ => R.rel_bind (R.rel_write s _) fun _ => h

/-- Cases of the same names, with related payloads. -/
theorem forall₂_unionCases : ∀ (names : List String) {xs ys : List (Emission Unit)},
    List.Forall₂ (R.rel s) xs ys →
      List.Forall₂ (R.rel s) (names.zipWith unionCase xs) (names.zipWith unionCase ys)
  | [], _, _, _ => by simp
  | _ :: _, _, _, .nil => by simp
  | name :: names, _, _, .cons hxy h =>
    .cons (R.rel_unionCase name hxy) (forall₂_unionCases names h)

/-- The members are of one type, and are written as related emissions. -/
def SameCase (s : Schema) (m n : TypeNode × Emission Unit) : Prop :=
  m.1 = n.1 ∧ R.rel s m.2 n.2

/-- Types that are paired with related emissions. -/
theorem forall₂_zip_sameCase : ∀ (ts : List TypeNode) {xs ys : List (Emission Unit)},
    List.Forall₂ (R.rel s) xs ys → List.Forall₂ (R.SameCase s) (ts.zip xs) (ts.zip ys)
  | [], _, _, _ => by simp
  | _ :: _, _, _, .nil => by simp
  | _ :: ts, _, _, .cons hxy h => .cons ⟨rfl, hxy⟩ (forall₂_zip_sameCase ts h)

/-- The labels depend on the types of the members only, so they are the same on both sides. -/
theorem rel_taggedUnion {ms ns : List (TypeNode × Emission Unit)}
    (h : List.Forall₂ (R.SameCase s) ms ns) : R.rel s (taggedUnion ms) (taggedUnion ns) := by
  have htypes : ms.map (·.1) = ns.map (·.1) := map_eq_of_forall₂ (fun _ _ hmn => hmn.1) h
  have hpayloads : List.Forall₂ (R.rel s) (ms.map (·.2)) (ns.map (·.2)) := by
    rw [List.forall₂_map_left_iff, List.forall₂_map_right_iff]
    exact h.imp fun _ _ hmn => hmn.2
  unfold taggedUnion
  rw [htypes]
  exact R.rel_bind (R.rel_write s _) fun _ =>
    R.rel_bind (R.rel_separated ", " (R.forall₂_unionCases _ hpayloads)) fun _ => R.rel_write s _

/-- Which form a union has depends on the types of its members, so both sides have the same one. -/
theorem rel_union {ms ns : List (TypeNode × Emission Unit)}
    (h : List.Forall₂ (R.SameCase s) ms ns) : R.rel s (union ms) (union ns) := by
  have htypes : ms.map (·.1) = ns.map (·.1) := map_eq_of_forall₂ (fun _ _ hmn => hmn.1) h
  have hall : ms.all (·.1.isLiteral) = ns.all (·.1.isLiteral) := by
    simpa [Function.comp_def] using congrArg (List.all · TypeNode.isLiteral) htypes
  have hvalues : ms.filterMap (·.1.literalValue?) = ns.filterMap (·.1.literalValue?) := by
    simpa [Function.comp_def] using congrArg (List.filterMap TypeNode.literalValue?) htypes
  have hnull : ms.any (·.1.isNull) = ns.any (·.1.isNull) := by
    simpa [Function.comp_def] using congrArg (List.any · TypeNode.isNull) htypes
  have hcases := List.rel_filter (p := fun m => !m.1.isNull) (q := fun m => !m.1.isNull)
    (fun _ _ hmn => by simp [hmn.1]) h
  unfold union
  rw [hall, hvalues, hnull]
  dsimp only
  generalize ms.filter (fun m => !m.1.isNull) = cs, ns.filter (fun m => !m.1.isNull) = ds
    at hcases
  split
  · exact R.rel_literalEnum _
  · split
    · refine R.rel_bind (R.rel_write s _) fun _ => ?_
      cases hcases with
      | nil => exact R.rel_write s _
      | cons hmn hrest =>
        cases hrest with
        | nil => exact hmn.2
        | cons hmn' hrest => exact R.rel_taggedUnion (.cons hmn (.cons hmn' hrest))
    · exact R.rel_taggedUnion hcases

/-- Intersections are related if the fields of every reference among the members are. -/
theorem rel_intersection {inline inline' : Inliner} {members : List TypeNode}
    (h : ∀ name arguments, .reference name arguments ∈ members →
      R.rel s (inline name) (inline' name)) :
    R.rel s (intersection inline members) (intersection inline' members) := by
  refine R.rel_bind (R.rel_write s _) fun _ => R.rel_bind (R.rel_all ?_) fun _ => R.rel_write s _
  rw [List.forall₂_map_left_iff, List.forall₂_map_right_iff, List.forall₂_same]
  intro t ht
  unfold intersectionMember
  split
  · exact h _ _ ht
  · exact R.rel_reading (R.rel_note s _)

/-! ## The rules for declarations -/

/-- A comment has no parts. -/
theorem rel_doc (d : Declaration) : R.rel s (doc d) (doc d) := by
  unfold doc
  split
  · exact R.rel_write s _
  · exact R.rel_pure s ()

theorem rel_skipNoting (n : Notice) : R.rel s (skipNoting n) (skipNoting n) :=
  R.rel_bind (R.rel_note s n) fun _ => R.rel_pure s false

/-- A constant after its comment has no parts. -/
theorem rel_documented (d : Declaration) (value : String) :
    R.rel s (do doc d; constant d value; return true : Emission Bool)
      (do doc d; constant d value; return true) :=
  R.rel_bind (R.rel_doc d) fun _ => R.rel_bind (R.rel_write s _) fun _ => R.rel_pure s true

/-- A text, a part, a text: what most rules are made of. -/
theorem rel_enclosed {x y : Emission Unit} (h : R.rel s x y) (opening closing : String) :
    R.rel s (do write opening; x; write closing; return true : Emission Bool)
      (do write opening; y; write closing; return true) :=
  R.rel_bind (R.rel_write s _) fun _ => R.rel_bind h fun _ =>
    R.rel_bind (R.rel_write s _) fun _ => R.rel_pure s true

variable {d : Declaration} {parts parts' : Parts}

/-- The type of an alias is related, in both layouts. -/
theorem rel_aliasText (d : Declaration) {x y : Emission Unit} (h : R.rel s x y) :
    R.rel s (aliasText d x) (aliasText d y) := by
  refine R.rel_bind (R.rel_doc d) fun _ => ?_
  split
  · exact R.rel_bind (R.rel_write s _) fun _ => R.rel_bind h fun _ => R.rel_write s _
  · exact R.rel_bind (R.rel_write s _) fun _ => R.rel_bind (R.rel_write s _) fun _ =>
      R.rel_bind h fun _ => R.rel_write s _

/-- An alias is left out on both sides, or on neither: this depends on the declaration and on the
names of the document. -/
theorem rel_typeAlias (pair : Pair) (h : R.rel s parts.type parts'.type) :
    R.rel s (typeAlias pair d parts) (typeAlias pair d parts') := by
  unfold typeAlias
  split
  · exact R.rel_skipNoting _
  · exact R.rel_skipNoting _
  · refine R.rel_reading ?_
    split
    · exact R.rel_skipNoting _
    · exact R.rel_bind (R.rel_aliasText d h) fun _ => R.rel_pure s true

/-- An interface with related children, generic or not. -/
theorem rel_interface (h : R.rel s parts.children parts'.children) :
    R.rel s (interface d parts) (interface d parts') := by
  refine R.rel_bind (R.rel_doc d) fun _ => ?_
  split
  · exact R.rel_enclosed h _ _
  · exact R.rel_bind (R.rel_write s _) fun _ => R.rel_enclosed h _ _

theorem rel_typeLiteral (h : R.rel s parts.children parts'.children) :
    R.rel s (typeLiteral d parts) (typeLiteral d parts') := by
  unfold typeLiteral
  split
  · exact R.rel_bind (R.rel_placeholder _ _) fun _ => R.rel_pure s true
  · exact R.rel_enclosed h _ _

/-- A property with a related type. One of a literal has its value, which is no part. -/
theorem rel_property (h : R.rel s parts.type parts'.type) :
    R.rel s (property d parts) (property d parts') := by
  unfold property
  split
  · exact R.rel_skipNoting _
  · exact R.rel_bind (R.rel_doc d) fun _ => R.rel_bind (R.rel_write s _) fun _ =>
      R.rel_pure s true
  · refine R.rel_bind (R.rel_doc d) fun _ => ?_
    split <;> exact R.rel_enclosed h _ _

/-- A case of an integer enum, or the notice that there is none for the child. -/
theorem rel_enumCase (owner child : Declaration) :
    R.rel s (enumCase owner child) (enumCase owner child) := by
  unfold enumCase
  split
  · exact R.rel_bind (R.rel_doc child) fun _ => R.rel_write s _
  · exact R.rel_note s _

/-- A namespace with related children. One of numeric constants is an enum, which has no parts. -/
theorem rel_namespaceDeclaration (h : R.rel s parts.children parts'.children) :
    R.rel s (namespaceDeclaration d parts) (namespaceDeclaration d parts') := by
  unfold namespaceDeclaration
  split
  · exact R.rel_skipNoting _
  · refine R.rel_bind (R.rel_doc d) fun _ => ?_
    split
    · refine R.rel_enclosed (R.rel_all ?_) _ _
      rw [List.forall₂_map_left_iff, List.forall₂_map_right_iff, List.forall₂_same]
      exact fun child _ => R.rel_enumCase d child
    · exact R.rel_enclosed h _ _

/-- Only a binding that has neither a literal nor a default depends on how its type is written. -/
theorem rel_binding (h : R.rel s parts.type parts'.type) :
    R.rel s (binding d parts) (binding d parts') := by
  unfold binding
  split
  · exact R.rel_skipNoting _
  · split
    · exact R.rel_documented d _
    · split
      · exact R.rel_documented d _
      · exact R.rel_bind (R.rel_note s _) fun _ => R.rel_documented d _
    · exact R.rel_bind (R.rel_doc d) fun _ => R.rel_enclosed h _ _
    · exact R.rel_skipNoting _

/-- An enumeration with related children. -/
theorem rel_enumeration (h : R.rel s parts.children parts'.children) :
    R.rel s (enumeration d parts) (enumeration d parts') :=
  R.rel_bind (R.rel_doc d) fun _ => R.rel_enclosed h _ _

theorem rel_enumerationMember (d : Declaration) :
    R.rel s (enumerationMember d) (enumerationMember d) := by
  unfold enumerationMember
  split
  · exact R.rel_documented d _
  · exact R.rel_bind (R.rel_note s _) fun _ => R.rel_documented d _

/-- The rule of every kind keeps the relation. What a reference does is asked for: it
looks up its target. -/
theorem rel_byKind (pair : Pair) (d : Declaration)
    (hr : d.kind = .reference →
      R.rel s (referenceDeclaration pair d) (referenceDeclaration pair d))
    (ht : R.rel s parts.type parts'.type) (hc : R.rel s parts.children parts'.children) :
    R.rel s (byKind pair d parts) (byKind pair d parts') := by
  unfold byKind
  split
  · exact R.rel_pure s false
  · cases hk : d.kind with
    | reference => exact hr hk
    | interface => exact R.rel_interface hc
    | property => exact R.rel_property ht
    | typeAlias => exact R.rel_typeAlias pair ht
    | typeLiteral => exact R.rel_typeLiteral hc
    | nameSpace => exact R.rel_namespaceDeclaration hc
    | binding => exact R.rel_binding ht
    | enumeration => exact R.rel_enumeration hc
    | enumerationMember => exact R.rel_enumerationMember d
    | other kind => exact R.rel_skipNoting _
    | _ => exact R.rel_pure s false

/-! ## The recursion -/

/-- Children that are related id by id stay so when they are sorted. -/
theorem rel_inOrder {xs ys : List (Nat × Emission Bool)}
    (h : List.Forall₂ (fun a b => a.1 = b.1 ∧ R.rel s a.2 b.2) xs ys) :
    R.rel s (inOrder xs) (inOrder ys) := by
  have hsorted : List.Forall₂ (fun a b => a.1 = b.1 ∧ R.rel s a.2 b.2)
      (xs.mergeSort fun a b => a.1 ≤ b.1) (ys.mergeSort fun a b => a.1 ≤ b.1) :=
    forall₂_mergeSort (fun _ _ hab => hab.1) h
  refine R.rel_all ?_
  rw [List.forall₂_map_left_iff, List.forall₂_map_right_iff]
  exact hsorted.imp fun _ _ hab => R.rel_void hab.2

/-- Wherever something is looked up in a part, the two sides are related: for the
target of a reference, and for the members of an intersection. -/
structure Covers (pair : Pair) (inline inline' : Inliner) (s : Schema) (p : Part) : Prop where
  target : ∀ d, p.Reaches (.declaration d) → d.kind = .reference →
    R.rel s (referenceDeclaration pair d) (referenceDeclaration pair d)
  member : ∀ members, p.Reaches (.type (.intersection members)) → ∀ name arguments,
    .reference name arguments ∈ members → R.rel s (inline name) (inline' name)

variable {R} {pair : Pair} {inline inline' : Inliner}

/-- Parts of what is covered are covered. -/
theorem Covers.of_holds {p q : Part} (h : R.Covers pair inline inline' s p) (hpq : p.Holds q) :
    R.Covers pair inline inline' s q where
  target d hd := h.target d (.head hpq hd)
  member members hm := h.member members (.head hpq hm)

mutual

/-- By recursion over types and declarations, what is covered is written by related emissions. -/
theorem Covers.rel_type : ∀ {t : TypeNode}, R.Covers pair inline inline' s (.type t) →
    R.rel s (type pair inline t) (type pair inline' t)
  | .intrinsic _, _ => R.rel_write s _
  | .reference name arguments, h =>
    R.rel_reference name (forall₂_types arguments fun _ ht => h.of_holds (.argument ht))
  | .array element, h => R.rel_array (h.of_holds (.element element)).rel_type
  | .literal _, _ => R.rel_write s _
  | .union members, h =>
    R.rel_union (R.forall₂_zip_sameCase members
      (forall₂_types members fun _ ht => h.of_holds (.unionMember ht)))
  | .tuple elements, h =>
    R.rel_tuple (forall₂_types elements fun _ ht => h.of_holds (.tupleElement ht))
  | .intersection members, h => R.rel_intersection (h.member members .refl)
  | .indexedAccess _ _, _ => R.rel_placeholder _ _
  | .query _, _ => R.rel_placeholder _ _
  | .reflection d, h => R.rel_void (h.of_holds (.inline d)).rel_declaration

theorem forall₂_types : ∀ ts : List TypeNode,
    (∀ t ∈ ts, R.Covers pair inline inline' s (.type t)) →
      List.Forall₂ (R.rel s) (types pair inline ts) (types pair inline' ts)
  | [], _ => by simp [types]
  | t :: ts, h => by
    rw [types, types]
    exact .cons (h t List.mem_cons_self).rel_type
      (forall₂_types ts fun u hu => h u (List.mem_cons_of_mem t hu))

theorem rel_optionalType : ∀ t : Option TypeNode,
    (∀ u, t = some u → R.Covers pair inline inline' s (.type u)) →
      R.rel s (optionalType pair inline t) (optionalType pair inline' t)
  | none, _ => R.rel_pure s ()
  | some t, h => (h t rfl).rel_type

theorem Covers.rel_declaration : ∀ {d : Declaration},
    R.Covers pair inline inline' s (.declaration d) →
      R.rel s (declaration pair inline d) (declaration pair inline' d)
  | { children, type, .. }, h => by
    rw [declaration_eq, declaration_eq]
    exact R.rel_byKind pair _ (h.target _ .refl)
      (rel_optionalType type fun _ ht => h.of_holds (.typeOf ht))
      (R.rel_inOrder (forall₂_declarations children fun _ hc => h.of_holds (.child hc)))

theorem forall₂_declarations : ∀ ds : List Declaration,
    (∀ d ∈ ds, R.Covers pair inline inline' s (.declaration d)) →
      List.Forall₂ (fun a b => a.1 = b.1 ∧ R.rel s a.2 b.2) (declarations pair inline ds)
        (declarations pair inline' ds)
  | [], _ => by simp [declarations]
  | d :: ds, h => by
    rw [declarations, declarations]
    exact .cons ⟨rfl, (h d List.mem_cons_self).rel_declaration⟩
      (forall₂_declarations ds fun c hc => h c (List.mem_cons_of_mem d hc))

end

/-- The fields of an interface whose children are covered. -/
theorem rel_fields {d : Declaration}
    (h : ∀ c ∈ d.children, R.Covers pair inline inline' s (.declaration c)) :
    R.rel s (fields pair inline d) (fields pair inline' d) :=
  R.rel_inOrder (forall₂_declarations d.children h)

end StepRelation

end ZigReflect
