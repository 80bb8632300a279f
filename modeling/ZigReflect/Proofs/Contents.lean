import ZigReflect.Document.Pair

/-!
# What a reflection holds

Types hold declarations and declarations hold types, so what stands anywhere in
a reflection is gathered by one recursion over both. The names of the intrinsic
types (`intrinsics`) and the ids of the declarations (`ids`) are two cases of it.
A lookup in a document finds a part of its root.
-/

namespace ZigReflect

section

variable {α : Type} (intrinsic : String → List α) (declared : Nat → List α)

mutual

/-- What the intrinsic types and the declarations of a type give, in order. -/
def TypeNode.gather : TypeNode → List α
  | .intrinsic name => intrinsic name
  | .reference _ arguments => gatherTypes arguments
  | .array element => element.gather
  | .literal _ => []
  | .union members => gatherTypes members
  | .tuple elements => gatherTypes elements
  | .intersection members => gatherTypes members
  | .indexedAccess object index => gatherType? object ++ gatherType? index
  | .query subject => gatherType? subject
  | .reflection d => d.gather

/-- What the types of a list give. -/
def gatherTypes : List TypeNode → List α
  | [] => []
  | t :: ts => t.gather ++ gatherTypes ts

/-- What a type gives, if there is one. -/
def gatherType? : Option TypeNode → List α
  | none => []
  | some t => t.gather

/-- What a declaration gives with all that it holds. -/
def Declaration.gather : Declaration → List α
  | { id, children, type, signatures, .. } =>
    declared id ++
      (gatherType? type ++ (gatherDeclarations children ++ gatherDeclarations signatures))

/-- What the declarations of a list give. -/
def gatherDeclarations : List Declaration → List α
  | [] => []
  | d :: ds => d.gather ++ gatherDeclarations ds

end

/-- What a declaration holds is its own, that of its type, of its children and of its signatures. -/
theorem Declaration.gather_eq (d : Declaration) :
    d.gather intrinsic declared =
      declared d.id ++ (gatherType? intrinsic declared d.type ++
        (gatherDeclarations intrinsic declared d.children ++
          gatherDeclarations intrinsic declared d.signatures)) := by
  cases d
  rw [Declaration.gather]

theorem gatherDeclarations_eq_flatMap : ∀ ds : List Declaration,
    gatherDeclarations intrinsic declared ds = ds.flatMap (·.gather intrinsic declared)
  | [] => by rw [gatherDeclarations, List.flatMap_nil]
  | d :: ds => by rw [gatherDeclarations, gatherDeclarations_eq_flatMap ds, List.flatMap_cons]

/-! ## Parts of a declaration -/

/-- What a child holds is held by its parent, in one order. -/
theorem Declaration.gather_sublist_of_mem {child d : Declaration} (h : child ∈ d.children) :
    (child.gather intrinsic declared).Sublist (d.gather intrinsic declared) := by
  rw [d.gather_eq, gatherDeclarations_eq_flatMap]
  have hchild : (child.gather intrinsic declared).Sublist
      (d.children.flatMap (·.gather intrinsic declared)) :=
    List.sublist_flatten_of_mem (List.mem_map_of_mem h)
  exact (hchild.trans (List.sublist_append_left _ _)).trans
    ((List.sublist_append_right _ _).trans (List.sublist_append_right _ _))

/-- What is found below a declaration gives a part of what the declaration gives. -/
theorem Declaration.gather_sublist_of_at? : ∀ {path : Path} {d below : Declaration},
    d.at? path = some below →
      (below.gather intrinsic declared).Sublist (d.gather intrinsic declared)
  | [], d, below, h => by
    cases h
    exact List.Sublist.refl _
  | i :: path, d, below, h => by
    obtain ⟨child, hc, h⟩ := Option.bind_eq_some_iff.1 h
    exact (gather_sublist_of_at? h).trans (gather_sublist_of_mem _ _ (List.mem_of_getElem? hc))

/-- What is found by name holds nothing that the document does not. -/
theorem Document.gather_sublist_of_mem_byName {doc : Document} {name : String} {d : Declaration}
    (h : d ∈ doc.byName name) :
    (d.gather intrinsic declared).Sublist (doc.root.gather intrinsic declared) := by
  obtain ⟨path, -, hd⟩ := List.mem_filterMap.1 h
  exact Declaration.gather_sublist_of_at? _ _ hd

end

/-! ## Lookups -/

/-- The preferred candidate is one of them. -/
theorem Pair.mem_of_preferred {candidates : List Declaration} {d : Declaration}
    (h : Pair.preferred candidates = some d) : d ∈ candidates := by
  rcases Option.or_eq_some_iff.1 h with h | ⟨-, h⟩
  · exact List.mem_of_find?_eq_some h
  · rcases Option.or_eq_some_iff.1 h with h | ⟨-, h⟩
    · exact List.mem_of_find?_eq_some h
    · exact List.mem_of_mem_head? h

theorem Pair.eq_nil_of_preferred {candidates : List Declaration}
    (h : Pair.preferred candidates = none) : candidates = [] := by
  rw [preferred, Option.or_eq_none_iff, Option.or_eq_none_iff] at h
  exact List.head?_eq_none_iff.1 h.2.2

/-- A name resolves to a declaration of that name. -/
theorem Pair.mem_byName_of_resolveName {pair : Pair} {schema : Schema} {name : String}
    {d : Declaration} (h : pair.resolveName schema name = .ok d) :
    d ∈ (pair.document schema).byName name := by
  unfold resolveName at h
  dsimp only at h
  split at h
  · next found hf =>
    cases h
    exact mem_of_preferred hf
  · cases h

/-- The member of an intersection is one of the declarations of its name in the
document that it is found in. -/
theorem Pair.mem_byName_of_locateMember {pair : Pair} {schema home : Schema} {name : String}
    {d : Declaration} (h : pair.locateMember schema name = .ok (home, d)) :
    d ∈ (pair.document home).byName name := by
  unfold locateMember at h
  split at h
  · next found hf =>
    cases h
    exact mem_byName_of_resolveName hf
  · split at h
    · next found hf =>
      cases h
      exact mem_byName_of_resolveName hf
    · cases h

/-- The names of the intrinsic types in a type. -/
def TypeNode.intrinsics (t : TypeNode) : List String :=
  t.gather (fun name => [name]) fun _ => []

/-- The names of the intrinsic types in a declaration. -/
def Declaration.intrinsics (d : Declaration) : List String :=
  d.gather (fun name => [name]) fun _ => []

/-- The ids of the declarations that a type holds. -/
def TypeNode.ids (t : TypeNode) : List Nat :=
  t.gather (fun _ => []) fun id => [id]

/-- The ids of a declaration and of all declarations that it holds. -/
def Declaration.ids (d : Declaration) : List Nat :=
  d.gather (fun _ => []) fun id => [id]

theorem map_id_sublist_gatherDeclarations : ∀ ds : List Declaration,
    (ds.map (·.id)).Sublist (gatherDeclarations (fun _ => []) (fun id => [id]) ds)
  | [] => List.Sublist.refl _
  | d :: ds => by
    rw [gatherDeclarations, d.gather_eq]
    exact (map_id_sublist_gatherDeclarations ds).trans (List.sublist_append_right _ _)
      |>.cons_cons d.id

/-- If the ids of a declaration are distinct, so are those of its type and of its
children, and no two children share one. -/
theorem Declaration.nodup_parts {d : Declaration} (h : d.ids.Nodup) :
    (gatherType? (fun _ => []) (fun id => [id]) d.type).Nodup ∧
      (gatherDeclarations (fun _ => []) (fun id => [id]) d.children).Nodup ∧
      (d.children.map (·.id)).Nodup := by
  rw [Declaration.ids, Declaration.gather_eq, List.nodup_append, List.nodup_append,
    List.nodup_append] at h
  have hchildren := h.2.1.2.1.1
  exact ⟨h.2.1.1, hchildren, hchildren.sublist (map_id_sublist_gatherDeclarations d.children)⟩

end ZigReflect
