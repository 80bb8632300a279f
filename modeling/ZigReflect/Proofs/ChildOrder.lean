import ZigReflect.Proofs.Lookup
import ZigReflect.Walk

/-!
# The order of children does not matter

Two pairs of documents are alike (`Pair.Alike`) if their roots are reordered, with
distinct ids in each document, and lookups find reordered declarations. Every rule
reads a declaration only in ways that reordering leaves as they are, so reordered
types and declarations are lowered to the same emission, by recursion over them
and over the depth of intersections. The visits of a run are reordered one by one.
So documents that differ in the order of children generate the same
(`generate_eq_of_reordered`).
-/

set_option linter.unusedSectionVars false

namespace ZigReflect

/-! ## Lookups in pairs of documents -/

/-- Both fail with one failure, or both have results, which are related. -/
inductive SameOutcome {α : Type} (R : α → α → Prop) :
    Except Failure α → Except Failure α → Prop
  | error (f : Failure) : SameOutcome R (.error f) (.error f)
  | ok {a b : α} : R a b → SameOutcome R (.ok a) (.ok b)

/-- The documents of two pairs are reordered, and so is what lookups find in them. -/
structure Pair.Alike (p q : Pair) : Prop where
  roots : ∀ schema, (p.document schema).root.Reordered (q.document schema).root
  distinct : ∀ schema, (p.document schema).root.ids.Nodup
  byId : ∀ schema id, Option.Rel Declaration.Reordered ((p.document schema).byId id)
    ((q.document schema).byId id)
  byName : ∀ schema name, List.Forall₂ Declaration.Reordered ((p.document schema).byName name)
    ((q.document schema).byName name)
  keys : ∀ schema, (p.document schema).names.keys = (q.document schema).names.keys

/-- Reordered documents in which no id occurs twice are alike. -/
theorem Pair.alike_ofRoot {t u c d : Declaration} (htu : t.Reordered u) (hcd : c.Reordered d)
    (ht : t.ids.Nodup) (hc : c.ids.Nodup) :
    Pair.Alike ⟨.ofRoot t, .ofRoot c⟩ ⟨.ofRoot u, .ofRoot d⟩ where
  roots
    | .types => htu
    | .protocol => hcd
  distinct
    | .types => ht
    | .protocol => hc
  byId
    | .types => htu.byId_rel ht
    | .protocol => hcd.byId_rel hc
  byName
    | .types => htu.forall₂_byName ht
    | .protocol => hcd.forall₂_byName hc
  keys
    | .types => htu.keys_names_eq ht
    | .protocol => hcd.keys_names_eq hc

theorem rel_or {α : Type} {R : α → α → Prop} {a b a' b' : Option α} (h : Option.Rel R a b)
    (h' : Option.Rel R a' b') : Option.Rel R (a.or a') (b.or b') := by
  cases h with
  | none => exact h'
  | some hab => exact .some hab

/-- The candidates are tried in one order, so the preferred ones correspond. -/
theorem Pair.preferred_rel {cs ds : List Declaration}
    (h : List.Forall₂ Declaration.Reordered cs ds) :
    Option.Rel Declaration.Reordered (Pair.preferred cs) (Pair.preferred ds) := by
  have hinterface := forall₂_find? (p := (·.kind == .interface)) (q := (·.kind == .interface))
    (fun _ _ hcd => by rw [hcd.kind_eq]) h
  have hparent := forall₂_find? (p := (!·.children.isEmpty)) (q := (!·.children.isEmpty))
    (fun _ _ hcd => by rw [hcd.children_isEmpty_eq]) h
  refine rel_or hinterface (rel_or hparent ?_)
  cases h with
  | nil => exact .none
  | cons hcd _ => exact .some hcd

namespace Pair.Alike

variable {p q : Pair} (h : p.Alike q)
include h

/-- Ids resolve to corresponding declarations, or fail alike. -/
theorem resolveId_outcome (schema : Schema) (id : Nat) :
    SameOutcome Declaration.Reordered (p.resolveId schema id) (q.resolveId schema id) := by
  unfold resolveId
  generalize (p.document schema).byId id = found, (q.document schema).byId id = found',
    h.byId schema id = hrel
  cases hrel with
  | none => exact .error _
  | some hcd => exact .ok hcd

/-- Which names have a data namespace does not depend on the order. -/
theorem hasDataNamespace_eq (schema : Schema) (name : String) :
    (p.document schema).hasDataNamespace name = (q.document schema).hasDataNamespace name :=
  Shuffled.any_eq (fun _ _ hcd => by rw [hcd.kind_eq, hcd.hasCallableChild_eq])
    ⟨_, h.byName schema name, .refl _⟩

/-- Searches answer alike: they see the names only. -/
theorem search_eq (schema : Schema) (query : String) (limit : Nat) :
    (p.document schema).search query limit = (q.document schema).search query limit := by
  unfold Document.search
  rw [h.keys schema]

theorem depth_eq : p.depth = q.depth := by
  unfold depth
  rw [← Std.TreeMap.length_keys, ← Std.TreeMap.length_keys, ← Std.TreeMap.length_keys,
    ← Std.TreeMap.length_keys]
  exact congrArg₂ (fun a b => List.length a + List.length b + 1) (h.keys .types)
    (h.keys .protocol)

/-- Names resolve to corresponding declarations, or fail alike. -/
theorem resolveName_outcome (schema : Schema) (name : String) :
    SameOutcome Declaration.Reordered (p.resolveName schema name)
      (q.resolveName schema name) := by
  have hrel := preferred_rel (h.byName schema name)
  unfold resolveName
  dsimp only
  rw [h.search_eq]
  generalize preferred ((p.document schema).byName name) = found,
    preferred ((q.document schema).byName name) = found' at hrel
  cases hrel with
  | none => exact .error _
  | some hcd => exact .ok hcd

/-- The members of an intersection are found in the same document. -/
theorem locateMember_outcome (schema : Schema) (name : String) :
    SameOutcome (fun a b => a.1 = b.1 ∧ a.2.Reordered b.2) (p.locateMember schema name)
      (q.locateMember schema name) := by
  unfold locateMember
  generalize p.resolveName schema.companion name = x, q.resolveName schema.companion name = y,
    h.resolveName_outcome schema.companion name = hcompanion
  cases hcompanion with
  | ok hcd => exact .ok ⟨rfl, hcd⟩
  | error f =>
    generalize p.resolveName schema name = x, q.resolveName schema name = y,
      h.resolveName_outcome schema name = hown
    cases hown with
    | ok hcd => exact .ok ⟨rfl, hcd⟩
    | error _ => exact .error f

end Pair.Alike

/-- What follows a lookup is the same if it is the same for all that can be found. -/
theorem SameOutcome.bind_eq {α β : Type} {R : α → α → Prop} {x y : Except Failure α}
    {f g : α → Emission β} (h : SameOutcome R x y)
    (hfg : ∀ a b, x = .ok a → R a b → f a = g b) :
    Emission.ofExcept x >>= f = Emission.ofExcept y >>= g := by
  cases h with
  | error r => rfl
  | ok hab =>
    rw [Emission.ofExcept, Emission.ofExcept, pure_bind, pure_bind]
    exact hfg _ _ rfl hab

namespace Lowering

/-! ## The rules for types -/

/-- The members are reordered and are written as the same. -/
def SameCase (m n : TypeNode × Emission Unit) : Prop :=
  m.1.Reordered n.1 ∧ m.2 = n.2

theorem forall₂_zip_sameCase : ∀ {ts us : List TypeNode} (xs : List (Emission Unit)),
    List.Forall₂ TypeNode.Reordered ts us → List.Forall₂ SameCase (ts.zip xs) (us.zip xs)
  | _, _, _, .nil => .nil
  | _, _, [], .cons _ _ => .nil
  | _, _, _ :: xs, .cons htu h => .cons ⟨htu, rfl⟩ (forall₂_zip_sameCase xs h)

/-- A tagged union sees the types of its members by their names only. -/
theorem taggedUnion_eq {ms ns : List (TypeNode × Emission Unit)}
    (h : List.Forall₂ SameCase ms ns) : taggedUnion ms = taggedUnion ns := by
  have hnames : (ms.map (·.1)).map baseName = (ns.map (·.1)).map baseName := by
    rw [List.map_map, List.map_map]
    refine map_eq_of_forall₂ (fun m n hmn => ?_) h
    simp only [Function.comp, baseName, hmn.1.ownName_eq, hmn.1.shapeName_eq]
  have hpayloads : ms.map (·.2) = ns.map (·.2) := map_eq_of_forall₂ (fun _ _ hmn => hmn.2) h
  unfold taggedUnion caseNames
  rw [hnames, hpayloads]

/-- The form of a union is decided by what is the same of its members. -/
theorem union_eq {ms ns : List (TypeNode × Emission Unit)} (h : List.Forall₂ SameCase ms ns) :
    union ms = union ns := by
  have hliteral : ms.map (·.1.literalValue?) = ns.map (·.1.literalValue?) :=
    map_eq_of_forall₂ (fun _ _ hmn => hmn.1.literalValue?_eq) h
  have hall : ms.all (·.1.isLiteral) = ns.all (·.1.isLiteral) := by
    simpa [Function.comp_def, TypeNode.isLiteral] using congrArg (List.all · Option.isSome) hliteral
  have hvalues : ms.filterMap (·.1.literalValue?) = ns.filterMap (·.1.literalValue?) := by
    simpa [Function.comp_def] using congrArg (List.filterMap id) hliteral
  have hnull : ms.any (·.1.isNull) = ns.any (·.1.isNull) :=
    Shuffled.any_eq (fun _ _ hmn => hmn.1.isNull_eq) ⟨_, h, .refl _⟩
  have hcases := List.rel_filter (p := fun m => !m.1.isNull) (q := fun m => !m.1.isNull)
    (fun _ _ hmn => by simp [hmn.1.isNull_eq]) h
  have htagged := taggedUnion_eq hcases
  unfold union
  rw [hall, hvalues, hnull]
  dsimp only
  generalize ms.filter (fun m => !m.1.isNull) = cs, ns.filter (fun m => !m.1.isNull) = ds
    at hcases htagged
  rw [htagged]
  cases hcases with
  | nil => rfl
  | cons hmn hrest =>
    cases hrest with
    | nil => simp only [hmn.2]
    | cons _ _ => simp only [htagged]

/-- An intersection sees the names of its members only. -/
theorem intersection_eq (inline : Inliner) {ts us : List TypeNode}
    (h : List.Forall₂ TypeNode.Reordered ts us) :
    intersection inline ts = intersection inline us := by
  have hmembers : ts.map (intersectionMember inline) = us.map (intersectionMember inline) :=
    map_eq_of_forall₂ (fun _ _ htu => by cases htu <;> rfl) h
  unfold intersection
  rw [hmembers]

/-! ## The rules for declarations -/

section

variable {p q : Pair} (h : p.Alike q) {c d : Declaration} (hcd : c.Reordered d) (parts : Parts)

include h hcd in
/-- A reference is written by the name of its target. -/
theorem referenceDeclaration_eq : referenceDeclaration p c = referenceDeclaration q d := by
  cases hcd
  unfold referenceDeclaration
  cases c.target with
  | none => rfl
  | some id =>
    refine bind_congr fun schema => (h.resolveId_outcome schema id).bind_eq ?_
    intro target target' _ htarget
    rw [htarget.name_eq]
    rfl

include h hcd in
theorem typeAlias_eq : typeAlias p c parts = typeAlias q d parts := by
  have htype := hcd.type_rel
  cases hcd
  unfold typeAlias
  generalize c.type = t at htype
  cases htype with
  | none => rfl
  | some htu =>
    simp only [h.hasDataNamespace_eq]
    cases htu <;> rfl

include hcd

theorem interface_eq : interface c parts = interface d parts := by
  cases hcd
  rfl

theorem typeLiteral_eq : typeLiteral c parts = typeLiteral d parts := by
  unfold typeLiteral
  rw [hcd.children_isEmpty_eq, hcd.name_eq]

theorem property_eq : property c parts = property d parts := by
  have htype := hcd.type_rel
  cases hcd
  unfold property
  generalize c.type = t at htype
  cases htype with
  | none => rfl
  | some htu => cases htu <;> rfl

theorem enumCase_eq (owner : Declaration) : enumCase owner c = enumCase owner d := by
  unfold enumCase
  rw [hcd.literalType_eq, hcd.name_eq]
  cases hcd
  rfl

/-- The members of a numeric namespace are written in the order of their ids. -/
theorem namespaceDeclaration_eq (hids : (c.children.map (·.id)).Nodup) :
    namespaceDeclaration c parts = namespaceDeclaration d parts := by
  have hcases : c.sortedChildren.map (enumCase c) = d.sortedChildren.map (enumCase d) := by
    refine map_eq_of_forall₂ (fun a b hab => ?_) (hcd.forall₂_sortedChildren hids)
    rw [enumCase_eq hab]
    cases hcd
    rfl
  have hnumeric : c.children.any isNumericMember = d.children.any isNumericMember :=
    hcd.shuffled_children.any_eq fun _ _ hab => by
      rw [isNumericMember, isNumericMember, hab.literalType_eq]
  unfold namespaceDeclaration
  rw [hcases, hnumeric, hcd.hasCallableChild_eq]
  cases hcd
  rfl

theorem binding_eq : binding c parts = binding d parts := by
  have htype := hcd.type_rel
  unfold binding
  rw [hcd.isCallable_eq, hcd.literalType_eq]
  generalize d.isCallable = callable, d.literalType = value
  cases hcd
  generalize c.type = t at htype
  cases htype with
  | none => rfl
  | some _ => cases value <;> cases c.defaultValue <;> rfl

/-- The children of an enumeration are parts, so its rule does not see their order. -/
theorem enumeration_eq : enumeration c parts = enumeration d parts := by
  cases hcd
  rfl

theorem enumerationMember_eq : enumerationMember c = enumerationMember d := by
  unfold enumerationMember memberValue?
  rw [hcd.literalType_eq]
  cases hcd
  rfl

include h in
/-- The rule of every kind writes reordered declarations alike, given the parts. -/
theorem byKind_eq (hids : (c.children.map (·.id)).Nodup) :
    byKind p c parts = byKind q d parts := by
  unfold byKind
  rw [hcd.name_eq, hcd.kind_eq]
  cases d.kind with
  | reference => rw [referenceDeclaration_eq h hcd]
  | interface => rw [interface_eq hcd]
  | property => rw [property_eq hcd]
  | typeAlias => rw [typeAlias_eq h hcd]
  | typeLiteral => rw [typeLiteral_eq hcd]
  | nameSpace => rw [namespaceDeclaration_eq hcd parts hids]
  | binding => rw [binding_eq hcd]
  | enumeration => rw [enumeration_eq hcd]
  | enumerationMember => rw [enumerationMember_eq hcd]
  | _ => rfl

end

/-! ## The recursion -/

/-- Children with different ids are written in the order of the ids. -/
theorem inOrder_eq_of_perm {xs ys : List (Nat × Emission Bool)} (h : xs.Perm ys)
    (hids : (xs.map (·.1)).Nodup) : inOrder xs = inOrder ys := by
  unfold inOrder
  rw [mergeSort_eq_of_perm h hids]

theorem declarations_eq_map (pair : Pair) (inline : Inliner) : ∀ ds : List Declaration,
    declarations pair inline ds = ds.map fun d => (d.id, declaration pair inline d)
  | [] => by rw [declarations, List.map_nil]
  | d :: ds => by rw [declarations, declarations_eq_map pair inline ds, List.map_cons]

/-- Children that are written alike one by one are written alike in the order of
their ids, in whatever order they stand. -/
theorem inOrder_declarations_eq {p q : Pair} {inline : Inliner} {cs middle ds : List Declaration}
    (hcs : declarations p inline cs = declarations q inline middle) (hperm : middle.Perm ds)
    (hids : (cs.map (·.id)).Nodup) :
    inOrder (declarations p inline cs) = inOrder (declarations q inline ds) := by
  have hkeys : ((declarations p inline cs).map (·.1)).Nodup := by
    rw [declarations_eq_map, List.map_map]
    exact hids
  rw [hcs] at hkeys ⊢
  refine inOrder_eq_of_perm ?_ hkeys
  rw [declarations_eq_map, declarations_eq_map]
  exact hperm.map _

section

variable {p q : Pair} (h : p.Alike q) (inline : Inliner)
include h

mutual

/-- By recursion over types and declarations, both sides write the same if no id occurs twice. -/
theorem type_eq : ∀ (t : TypeNode) {u : TypeNode}, t.Reordered u → t.ids.Nodup →
    type p inline t = type q inline u
  | _, _, .intrinsic _, _ => rfl
  | .reference name ts, _, .reference _ hts, hids => by
    rw [type, type, types_eq ts hts hids]
  | .array t, _, .array ht, hids => by
    rw [type, type, type_eq t ht hids]
  | _, _, .literal _, _ => rfl
  | .union ts, _, .union hts, hids => by
    rw [type, type, types_eq ts hts hids]
    exact union_eq (forall₂_zip_sameCase _ hts)
  | .tuple ts, _, .tuple hts, hids => by
    rw [type, type, types_eq ts hts hids]
  | _, _, .intersection hts, _ => by
    rw [type, type, intersection_eq inline hts]
  | _, _, .indexedAccess _ _, _ => rfl
  | _, _, .query _, _ => rfl
  | .reflection c, _, .reflection hcd, hids => by
    rw [type, type, declaration_congr c hcd hids]

theorem types_eq : ∀ (ts : List TypeNode) {us : List TypeNode},
    List.Forall₂ TypeNode.Reordered ts us →
    (gatherTypes (fun _ => []) (fun id => [id]) ts).Nodup →
    types p inline ts = types q inline us
  | [], _, .nil, _ => rfl
  | t :: ts, _, .cons htu hts, hids => by
    rw [gatherTypes, List.nodup_append] at hids
    rw [types, types, type_eq t htu hids.1, types_eq ts hts hids.2.1]

theorem optionalType_eq : ∀ (t : Option TypeNode) {u : Option TypeNode},
    Option.Rel TypeNode.Reordered t u →
    (gatherType? (fun _ => []) (fun id => [id]) t).Nodup →
    optionalType p inline t = optionalType q inline u
  | none, _, .none, _ => rfl
  | some t, _, .some htu, hids => type_eq t htu hids

/-- The children are first written as in a list in the same order, and sorting undoes the rest. -/
theorem declaration_congr : ∀ (c : Declaration) {d : Declaration}, c.Reordered d →
    c.ids.Nodup → declaration p inline c = declaration q inline d
  | { children, type, .. }, d, hcd, hids => by
    obtain ⟨htype, hchildren, hsiblings⟩ := Declaration.nodup_parts hids
    obtain ⟨middle, hmiddle, hperm⟩ := hcd.shuffled_children
    have ht := optionalType_eq type hcd.type_rel htype
    have hc := inOrder_declarations_eq (declarations_congr children hmiddle hchildren) hperm
      hsiblings
    rw [declaration_eq, declaration_eq, byKind_eq h hcd _ hsiblings, ← ht, ← hc]

theorem declarations_congr : ∀ (cs : List Declaration) {ds : List Declaration},
    List.Forall₂ Declaration.Reordered cs ds →
    (gatherDeclarations (fun _ => []) (fun id => [id]) cs).Nodup →
    declarations p inline cs = declarations q inline ds
  | [], _, .nil, _ => rfl
  | c :: cs, _, .cons hcd hcs, hids => by
    rw [gatherDeclarations, List.nodup_append] at hids
    rw [declarations, declarations, hcd.id_eq, declaration_congr c hcd hids.1,
      declarations_congr cs hcs hids.2.1]

end

/-- The fields of corresponding declarations are written alike. -/
theorem fields_eq {c d : Declaration} (hcd : c.Reordered d) (hids : c.ids.Nodup) :
    fields p inline c = fields q inline d := by
  obtain ⟨-, hchildren, hsiblings⟩ := Declaration.nodup_parts hids
  obtain ⟨middle, hmiddle, hperm⟩ := hcd.shuffled_children
  exact inOrder_declarations_eq (declarations_congr h inline c.children hmiddle hchildren) hperm
    hsiblings

end

/-- The fields of an intersection member are written alike: the member is found in
the same document, and it is reordered. -/
theorem inliner_eq {p q : Pair} (h : p.Alike q) : ∀ depth : Nat,
    inliner p depth = inliner q depth
  | 0 => rfl
  | depth + 1 => by
    funext name
    refine bind_congr fun schema => (h.locateMember_outcome schema name).bind_eq ?_
    rintro ⟨home, c⟩ ⟨home', d⟩ hfound ⟨rfl, hcd⟩
    have hids : c.ids.Nodup := (h.distinct home).sublist
      (Document.gather_sublist_of_mem_byName _ _ (Pair.mem_byName_of_locateMember hfound))
    dsimp only
    rw [inliner_eq h depth, fields_eq h _ hcd hids]

end Lowering

namespace Pair.Alike

variable {p q : Pair} (h : p.Alike q)
include h

/-! ## Runs -/

theorem emitDeclaration_eq {c d : Declaration} (hcd : c.Reordered d) (hids : c.ids.Nodup) :
    p.emitDeclaration c = q.emitDeclaration d := by
  unfold emitDeclaration
  rw [h.depth_eq, Lowering.inliner_eq h]
  exact Lowering.declaration_congr h _ c hcd hids

/-- Corresponding declarations are written alike at the top level. -/
theorem emitTopLevel_eq {c d : Declaration} (hcd : c.Reordered d) (hids : c.ids.Nodup) :
    p.emitTopLevel c = q.emitTopLevel d := by
  unfold emitTopLevel
  rw [h.emitDeclaration_eq hcd hids, hcd.name_eq]

/-- A filter sees the name and the sources, so it excludes both or neither. -/
theorem visit_eq (filter : Filter) {c d : Declaration} (hcd : c.Reordered d)
    (hids : c.ids.Nodup) : p.visit filter.exclusion? c = q.visit filter.exclusion? d := by
  have hexcluded : filter.exclusion? c = filter.exclusion? d := by
    unfold Filter.exclusion?
    rw [hcd.name_eq, hcd.sources_eq]
  unfold visit
  rw [hexcluded, h.emitTopLevel_eq hcd hids, hcd.name_eq, hcd.kind_eq]

theorem visitAll_eq (filter : Filter) {cs ds : List Declaration}
    (hcs : List.Forall₂ Declaration.Reordered cs ds) (hids : ∀ c ∈ cs, c.ids.Nodup) :
    p.visitAll filter.exclusion? cs = q.visitAll filter.exclusion? ds := by
  unfold visitAll
  rw [map_eq_of_forall₂ (fun _ _ hcd => h.visit_eq filter hcd.2 hcd.1)
    ((List.forall₂_and_left cs ds).2 ⟨hids, hcs⟩)]

/-- The top level is visited in the order of the ids, so its visits are the same. -/
theorem visitAll_topLevel_eq (filter : Filter) (schema : Schema) :
    p.visitAll filter.exclusion? (p.document schema).topLevel =
      q.visitAll filter.exclusion? (q.document schema).topLevel := by
  obtain ⟨-, -, hsiblings⟩ := Declaration.nodup_parts (h.distinct schema)
  refine h.visitAll_eq filter ((h.roots schema).forall₂_sortedChildren hsiblings) fun c hc => ?_
  exact (h.distinct schema).sublist
    (Declaration.gather_sublist_of_mem _ _ (List.mem_mergeSort.1 hc))

/-- The internal container is found whatever the order, since it is the only one. -/
theorem visitAll_internalMembers_eq (filter : Filter)
    (hone : p.protocol.root.children.countP (·.name == Declaration.internalName) ≤ 1) :
    p.visitAll filter.exclusion? p.protocol.internalMembers =
      q.visitAll filter.exclusion? q.protocol.internalMembers := by
  have hfound := (h.roots .protocol).shuffled_children.find?_rel
    (q := (·.name == Declaration.internalName)) (fun _ _ hcd => by rw [hcd.name_eq]) hone
  have hpart : ∀ c, p.protocol.internal = some c → c.ids.Nodup := fun c hc =>
    (h.distinct .protocol).sublist
      (Declaration.gather_sublist_of_mem _ _ (List.mem_of_find?_eq_some hc))
  unfold Document.internalMembers
  change Option.Rel _ p.protocol.internal q.protocol.internal at hfound
  generalize p.protocol.internal = container, q.protocol.internal = container' at hfound hpart
  cases hfound with
  | none => exact h.visitAll_eq filter .nil (by simp)
  | some hcd =>
    have hids := hpart _ rfl
    obtain ⟨-, -, hsiblings⟩ := Declaration.nodup_parts hids
    refine h.visitAll_eq filter (hcd.forall₂_sortedChildren hsiblings) fun c hc => ?_
    exact hids.sublist (Declaration.gather_sublist_of_mem _ _ (List.mem_mergeSort.1 hc))

/-- The whole walk is the same, if there is at most one internal container. -/
theorem body_eq (filter : Filter) (summary : SummarySettings)
    (hone : p.protocol.root.children.countP (·.name == Declaration.internalName) ≤ 1) :
    p.body filter.exclusion? summary = q.body filter.exclusion? summary := by
  have htypes := h.visitAll_topLevel_eq filter .types
  have hprotocol := h.visitAll_topLevel_eq filter .protocol
  unfold body walk
  rw [h.visitAll_internalMembers_eq filter hone]
  change p.visitAll _ p.types.topLevel = q.visitAll _ q.types.topLevel at htypes
  change p.visitAll _ p.protocol.topLevel = q.visitAll _ q.protocol.topLevel at hprotocol
  rw [htypes, hprotocol]

end Pair.Alike

/-- Reflections that differ in the order of children at most generate the same, code
or failure, if ids are distinct in each document and the protocol has one internal
container at most. -/
theorem generate_eq_of_reordered {t u c d : Declaration} (htu : t.Reordered u)
    (hcd : c.Reordered d) (ht : t.ids.Nodup) (hc : c.ids.Nodup)
    (hone : c.children.countP (·.name == Declaration.internalName) ≤ 1) (filter : Filter)
    (summary : SummarySettings) (preamble : String) :
    Pair.generate ⟨.ofRoot t, .ofRoot c⟩ filter.exclusion? summary preamble =
      Pair.generate ⟨.ofRoot u, .ofRoot d⟩ filter.exclusion? summary preamble := by
  unfold Pair.generate
  rw [(Pair.alike_ofRoot htu hcd ht hc).body_eq filter summary hone]

/-- An interface and an inline type change places, and so do the fields of both. -/
theorem generate_eq_of_swapped :
    let field (id : Nat) : Declaration :=
      { id, name := "field", kind := .property, type := some (.intrinsic "string") }
    let owner (fields : List Declaration) : Declaration :=
      { id := 1, name := "Owner", kind := .interface, children := fields }
    let inline (fields : List Declaration) : Declaration :=
      { id := 4, name := "inline", kind := .binding
        type := some (.reflection
          { id := 5, name := "__type", kind := .typeLiteral, children := fields }) }
    let t : Declaration :=
      { id := 0, name := "types"
        children := [owner [field 2, field 3], inline [field 6, field 7]] }
    let u : Declaration :=
      { id := 0, name := "types"
        children := [inline [field 7, field 6], owner [field 3, field 2]] }
    let c : Declaration := { id := 0, name := "protocol" }
    t.Reordered u ∧ c.Reordered c ∧ t.ids.Nodup ∧ c.ids.Nodup ∧
      c.children.countP (·.name == Declaration.internalName) ≤ 1 ∧
      Pair.generate ⟨.ofRoot t, .ofRoot c⟩ (Filter.mk [] []).exclusion? {} "" =
        Pair.generate ⟨.ofRoot u, .ofRoot c⟩ (Filter.mk [] []).exclusion? {} "" := by
  intro field owner inline t u c
  have hfields : ∀ i j : Nat,
      List.Forall₂ Declaration.Reordered [field i, field j] [field i, field j] := fun i j =>
    .cons (.mk .nil .nil (.some (.intrinsic _)) .nil)
      (.cons (.mk .nil .nil (.some (.intrinsic _)) .nil) .nil)
  have howner : (owner [field 2, field 3]).Reordered (owner [field 3, field 2]) :=
    .mk (hfields 2 3) (.swap _ _ _) .none .nil
  have hinline : (inline [field 6, field 7]).Reordered (inline [field 7, field 6]) :=
    .mk .nil .nil (.some (.reflection (.mk (hfields 6 7) (.swap _ _ _) .none .nil))) .nil
  have htu : t.Reordered u :=
    .mk (.cons howner (.cons hinline .nil)) (.swap _ _ _) .none .nil
  have hcc : c.Reordered c := .mk .nil .nil .none .nil
  have ht : t.ids.Nodup := by decide
  have hc : c.ids.Nodup := by decide
  have hone : c.children.countP (·.name == Declaration.internalName) ≤ 1 := by decide
  exact ⟨htu, hcc, ht, hc, hone, generate_eq_of_reordered htu hcc ht hc hone _ _ _⟩

end ZigReflect
