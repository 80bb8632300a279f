import Mathlib.Data.List.Forall2
import Mathlib.Data.List.Induction
import Std.Data.TreeMap.Lemmas
import ZigReflect.Proofs.Reordering

/-!
# What a lookup finds

The index of a document holds positions. `Declaration.entries` are the
declarations that stand at these positions, in pre-order, each with whether it is
container-level. A lookup by id finds the last entry with the id, and a lookup by
name the container-level entries with the name, sorted by their ids.

The entries of reordered roots are shuffled. With distinct ids, lookups below such
roots find reordered declarations, and the documents have the same names.
-/

namespace ZigReflect

/-- Induction over siblings and what is below them. -/
@[elab_as_elim]
theorem siblings_induction {motive : List Declaration → Prop} (nil : motive [])
    (cons : ∀ d ds, motive d.children → motive ds → motive (d :: ds)) : ∀ ds, motive ds
  | [] => nil
  | { children, .. } :: ds =>
    cons _ ds (siblings_induction nil cons children) (siblings_induction nil cons ds)

/-- A declaration below a root, and whether it is container-level. -/
abbrev Entry := Declaration × Bool

/-- The declarations among siblings and below them, in pre-order. -/
def entriesAmong (named : Bool) : List Declaration → List Entry
  | [] => []
  | d@{ name, kind, children, .. } :: rest =>
    (d, named) ::
      (entriesAmong (named && opensScope name kind) children ++ entriesAmong named rest)

/-- The declarations below a root, in pre-order. -/
def Declaration.entries (root : Declaration) : List Entry :=
  entriesAmong true root.children

theorem entriesAmong_cons (named : Bool) (d : Declaration) (ds : List Declaration) :
    entriesAmong named (d :: ds) =
      (d, named) ::
        (entriesAmong (named && opensScope d.name d.kind) d.children ++ entriesAmong named ds) := by
  cases d
  rw [entriesAmong]

/-! ## Entries at positions -/

theorem positionsAmong_cons (above : Path) (named : Bool) (i : Nat) (d : Declaration)
    (ds : List Declaration) :
    positionsAmong above named i (d :: ds) =
      ⟨above ++ [i], d.id, d.name, named⟩ ::
        (positionsAmong (above ++ [i]) (named && opensScope d.name d.kind) 0 d.children ++
          positionsAmong above named (i + 1) ds) := by
  cases d
  rw [positionsAmong]

/-- A path can be followed in two parts. -/
theorem Declaration.at?_append : ∀ (path more : Path) (d : Declaration),
    d.at? (path ++ more) = (d.at? path).bind (·.at? more)
  | [], more, d => rfl
  | i :: path, more, d => by
    simp only [List.cons_append, at?, Option.bind_assoc]
    congr 1
    funext child
    exact at?_append path more child

/-- The position is that of the entry. -/
structure Position.Locates (root : Declaration) (p : Position) (e : Entry) : Prop where
  found : root.at? p.path = some e.1
  id : p.id = e.1.id
  name : p.name = e.1.name
  named : p.named = e.2

/-- The positions among the last siblings below a declaration are those of the
entries. -/
theorem locates_positionsAmong (root : Declaration) (ds : List Declaration) {above : Path}
    {parent : Declaration} (before : List Declaration) (named : Bool)
    (habove : root.at? above = some parent) (hparent : parent.children = before ++ ds) :
    List.Forall₂ (Position.Locates root) (positionsAmong above named before.length ds)
      (entriesAmong named ds) := by
  induction ds using siblings_induction generalizing above parent before named with
  | nil =>
    rw [positionsAmong, entriesAmong]
    exact .nil
  | cons d ds ihBelow ihRest =>
    have hd : root.at? (above ++ [before.length]) = some d := by
      simp [Declaration.at?_append, habove, Declaration.at?, hparent]
    have hbelow := ihBelow [] (named && opensScope d.name d.kind) hd rfl
    have hrest := ihRest (before ++ [d]) named habove (by simp [hparent])
    rw [positionsAmong_cons, entriesAmong_cons]
    refine .cons ⟨hd, rfl, rfl, rfl⟩ (List.rel_append hbelow ?_)
    simpa using hrest

/-- The positions of a document locate its entries, in the order of the walk. -/
theorem locates_positions (root : Declaration) :
    List.Forall₂ (Position.Locates root) root.positions root.entries :=
  locates_positionsAmong root root.children [] true rfl rfl

/-- Following the paths of positions gives what they locate. -/
theorem filterMap_at?_of_locates {root : Declaration} :
    ∀ {ps : List Position} {es : List Entry}, List.Forall₂ (Position.Locates root) ps es →
      (ps.map (·.path)).filterMap root.at? = es.map (·.1)
  | _, _, .nil => rfl
  | _, _, .cons hpe h => by
    rw [List.map_cons, List.filterMap_cons_some hpe.found, filterMap_at?_of_locates h,
      List.map_cons]

/-- The container-level declarations below a root, in the order of their ids. -/
def Declaration.containerLevel (root : Declaration) : List Entry :=
  (root.entries.filter (·.2)).mergeSort fun a b => a.1.id ≤ b.1.id

theorem locates_containerLevel (root : Declaration) :
    List.Forall₂ (Position.Locates root)
      ((root.positions.filter (·.named)).mergeSort fun a b => a.id ≤ b.id)
      root.containerLevel :=
  forall₂_mergeSort (fun _ _ h => h.id)
    (List.rel_filter (fun _ _ h => by simp [h.named]) (locates_positions root))

/-! ## The indexes -/

/-- The index has the last position of an id. -/
theorem IdIndex.getElem?_ofPositions (ps : List Position) (id : Nat) :
    (IdIndex.ofPositions ps)[id]? = (ps.reverse.find? (·.id == id)).map (·.path) := by
  induction ps using List.reverseRecOn with
  | nil => simp [ofPositions]
  | append_singleton ps p ih =>
    simp only [ofPositions, List.foldl_append, List.foldl_cons, List.foldl_nil] at ih ⊢
    rw [Std.TreeMap.getElem?_insert, ih, List.reverse_append, List.reverse_singleton,
      List.singleton_append, List.find?_cons]
    by_cases h : p.id = id
    · simp [h]
    · simp [h, beq_false_of_ne h]

/-- The index has all positions of a name, in their order. -/
theorem NameIndex.getD_ofPositions (ps : List Position) (name : String) :
    (NameIndex.ofPositions ps).getD name [] = (ps.filter (·.name == name)).map (·.path) := by
  induction ps using List.reverseRecOn with
  | nil => simp [ofPositions]
  | append_singleton ps p ih =>
    simp only [ofPositions, List.foldl_append, List.foldl_cons, List.foldl_nil] at ih ⊢
    rw [Std.TreeMap.getD_insert, List.filter_append, List.map_append, ← ih]
    by_cases h : p.name = name <;> simp [h]

theorem NameIndex.mem_ofPositions (ps : List Position) (name : String) :
    name ∈ NameIndex.ofPositions ps ↔ ∃ p ∈ ps, p.name = name := by
  induction ps using List.reverseRecOn with
  | nil => simp [ofPositions]
  | append_singleton ps p ih =>
    simp only [ofPositions, List.foldl_append, List.foldl_cons, List.foldl_nil] at ih ⊢
    rw [Std.TreeMap.mem_insert, ih]
    simp [or_comm, or_and_right, exists_or]

namespace Document

/-- A lookup by id finds the last declaration with the id. -/
theorem byId_ofRoot (root : Declaration) (id : Nat) :
    (ofRoot root).byId id = (root.entries.reverse.find? (·.1.id == id)).map (·.1) := by
  have hfind := forall₂_find? (p := (·.id == id)) (q := (·.1.id == id))
    (fun p e hpe => by rw [hpe.id]) (List.rel_reverse (locates_positions root))
  rw [byId, show (ofRoot root).ids = IdIndex.ofPositions root.positions from rfl,
    IdIndex.getElem?_ofPositions, show (ofRoot root).root = root from rfl]
  generalize root.positions.reverse.find? _ = p, root.entries.reverse.find? _ = e at hfind
  cases hfind with
  | none => rfl
  | some hpe => simp [hpe.found]

/-- A lookup by name finds the container-level declarations with the name, in the
order of their ids. -/
theorem byName_ofRoot (root : Declaration) (name : String) :
    (ofRoot root).byName name =
      (root.containerLevel.filter (·.1.name == name)).map (·.1) := by
  rw [byName, show (ofRoot root).root = root from rfl, show (ofRoot root).names =
    NameIndex.ofPositions _ from rfl, NameIndex.getD_ofPositions]
  have hlocated := List.rel_filter (p := (·.name == name)) (q := (·.1.name == name))
    (fun p e hpe => by simp [hpe.name]) (locates_containerLevel root)
  exact filterMap_at?_of_locates hlocated

/-- The names of a document are those at container level. -/
theorem mem_names_ofRoot {root : Declaration} {name : String} :
    name ∈ (ofRoot root).names ↔ name ∈ root.containerLevel.map (·.1.name) := by
  rw [← map_eq_of_forall₂ (fun _ _ h => h.name) (locates_containerLevel root), List.mem_map]
  exact NameIndex.mem_ofPositions _ _

end Document

/-- Both documents are indexed. -/
def Pair.IsIndexed (pair : Pair) : Prop :=
  ∀ s, pair.document s = .ofRoot (pair.document s).root

theorem Pair.isIndexed_ofRoot (types protocol : Declaration) :
    (Pair.mk (.ofRoot types) (.ofRoot protocol)).IsIndexed
  | .types => rfl
  | .protocol => rfl

/-! ## Entries of reordered roots -/

/-- The entries are of the same level, and their declarations are reordered. -/
def Entry.Reordered (e f : Entry) : Prop :=
  e.1.Reordered f.1 ∧ e.2 = f.2

/-- The entries among siblings are those of each of them in turn. -/
theorem entriesAmong_eq_flatMap (named : Bool) : ∀ ds : List Declaration,
    entriesAmong named ds = ds.flatMap fun d =>
      (d, named) :: entriesAmong (named && opensScope d.name d.kind) d.children
  | [] => by rw [entriesAmong, List.flatMap_nil]
  | d :: ds => by
    rw [entriesAmong_cons, entriesAmong_eq_flatMap named ds, List.flatMap_cons, List.cons_append]

theorem entriesAmong_perm (named : Bool) {ds es : List Declaration} (h : ds.Perm es) :
    (entriesAmong named ds).Perm (entriesAmong named es) := by
  rw [entriesAmong_eq_flatMap, entriesAmong_eq_flatMap]
  exact h.flatMap_right _

/-- The entries below reordered siblings are shuffled: those below a child follow the order of its
own children. -/
theorem shuffled_entriesAmong (named : Bool) (cs ds : List Declaration)
    (h : List.Forall₂ Declaration.Reordered cs ds) :
    Shuffled Entry.Reordered (entriesAmong named cs) (entriesAmong named ds) := by
  induction cs using siblings_induction generalizing ds named with
  | nil =>
    cases h
    rw [entriesAmong]
    exact ⟨[], .nil, .refl _⟩
  | cons c cs ihBelow ihRest =>
    obtain _ | ⟨hcd, hrest⟩ := h
    next d ds =>
    obtain ⟨middle, hchildren, hperm⟩ := hcd.shuffled_children
    have hbelow := (ihBelow (named && opensScope c.name c.kind) middle hchildren).trans_perm
      (entriesAmong_perm _ hperm)
    have hhead : Shuffled Entry.Reordered [(c, named)] [(d, named)] :=
      ⟨[(d, named)], .cons ⟨hcd, rfl⟩ .nil, .refl _⟩
    rw [entriesAmong_cons, entriesAmong_cons, ← hcd.name_eq, ← hcd.kind_eq]
    exact hhead.append (hbelow.append (ihRest named ds hrest))

/-- The entries of a reordered document are shuffled. -/
theorem Declaration.Reordered.shuffled_entries {c d : Declaration} (h : c.Reordered d) :
    Shuffled Entry.Reordered c.entries d.entries := by
  obtain ⟨middle, hchildren, hperm⟩ := h.shuffled_children
  exact (shuffled_entriesAmong true _ _ hchildren).trans_perm (entriesAmong_perm true hperm)

/-- The ids of the entries are among those of the root. -/
theorem ids_entriesAmong_sublist (named : Bool) (ds : List Declaration) :
    ((entriesAmong named ds).map (·.1.id)).Sublist (ds.flatMap (·.ids)) := by
  induction ds using siblings_induction generalizing named with
  | nil => simp [entriesAmong]
  | cons d ds ihBelow ihRest =>
    rw [entriesAmong_cons, List.map_cons, List.map_append, List.flatMap_cons, ← List.cons_append]
    refine List.Sublist.append ?_ (ihRest named)
    rw [Declaration.ids, Declaration.gather_eq, gatherDeclarations_eq_flatMap]
    refine .cons_cons d.id ?_
    exact ((ihBelow _).trans (List.sublist_append_left _ _)).trans (List.sublist_append_right _ _)

theorem Declaration.nodup_ids_entries {root : Declaration} (h : root.ids.Nodup) :
    (root.entries.map (·.1.id)).Nodup := by
  rw [Declaration.ids, Declaration.gather_eq, gatherDeclarations_eq_flatMap] at h
  refine h.sublist (((ids_entriesAmong_sublist true root.children).trans ?_))
  exact (List.sublist_append_left _ _).trans
    ((List.sublist_append_right _ _).trans (List.sublist_append_right _ _))

/-! ## Lookups below reordered roots -/

/-- Every key of the maps is in both. -/
theorem keys_eq_of_mem_iff {β : Type} {m n : Std.TreeMap String β}
    (h : ∀ name, name ∈ m ↔ name ∈ n) : m.keys = n.keys := by
  have hperm : m.keys.Perm n.keys := by
    rw [List.perm_ext_iff_of_nodup Std.TreeMap.nodup_keys Std.TreeMap.nodup_keys]
    intro name
    rw [Std.TreeMap.mem_keys, Std.TreeMap.mem_keys, h]
  refine List.Perm.eq_of_pairwise (fun a b _ _ hab hba => ?_) Std.TreeMap.ordered_keys
    Std.TreeMap.ordered_keys hperm
  have hswap : compare a b = (compare b a).swap := Std.OrientedCmp.eq_swap
  rw [hab, hba] at hswap
  cases hswap

namespace Declaration.Reordered

variable {c d : Declaration}

/-- The entries at container level are sorted by id, so the order of children does not matter. -/
theorem forall₂_containerLevel (h : c.Reordered d) (hids : c.ids.Nodup) :
    List.Forall₂ Entry.Reordered c.containerLevel d.containerLevel := by
  refine (h.shuffled_entries.filter fun _ _ hef => hef.2).mergeSort
    (fun _ _ hef => hef.1.id_eq) ?_
  exact (nodup_ids_entries hids).sublist (List.filter_sublist.map _)

/-- An id that occurs once finds corresponding declarations. -/
theorem byId_rel (h : c.Reordered d) (hids : c.ids.Nodup) (id : Nat) :
    Option.Rel Declaration.Reordered ((Document.ofRoot c).byId id)
      ((Document.ofRoot d).byId id) := by
  have hone : c.entries.reverse.countP (·.1.id == id) ≤ 1 := by
    rw [List.countP_reverse]
    exact countP_le_one_of_nodup (nodup_ids_entries hids) id
  have hfind := h.shuffled_entries.reverse.find?_rel (q := (·.1.id == id))
    (fun _ _ hef => by rw [hef.1.id_eq]) hone
  rw [Document.byId_ofRoot, Document.byId_ofRoot]
  generalize c.entries.reverse.find? _ = e, d.entries.reverse.find? _ = f at hfind
  cases hfind with
  | none => exact .none
  | some hef => exact .some hef.1

/-- A name finds corresponding declarations, in one order. -/
theorem forall₂_byName (h : c.Reordered d) (hids : c.ids.Nodup) (name : String) :
    List.Forall₂ Declaration.Reordered ((Document.ofRoot c).byName name)
      ((Document.ofRoot d).byName name) := by
  rw [Document.byName_ofRoot, Document.byName_ofRoot, List.forall₂_map_left_iff,
    List.forall₂_map_right_iff]
  have hfiltered := List.rel_filter (p := (·.1.name == name)) (q := (·.1.name == name))
    (fun _ _ hef => by simp [hef.1.name_eq]) (h.forall₂_containerLevel hids)
  exact hfiltered.imp fun _ _ hef => hef.1

/-- The names come in one order. -/
theorem keys_names_eq (h : c.Reordered d) (hids : c.ids.Nodup) :
    (Document.ofRoot c).names.keys = (Document.ofRoot d).names.keys := by
  refine keys_eq_of_mem_iff fun name => ?_
  rw [Document.mem_names_ofRoot, Document.mem_names_ofRoot,
    map_eq_of_forall₂ (fun _ _ hef => hef.1.name_eq) (h.forall₂_containerLevel hids)]

end Declaration.Reordered

end ZigReflect
