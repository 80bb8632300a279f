import Mathlib.Data.Finset.Card
import ZigReflect.Proofs.Lookup

/-!
# The index of ids against a plain search

A plain search walks down the tree and remembers the way: every declaration below a root
comes with its strict ancestors below that root (`Declaration.lineages`), in pre-order. It
knows neither positions nor a flag that is handed down. A declaration is container-level if
all these ancestors are namespaces or the internal container, and `entries_eq` says that this
is what the flag of an entry holds.

So the index of ids gives what the search gives: the last declaration with an id, the number
of different ids, and positions at which a declaration with the id or name stands
(`id_index_agrees`).
-/

namespace ZigReflect

/-- A declaration below a root with its strict ancestors below that root, the outermost
first. -/
structure Lineage where
  ancestors : List Declaration
  declaration : Declaration

/-- The declarations among siblings that stand below the ancestors, and below these
siblings, in pre-order. -/
def lineagesAmong (ancestors : List Declaration) : List Declaration → List Lineage
  | [] => []
  | d@{ children, .. } :: rest =>
    ⟨ancestors, d⟩ ::
      (lineagesAmong (ancestors ++ [d]) children ++ lineagesAmong ancestors rest)

theorem lineagesAmong_cons (ancestors : List Declaration) (d : Declaration)
    (ds : List Declaration) :
    lineagesAmong ancestors (d :: ds) =
      ⟨ancestors, d⟩ ::
        (lineagesAmong (ancestors ++ [d]) d.children ++ lineagesAmong ancestors ds) := by
  cases d
  rw [lineagesAmong]

namespace Declaration

/-- The declarations below a root with their ancestors, in pre-order. -/
def lineages (root : Declaration) : List Lineage :=
  lineagesAmong [] root.children

/-- The declarations below a root, in pre-order: children of children and so on, neither the
root nor what stands in types or signatures. -/
def descendants (root : Declaration) : List Declaration :=
  root.lineages.map (·.declaration)

/-- A namespace, or the internal container. -/
def IsContainer (d : Declaration) : Prop :=
  d.kind = .nameSpace ∨ d.name = internalName

instance (d : Declaration) : Decidable d.IsContainer :=
  inferInstanceAs (Decidable (_ ∨ _))

theorem opensScope_eq (d : Declaration) : opensScope d.name d.kind = decide d.IsContainer := by
  rw [Bool.eq_iff_iff, decide_eq_true_eq]
  simp [opensScope, IsContainer]

end Declaration

namespace Lineage

/-- Every strict ancestor below the root is a namespace or the internal container. -/
def IsContainerLevel (l : Lineage) : Prop :=
  ∀ a ∈ l.ancestors, a.IsContainer

instance (l : Lineage) : Decidable l.IsContainerLevel :=
  inferInstanceAs (Decidable (∀ a ∈ _, _))

/-- The declaration with the answer whether it is container-level. -/
def entry (l : Lineage) : Entry :=
  (l.declaration, decide l.IsContainerLevel)

end Lineage

/-- The flag that is handed down to siblings says whether their ancestors are containers. -/
theorem entriesAmong_eq (ds : List Declaration) (ancestors : List Declaration) :
    entriesAmong (decide (∀ a ∈ ancestors, a.IsContainer)) ds =
      (lineagesAmong ancestors ds).map Lineage.entry := by
  induction ds using siblings_induction generalizing ancestors with
  | nil => rw [entriesAmong, lineagesAmong, List.map_nil]
  | cons d ds ihBelow ihRest =>
    have hbelow : (decide (∀ a ∈ ancestors, a.IsContainer) && opensScope d.name d.kind) =
        decide (∀ a ∈ ancestors ++ [d], a.IsContainer) := by
      rw [d.opensScope_eq, ← Bool.decide_and]
      simp [or_imp, forall_and]
    rw [entriesAmong_cons, lineagesAmong_cons, hbelow, ihBelow, ihRest, List.map_cons,
      List.map_append]
    rfl

namespace Declaration

variable (root : Declaration)

theorem entries_eq : root.entries = root.lineages.map Lineage.entry := by
  rw [entries, lineages, ← entriesAmong_eq]
  simp

theorem map_fst_entries : root.entries.map (·.1) = root.descendants := by
  rw [entries_eq, List.map_map]
  rfl

/-- The declaration is the last one below the root that has the id. -/
def IsLastWith (id : Nat) (d : Declaration) : Prop :=
  ∃ before after, root.descendants = before ++ d :: after ∧ d.id = id ∧ ∀ e ∈ after, e.id ≠ id

end Declaration

theorem IdIndex.mem_ofPositions (ps : List Position) (id : Nat) :
    id ∈ IdIndex.ofPositions ps ↔ ∃ p ∈ ps, p.id = id := by
  rw [Std.TreeMap.mem_iff_isSome_getElem?, getElem?_ofPositions]
  simp

/-- The index has a key for every id. -/
theorem IdIndex.size_ofPositions (ps : List Position) :
    (IdIndex.ofPositions ps).size = (ps.map (·.id)).toFinset.card := by
  induction ps using List.reverseRecOn with
  | nil => simp [ofPositions]
  | append_singleton ps p ih =>
    have hmem : (ofPositions ps).contains p.id ↔ p.id ∈ (ps.map (·.id)).toFinset := by
      rw [Std.TreeMap.contains_iff_mem, mem_ofPositions, List.mem_toFinset, List.mem_map]
    have hstep : ofPositions (ps ++ [p]) = (ofPositions ps).insert p.id p.path := by
      simp [ofPositions]
    rw [hstep, Std.TreeMap.size_insert, ih, List.map_append, List.map_singleton,
      List.toFinset_append, List.toFinset_cons, List.toFinset_nil, Finset.union_insert,
      Finset.union_empty]
    by_cases h : p.id ∈ (ps.map (·.id)).toFinset
    · rw [if_pos (hmem.2 h), Finset.insert_eq_of_mem h]
    · rw [if_neg (mt hmem.1 h), Finset.card_insert_of_notMem h]

namespace Document

theorem byId_eq_find? (root : Declaration) (id : Nat) :
    (ofRoot root).byId id = root.descendants.reverse.find? (·.id == id) := by
  rw [byId_ofRoot, ← root.map_fst_entries, ← List.map_reverse, List.find?_map]
  rfl

theorem byId_eq_some_iff {root d : Declaration} {id : Nat} :
    (ofRoot root).byId id = some d ↔ root.IsLastWith id d := by
  rw [byId_eq_find?, List.find?_eq_some_iff_append]
  constructor
  · rintro ⟨hid, after, before, hsplit, hafter⟩
    refine ⟨before.reverse, after.reverse, ?_, by simpa using hid, by simpa using hafter⟩
    simpa using congrArg List.reverse hsplit
  · rintro ⟨before, after, hsplit, hid, hafter⟩
    exact ⟨by simpa using hid, after.reverse, before.reverse, by simp [hsplit],
      by simpa using hafter⟩

theorem size_ofRoot (root : Declaration) :
    (ofRoot root).size = (root.descendants.map (·.id)).toFinset.card := by
  have hids : root.positions.map (·.id) = root.descendants.map (·.id) := by
    rw [map_eq_of_forall₂ (fun _ _ h => h.id) (locates_positions root), ← root.map_fst_entries,
      List.map_map]
    rfl
  rw [size, ← hids]
  exact IdIndex.size_ofPositions root.positions

/-- At the position that is stored for an id stands a declaration with the id. -/
theorem at?_of_ids {root : Declaration} {id : Nat} {path : Path}
    (h : (ofRoot root).ids[id]? = some path) : ∃ d, root.at? path = some d ∧ d.id = id := by
  rw [show (ofRoot root).ids = IdIndex.ofPositions root.positions from rfl,
    IdIndex.getElem?_ofPositions, Option.map_eq_some_iff] at h
  obtain ⟨p, hp, rfl⟩ := h
  have hid : p.id = id := by simpa using List.find?_some hp
  have hmem : p ∈ root.positions := List.mem_reverse.1 (List.mem_of_find?_eq_some hp)
  obtain ⟨e, hpe⟩ := exists_of_forall₂ (locates_positions root) p hmem
  exact ⟨e.1, hpe.found, hpe.id ▸ hid⟩

/-- At a position that is stored for a name stands a declaration with the name. -/
theorem at?_of_names {root : Declaration} {name : String} {paths : List Path} {path : Path}
    (h : (ofRoot root).names[name]? = some paths) (hpath : path ∈ paths) :
    ∃ d, root.at? path = some d ∧ d.name = name := by
  have hgetD : (ofRoot root).names.getD name [] = paths := by
    rw [Std.TreeMap.getD_eq_getD_getElem?, h, Option.getD_some]
  rw [show (ofRoot root).names = NameIndex.ofPositions _ from rfl,
    NameIndex.getD_ofPositions] at hgetD
  rw [← hgetD, List.mem_map] at hpath
  obtain ⟨p, hp, rfl⟩ := hpath
  obtain ⟨hmem, hname⟩ := List.mem_filter.1 hp
  obtain ⟨e, hpe⟩ := exists_of_forall₂ (locates_containerLevel root) p hmem
  exact ⟨e.1, hpe.found, by rw [← hpe.name]; simpa using hname⟩

/-- The index of a document agrees with a plain search below its root. A lookup by id finds
the last declaration with the id in pre-order, and nothing only if there is none. As many ids
are counted as are different, and at every position that the indexes hold stands a declaration
with the id or name that it is stored under. -/
theorem id_index_agrees (root : Declaration) :
    (∀ id d, (ofRoot root).byId id = some d ↔ root.IsLastWith id d) ∧
      (∀ id, (ofRoot root).byId id = none ↔ ∀ d ∈ root.descendants, d.id ≠ id) ∧
      (ofRoot root).size = (root.descendants.map (·.id)).toFinset.card ∧
      (∀ id path, (ofRoot root).ids[id]? = some path →
        ∃ d, root.at? path = some d ∧ d.id = id) ∧
      ∀ name paths, (ofRoot root).names[name]? = some paths → ∀ path ∈ paths,
        ∃ d, root.at? path = some d ∧ d.name = name := by
  refine ⟨fun id d => byId_eq_some_iff, fun id => ?_, size_ofRoot root,
    fun id path => at?_of_ids, fun name paths h path hpath => at?_of_names h hpath⟩
  rw [byId_eq_find?, List.find?_eq_none]
  simp

end Document

end ZigReflect
