import Mathlib.Data.List.Basic
import ZigReflect.Toml.Merge

/-!
# Layers as assignments

A layer is merged into the layers below it as if it assigned values to paths one after the
other: a table that stands under a name is assigned field by field, and everything else in one
(`Toml.addLayer_eq_foldl`). So what a stack of layers comes to can be followed one assignment
at a time, and an assignment to one field of a table leaves the others
(`Toml.lookup_assign_of_ne`). A layer whose fields come in another order makes the same
assignments in another order (`Toml.Reordered.exists_mem_assignments`).
-/

namespace ZigReflect

/-- The last of two values that are set under a key stays. -/
theorem Keyed.set_set {κ α : Type} [BEq κ] [LawfulBEq κ] (xs : List (κ × α)) (key : κ) (a b : α) :
    Keyed.set (Keyed.set xs key a) key b = Keyed.set xs key b := by
  induction xs with
  | nil => simp [Keyed.set]
  | cons x rest ih =>
    obtain ⟨other, c⟩ := x
    by_cases h : key == other
    · simp [Keyed.set, h]
    · simp [Keyed.set, h, ih]

namespace Toml

open ZigReflect.Text

/-- A value for the end of a path. -/
structure Assignment where
  path : List Step
  value : Toml

namespace Assignment

/-- The value of the assignment is set. -/
def apply (a : Assignment) (root : Toml) : Toml :=
  assign a.value a.path root

/-- The assignments of one entry of a layer. -/
def ofEntry (key : String) (v : Toml) : List Assignment :=
  match keyPath (lower key), v with
  | [.key name], .table (field :: fields) =>
    (field :: fields).map fun x => ⟨[.key name, .key (lower x.1)], x.2⟩
  | path, v => [⟨path, v⟩]

/-- A path of several steps is assigned to as it is. -/
theorem ofEntry_of_deep {key name : String} {step : Step} {path : List Step} {v : Toml}
    (h : keyPath (lower key) = .key name :: step :: path) :
    ofEntry key v = [⟨.key name :: step :: path, v⟩] := by
  unfold ofEntry
  split
  · next hname => cases h.symm.trans hname
  · rw [h]

/-- A table with fields is assigned to its name field by field. -/
theorem ofEntry_of_table {key name : String} {fields : List (String × Toml)}
    (h : keyPath (lower key) = [.key name]) (hne : fields ≠ []) :
    ofEntry key (.table fields) =
      fields.map fun x => ⟨[.key name, .key (lower x.1)], x.2⟩ := by
  obtain ⟨x, fields, rfl⟩ := List.exists_cons_of_ne_nil hne
  unfold ofEntry
  rw [h]

end Assignment

/-- The assignments of a layer. -/
def assignments (layer : List (String × Toml)) : List Assignment :=
  layer.flatMap fun x => Assignment.ofEntry x.1 x.2

@[simp]
theorem fields_table (fields : List (String × Toml)) : (Toml.table fields).fields = fields := rfl

/-- Whether the value is a table. -/
def isTable : Toml → Bool
  | .table _ => true
  | _ => false

theorem isTable_iff {v : Toml} : v.isTable = true ↔ ∃ fields, v = .table fields := by
  cases v <;> simp [isTable]

/-! ## What an assignment leaves and what it sets -/

section

variable (v : Toml) (name : String) (path : List Step) (into : Toml)

/-- A value that is no table replaces what its key held. -/
theorem mergeField_of_not_table (fields : List (String × Toml)) (h : v.isTable = false) :
    mergeField fields name v = Keyed.set fields name v := by
  cases v <;> simp_all [mergeField, isTable]

theorem mergeField_eq_set (fields : List (String × Toml)) :
    ∃ w, mergeField fields name v = Keyed.set fields name w := by
  cases h : v.isTable with
  | false => exact ⟨v, mergeField_of_not_table v name fields h⟩
  | true =>
    obtain ⟨incoming, rfl⟩ := isTable_iff.1 h
    exact ⟨_, by rw [mergeField]⟩

/-- An assignment under a name makes a table where there is none, and leaves all other names. -/
theorem assign_key : ∃ w, assign v (.key name :: path) into =
    .table (Keyed.set into.fields name w) := by
  cases path with
  | nil =>
    obtain ⟨w, hw⟩ := mergeField_eq_set v name into.fields
    exact ⟨w, by rw [assign, hw]⟩
  | cons step path => exact ⟨_, by rw [assign]; simp⟩

theorem lookup_assign_of_ne {other : String} (h : other ≠ name) :
    (assign v (.key name :: path) into).fields.lookup other = into.fields.lookup other := by
  obtain ⟨w, hw⟩ := assign_key v name path into
  rw [hw, fields_table, Keyed.lookup_set_of_ne _ _ h]

theorem lookup_assign_value (h : v.isTable = false) :
    (assign v [.key name] into).fields.lookup name = some v := by
  rw [assign, mergeField_of_not_table v name _ h, fields_table, Keyed.lookup_set_self]

/-- A table is merged into what its name held. -/
theorem lookup_assign_table (fields : List (String × Toml)) :
    (assign (.table fields) [.key name] into).fields.lookup name =
      some (mergeFields (fieldOrTable into.fields name) fields) := by
  simp [assign, mergeField]

theorem isTable_assign_key : (assign v (.key name :: path) into).isTable = true := by
  obtain ⟨w, hw⟩ := assign_key v name path into
  exact isTable_iff.2 ⟨_, hw⟩

/-- An assignment further in changes what its name holds. -/
theorem lookup_assign_deeper (step : Step) :
    (assign v (.key name :: step :: path) into).fields.lookup name =
      some (assign v (step :: path) ((into.fields.lookup name).getD .nothing)) := by
  rw [assign, fields_table, Keyed.lookup_set_self]
  simp

theorem fieldOrTable_assign_deeper (step : Step) :
    fieldOrTable (assign v (.key name :: step :: path) into).fields name =
      assign v (step :: path) ((into.fields.lookup name).getD .nothing) := by
  rw [fieldOrTable, lookup_assign_deeper, Option.getD_some]

theorem fieldOrTable_assign_of_ne {other : String} (h : other ≠ name) :
    fieldOrTable (assign v (.key name :: path) into).fields other =
      fieldOrTable into.fields other := by
  rw [fieldOrTable, fieldOrTable, lookup_assign_of_ne _ _ _ _ h]

/-- An empty table is merged without a trace into what its name held. -/
theorem fieldOrTable_assign_empty :
    fieldOrTable (assign (.table []) [.key name] into).fields name =
      fieldOrTable into.fields name := by
  rw [fieldOrTable, lookup_assign_table, mergeFields]
  rfl

/-- A name that is not there holds no fields. -/
theorem fields_getD_nothing (fields : List (String × Toml)) :
    ((fields.lookup name).getD .nothing).fields = (fieldOrTable fields name).fields := by
  unfold fieldOrTable
  cases fields.lookup name <;> rfl

end

theorem isTable_mergeFields {into : Toml} (fields : List (String × Toml))
    (h : into.isTable = true) : (mergeFields into fields).isTable = true := by
  induction fields generalizing into with
  | nil => rwa [mergeFields]
  | cons x fields ih =>
    rw [mergeFields]
    exact ih rfl

/-- Merging fields leaves a value as it is, or makes it a table. -/
theorem mergeFields_eq_or_isTable (into : Toml) (fields : List (String × Toml)) :
    mergeFields into fields = into ∨ (mergeFields into fields).isTable = true := by
  cases fields with
  | nil => exact .inl (by rw [mergeFields])
  | cons x fields =>
    rw [mergeFields]
    exact .inr (isTable_mergeFields fields rfl)

/-! ## Layers -/

/-- A table is merged under a name by assigning its fields there. -/
theorem foldl_apply_fields (name : String) (fields root : List (String × Toml)) (into : Toml) :
    (fields.map fun x => Assignment.mk [.key name, .key (lower x.1)] x.2).foldl
        (fun root a => a.apply root) (.table (Keyed.set root name into)) =
      .table (Keyed.set root name (mergeFields into fields)) := by
  induction fields generalizing into with
  | nil => rw [mergeFields]; rfl
  | cons x fields ih =>
    obtain ⟨key, v⟩ := x
    rw [List.map_cons, List.foldl_cons, mergeFields, ← ih]
    simp [Assignment.apply, assign, Keyed.set_set]

theorem foldl_apply_ofEntry (key : String) (v root : Toml) :
    (Assignment.ofEntry key v).foldl (fun root a => a.apply root) root =
      assign v (keyPath (lower key)) root := by
  unfold Assignment.ofEntry
  split
  · next name x fields hpath =>
    obtain ⟨inner, w⟩ := x
    have hstart : (Assignment.mk [.key name, .key (lower inner)] w).apply root =
        .table (Keyed.set root.fields name
          (.table (mergeField (fieldOrTable root.fields name).fields (lower inner) w))) := by
      unfold Assignment.apply fieldOrTable
      rw [assign, assign]
      · cases root.fields.lookup name <;> rfl
      · simp
    rw [hpath, List.map_cons, List.foldl_cons, hstart, foldl_apply_fields, assign, mergeField,
      mergeFields]
  · rw [List.foldl_cons, List.foldl_nil, Assignment.apply]

@[simp]
theorem addLayer_nil (below : Toml) : addLayer below [] = below := rfl

/-- A layer is merged by its assignments. -/
theorem addLayer_eq_foldl (below : Toml) (layer : List (String × Toml)) :
    addLayer below layer = (assignments layer).foldl (fun root a => a.apply root) below := by
  unfold addLayer assignments
  rw [List.foldl_flatMap]
  simp only [foldl_apply_ofEntry]

theorem keyPath_head (key : String) : ∃ name path, keyPath key = .key name :: path := by
  unfold keyPath
  dsimp only
  split
  · split <;> exact ⟨_, _, rfl⟩
  · exact ⟨_, _, rfl⟩

/-- The paths of a layer start with a name. -/
theorem path_head_of_mem_assignments {layer : List (String × Toml)} {a : Assignment}
    (h : a ∈ assignments layer) : ∃ name path, a.path = .key name :: path := by
  obtain ⟨⟨key, v⟩, -, hmem⟩ := List.mem_flatMap.1 h
  unfold Assignment.ofEntry at hmem
  split at hmem
  · obtain ⟨x, -, rfl⟩ := List.mem_map.1 hmem
    exact ⟨_, _, rfl⟩
  · rw [List.mem_singleton.1 hmem]
    exact keyPath_head _

/-! ## Layers in another order -/

namespace Reordered

variable {v w : Toml}

theorem symm (h : Reordered v w) : Reordered w v := by
  induction h with
  | refl v => exact .refl v
  | perm h => exact .perm h.symm
  | field _ ih => exact .field ih
  | trans _ _ ih ih' => exact .trans ih' ih

theorem isTable_eq (h : Reordered v w) : w.isTable = v.isTable := by
  induction h with
  | refl v => rfl
  | perm h => rfl
  | field h => rfl
  | trans _ _ ih ih' => exact ih'.trans ih

/-- A value that is no table has one order only. -/
theorem eq_of_not_table (h : Reordered v w) (hv : v.isTable = false) : w = v := by
  induction h with
  | refl v => rfl
  | perm h => cases hv
  | field h => cases hv
  | trans h _ ih ih' => rw [ih' (h.isTable_eq.trans hv), ih hv]

/-- A field in another order is there under the same key. -/
theorem exists_field (h : Reordered v w) :
    ∀ x ∈ w.fields, ∃ y ∈ v.fields, y.1 = x.1 ∧ Reordered y.2 x.2 := by
  induction h with
  | refl v => exact fun x hx => ⟨x, hx, rfl, .refl _⟩
  | perm h => exact fun x hx => ⟨x, h.mem_iff.2 hx, rfl, .refl _⟩
  | @field before after key v v' h ih =>
    intro x hx
    simp only [fields_table, List.mem_append, List.mem_cons] at hx
    rcases hx with hx | rfl | hx
    · exact ⟨x, by simp [hx], rfl, .refl _⟩
    · exact ⟨(key, v), by simp, rfl, h⟩
    · exact ⟨x, by simp [hx], rfl, .refl _⟩
  | trans _ _ ih ih' =>
    intro x hx
    obtain ⟨y, hy, hkey, hvalue⟩ := ih' x hx
    obtain ⟨z, hz, hkey', hvalue'⟩ := ih y hy
    exact ⟨z, hz, hkey'.trans hkey, hvalue'.trans hvalue⟩

theorem eq_nil {fields : List (String × Toml)} (h : Reordered (.table []) (.table fields)) :
    fields = [] := by
  refine List.eq_nil_iff_forall_not_mem.2 fun x hx => ?_
  obtain ⟨y, hy, -⟩ := h.exists_field x hx
  cases hy

/-- The assignments of an entry in another order are those of the entry, up to the order of their
values. -/
theorem exists_mem_ofEntry (h : Reordered v w) {key : String} {a : Assignment}
    (ha : a ∈ Assignment.ofEntry key w) :
    ∃ b ∈ Assignment.ofEntry key v, b.path = a.path ∧ Reordered b.value a.value := by
  cases hv : v.isTable with
  | false =>
    rw [h.eq_of_not_table hv] at ha
    exact ⟨a, ha, rfl, .refl _⟩
  | true =>
    obtain ⟨fields, rfl⟩ := isTable_iff.1 hv
    obtain ⟨fields', rfl⟩ := isTable_iff.1 (h.isTable_eq.trans hv)
    obtain ⟨name, path, hpath⟩ := keyPath_head (lower key)
    cases path with
    | cons step path =>
      rw [Assignment.ofEntry_of_deep hpath, List.mem_singleton] at ha
      rw [Assignment.ofEntry_of_deep hpath]
      exact ⟨_, List.mem_singleton_self _, by rw [ha], by rw [ha]; exact h⟩
    | nil =>
      rcases eq_or_ne fields [] with rfl | hne
      · obtain rfl := h.eq_nil
        exact ⟨a, ha, rfl, .refl _⟩
      have hne' : fields' ≠ [] := by
        rintro rfl
        exact hne h.symm.eq_nil
      rw [Assignment.ofEntry_of_table hpath hne'] at ha
      obtain ⟨x, hx, rfl⟩ := List.mem_map.1 ha
      obtain ⟨y, hy, hkey, hvalue⟩ := h.exists_field x hx
      rw [Assignment.ofEntry_of_table hpath hne]
      exact ⟨_, List.mem_map_of_mem hy, by rw [hkey], hvalue⟩

/-- A layer in another order makes the same assignments, up to the order of their values. -/
theorem exists_mem_assignments {layer layer' : List (String × Toml)}
    (h : Reordered (.table layer) (.table layer')) {a : Assignment} (ha : a ∈ assignments layer') :
    ∃ b ∈ assignments layer, b.path = a.path ∧ Reordered b.value a.value := by
  obtain ⟨x, hx, hmem⟩ := List.mem_flatMap.1 ha
  obtain ⟨y, hy, hkey, hvalue⟩ := h.exists_field x hx
  obtain ⟨b, hb, hb'⟩ := hvalue.exists_mem_ofEntry hmem
  exact ⟨b, List.mem_flatMap.2 ⟨y, hy, hkey ▸ hb⟩, hb'⟩

end Reordered

end Toml

end ZigReflect
