import Mathlib
import ZigReflect.Proofs.FirstWriter

/-!
# Aliases that yield to namespaces

A type alias is left out where its document has a namespace of its name that holds
data. The namespace is looked for among all container-level declarations, and a run
visits only some of these, less those that are excluded. If the run keeps a data
namespace of the name, the name is emitted all the same: the namespace is written,
or another declaration of the name before it (`alias_name_emitted`).

Without that condition a name can be lost (`alias_name_lost`).
-/

namespace ZigReflect

namespace Declaration

/-- An alias of a type that is not declared in its place. -/
def IsNamedAlias (d : Declaration) : Prop :=
  d.kind = .typeAlias ∧ ∃ t, d.type = some t ∧ ∀ inner, t ≠ .reflection inner

/-- A namespace without callable members. -/
def isDataNamespace (d : Declaration) : Bool :=
  d.kind == .nameSpace && !d.hasCallableChild

end Declaration

namespace Lowering

open Emission

variable {d : Declaration} {parts : Parts}

/-- An alias is left out for a namespace and for nothing else. -/
theorem typeAlias_ne_false {pair : Pair} (hd : d.IsNamedAlias) {e : Emitter}
    (h : (pair.document e.schema).hasDataNamespace d.name = false) :
    ((typeAlias pair d parts).on e).1 ≠ .ok false := by
  obtain ⟨-, t, ht, hinline⟩ := hd
  intro hskips
  rcases skips_typeAlias_iff.1 hskips with hnone | ⟨inner, hinner⟩ | hyields
  · simp [ht] at hnone
  · exact hinline inner (Option.some.inj (ht.symm.trans hinner))
  · simp [h] at hyields

theorem byKind_of_typeAlias {pair : Pair} (hk : d.kind = .typeAlias)
    (hn : d.name ≠ Declaration.internalName) : byKind pair d parts = typeAlias pair d parts := by
  simp [byKind, hk, hn]

theorem byKind_of_nameSpace {pair : Pair} (hk : d.kind = .nameSpace)
    (hn : d.name ≠ Declaration.internalName) :
    byKind pair d parts = namespaceDeclaration d parts := by
  simp [byKind, hk, hn]

end Lowering

namespace Pair

variable {pair : Pair} {exclusion? : Declaration → Option Notice}

theorem standalone_alias_ne_false {v : Visit} (hv : v.2.IsNamedAlias)
    (hn : v.2.name ≠ Declaration.internalName)
    (h : (pair.document v.1).hasDataNamespace v.2.name = false) :
    (pair.standalone v).result ≠ .ok false := by
  show ((pair.emitDeclaration v.2).on (.fresh v.1)).1 ≠ .ok false
  rw [emitDeclaration, Lowering.declaration_eq, Lowering.byKind_of_typeAlias hv.1 hn]
  exact Lowering.typeAlias_ne_false hv h

theorem standalone_dataNamespace_ne_false {v : Visit} (hv : v.2.isDataNamespace = true)
    (hn : v.2.name ≠ Declaration.internalName) : (pair.standalone v).result ≠ .ok false := by
  simp only [Declaration.isDataNamespace, Bool.and_eq_true, beq_iff_eq, Bool.not_eq_true'] at hv
  show ((pair.emitDeclaration v.2).on (.fresh v.1)).1 ≠ .ok false
  rw [emitDeclaration, Lowering.declaration_eq, Lowering.byKind_of_nameSpace hv.1 hn]
  intro hskips
  have hcallable := Lowering.skips_namespaceDeclaration_iff.1 hskips
  simp [hv.2] at hcallable

/-- The name of every alias that a run keeps is emitted when the walk ends, if the run
also keeps a data namespace of the name wherever the alias yields to one. -/
theorem alias_name_emitted (pair : Pair) (exclusion? : Declaration → Option Notice)
    (summary : SummarySettings) (preamble : String) (generated : Generated)
    (hok : (pair.generate exclusion? summary preamble).result = .ok generated) :
    ∃ e, (pair.walk exclusion?).on (.fresh .types) = (.ok (), e) ∧
      ∀ v ∈ pair.kept exclusion?, v.2.IsNamedAlias → v.2.name ≠ Declaration.internalName →
        ((pair.document v.1).hasDataNamespace v.2.name = true →
          ∃ u ∈ pair.kept exclusion?, u.2.isDataNamespace = true ∧ u.2.name = v.2.name) →
        v.2.name ∈ e.names.order := by
  have hnone : pair.firstFailure? [] (pair.kept exclusion?) = none := by
    cases hf : pair.firstFailure? [] (pair.kept exclusion?) with
    | none => rfl
    | some f => simp [generate_of_some hf] at hok
  obtain ⟨e, hwalk, hprogress⟩ := walk_of_none hnone
  refine ⟨e, hwalk, fun v hv halias hname hkept => ?_⟩
  rw [hprogress.names]
  cases hyields : (pair.document v.1).hasDataNamespace v.2.name with
  | false => exact name_mem_writtenNames hnone hv (standalone_alias_ne_false halias hname hyields)
  | true =>
    obtain ⟨u, hu, hdata, hsame⟩ := hkept hyields
    rw [← hsame]
    exact name_mem_writtenNames hnone hu
      (standalone_dataNamespace_ne_false hdata (hsame ▸ hname))

/-- An alias and the namespace of its values share a name. -/
theorem alias_name_emitted_kind :
    let kind : Declaration :=
      { id := 1, name := "Kind", kind := .typeAlias, type := some (.intrinsic "string") }
    let values : Declaration :=
      { id := 2, name := "Kind", kind := .nameSpace, children :=
          [{ id := 3, name := "Tag", kind := .binding, defaultValue := some "Text" }] }
    let pair : Pair :=
      ⟨.ofRoot { id := 0, name := "types", children := [kind, values] },
        .ofRoot { id := 0, name := "protocol" }⟩
    (∃ generated, (pair.generate (Filter.mk [] []).exclusion? {} "").result = .ok generated) ∧
      pair.types.hasDataNamespace "Kind" = true ∧
      ∃ e, (pair.walk (Filter.mk [] []).exclusion?).on (.fresh .types) = (.ok (), e) ∧
        "Kind" ∈ e.names.order := by
  intro kind values pair
  have hnone : pair.firstFailure? [] (pair.kept (Filter.mk [] []).exclusion?) = none := by cbv
  obtain ⟨generated, hok⟩ : ∃ generated,
      (pair.generate (Filter.mk [] []).exclusion? {} "").result = .ok generated :=
    ⟨_, generate_of_none hnone {} ""⟩
  have hkept : ∀ d, d ∈ [kind, values] → (Schema.types, d) ∈
      pair.kept (Filter.mk [] []).exclusion? := fun d hd =>
    List.mem_filter.2 ⟨List.mem_append_left _ (List.mem_map.2 ⟨d, List.mem_mergeSort.2 hd, rfl⟩),
      by simp [Filter.exclusion?]⟩
  obtain ⟨e, hwalk, hnames⟩ := alias_name_emitted pair _ {} "" generated hok
  refine ⟨⟨generated, hok⟩, by cbv, e, hwalk, ?_⟩
  exact hnames (.types, kind) (hkept kind (by simp)) ⟨rfl, _, rfl, by rintro _ ⟨⟩⟩ (by decide)
    fun _ => ⟨(.types, values), hkept values (by simp), rfl, rfl⟩

/-- The run succeeds and keeps the alias, and the name of the alias is not emitted. -/
def LosesName (pair : Pair) (filter : Filter) (v : Visit) : Prop :=
  v ∈ pair.kept filter.exclusion? ∧ v.2.IsNamedAlias ∧
    ∃ generated e, (pair.generate filter.exclusion? {} "").result = .ok generated ∧
      (pair.walk filter.exclusion?).on (.fresh .types) = (.ok (), e) ∧ v.2.name ∉ e.names.order

theorem losesName_of_not_mem {filter : Filter} {v : Visit} (hv : v ∈ pair.kept filter.exclusion?)
    (halias : v.2.IsNamedAlias)
    (hnone : pair.firstFailure? [] (pair.kept filter.exclusion?) = none)
    {names : List String} (hnames : pair.writtenNames (pair.kept filter.exclusion?) = names)
    (hlost : v.2.name ∉ names) : pair.LosesName filter v := by
  obtain ⟨e, hwalk, hprogress⟩ := walk_of_none hnone
  exact ⟨hv, halias, _, e, generate_of_none hnone {} "", hwalk, by rwa [hprogress.names, hnames]⟩

/-- A name is lost if the namespace that the alias yields to is nested in another one, or
is excluded for the file it was found in, or if the alias has the name of the internal
container. -/
theorem alias_name_lost :
    let named (name : String) : Declaration :=
      { id := 1, name, kind := .typeAlias, type := some (.intrinsic "string") }
    let inner : Declaration := { id := 3, name := "A", kind := .nameSpace }
    let outer : Declaration := { id := 2, name := "N", kind := .nameSpace, children := [inner] }
    let foreign : Declaration :=
      { id := 2, name := "A", kind := .nameSpace, sources := ["foreign.d.ts"] }
    let pairOf (children : List Declaration) : Pair :=
      ⟨.ofRoot { id := 0, name := "types", children }, .ofRoot { id := 0, name := "protocol" }⟩
    (pairOf [named "A", outer]).LosesName ⟨[], []⟩ (.types, named "A") ∧
      (pairOf [named "A", foreign]).LosesName ⟨[], ["foreign"]⟩ (.types, named "A") ∧
      (pairOf [named "<internal>"]).LosesName ⟨[], []⟩ (.types, named "<internal>") := by
  intro named inner outer foreign pairOf
  have hkept : ∀ (name : String) (rest : List Declaration) (filter : Filter),
      filter.exclusion? (named name) = none →
        (Schema.types, named name) ∈ (pairOf (named name :: rest)).kept filter.exclusion? :=
    fun name rest filter h => List.mem_filter.2
      ⟨List.mem_append_left _ (List.mem_map.2 ⟨_, List.mem_mergeSort.2 List.mem_cons_self, rfl⟩),
        by rw [h]; rfl⟩
  have halias : ∀ name, (named name).IsNamedAlias := fun name =>
    ⟨rfl, _, rfl, by rintro _ ⟨⟩⟩
  have hnested : (pairOf [named "A", outer]).writtenNames
      ((pairOf [named "A", outer]).kept (Filter.mk [] []).exclusion?) = ["N"] := by cbv
  have hforeign : (pairOf [named "A", foreign]).writtenNames
      ((pairOf [named "A", foreign]).kept (Filter.mk [] ["foreign"]).exclusion?) = [] := by cbv
  have hinternal : (pairOf [named "<internal>"]).writtenNames
      ((pairOf [named "<internal>"]).kept (Filter.mk [] []).exclusion?) = [] := by cbv
  exact ⟨losesName_of_not_mem (hkept _ _ _ rfl) (halias _) (by cbv) hnested (by decide),
    losesName_of_not_mem (hkept _ _ _ rfl) (halias _) (by cbv) hforeign (by decide),
    losesName_of_not_mem (hkept _ _ _ rfl) (halias _) (by cbv) hinternal (by decide)⟩

end Pair

end ZigReflect
