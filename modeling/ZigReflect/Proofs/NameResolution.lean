import Mathlib.Data.List.MinMax
import ZigReflect.Document.Pair
import ZigReflect.Proofs.TreeSearch

/-!
# Names against a plain search

A plain search finds the namesakes of a name: the container-level declarations with the name,
in pre-order (`Declaration.namesakes`). The index of names gives them in the order of their
ids. Sorting is stable, so it commutes with the choice of a name, and the first of what is
sorted is the first one with the least id.

So a name stands for the namesake with the least id, of the interfaces if there are any, else
of those with children, else of all (`Pair.leastPreferred`). It stands for nothing only if it
has no namesakes, and a member of an intersection is looked for in the companion first
(`name_index_agrees`).
-/

namespace ZigReflect

/-! ## Sorting by a key -/

section

variable {α : Type} (key : α → Nat)

/-- An element in front of a list goes in front of those with its key or a greater one. -/
theorem mergeSort_cons_key (a : α) (xs : List α) : ∃ before after,
    (a :: xs).mergeSort (fun a b => key a ≤ key b) = before ++ a :: after ∧
      xs.mergeSort (fun a b => key a ≤ key b) = before ++ after ∧
      (∀ b ∈ before, key b < key a) ∧ ∀ b ∈ after, key a ≤ key b := by
  obtain ⟨before, after, hcons, hrest, hbefore⟩ :=
    @List.mergeSort_cons α (fun a b => key a ≤ key b) keyLE_trans keyLE_total a xs
  have hsorted := pairwise_mergeSort_key key (a :: xs)
  rw [hcons, List.pairwise_append, List.pairwise_cons] at hsorted
  exact ⟨before, after, hcons, hrest, fun b hb => by simpa using hbefore b hb, hsorted.2.1.1⟩

/-- A list has one place that parts what has a property from what has not. -/
theorem append_inj_of_parted {p : α → Prop} [DecidablePred p] {xs ys xs' ys' : List α}
    (h : xs ++ ys = xs' ++ ys') (hxs : ∀ a ∈ xs, p a) (hys : ∀ a ∈ ys, ¬p a)
    (hxs' : ∀ a ∈ xs', p a) (hys' : ∀ a ∈ ys', ¬p a) : xs = xs' ∧ ys = ys' := by
  have hfirst : ∀ us vs : List α, (∀ a ∈ us, p a) → (∀ a ∈ vs, ¬p a) →
      (us ++ vs).filter (p ·) = us := by
    intro us vs hus hvs
    rw [List.filter_append, List.filter_eq_self.2 (by simpa using hus),
      List.filter_eq_nil_iff.2 (by simpa using hvs), List.append_nil]
  have hxx : xs = xs' := by rw [← hfirst xs ys hxs hys, h, hfirst xs' ys' hxs' hys']
  subst hxx
  exact ⟨rfl, List.append_cancel_left h⟩

/-- Sorting is stable: what is chosen of a sorted list is what is chosen, sorted. Both lists are
parted where the keys reach that of the first element. -/
theorem filter_mergeSort (p : α → Bool) (xs : List α) :
    (xs.mergeSort fun a b => key a ≤ key b).filter p =
      (xs.filter p).mergeSort fun a b => key a ≤ key b := by
  induction xs with
  | nil => simp
  | cons a xs ih =>
    obtain ⟨before, after, hcons, hrest, hbefore, hafter⟩ := mergeSort_cons_key key a xs
    rw [hrest, List.filter_append] at ih
    rw [hcons, List.filter_append]
    by_cases hp : p a
    · obtain ⟨before', after', hcons', hrest', hbefore', hafter'⟩ :=
        mergeSort_cons_key key a (xs.filter p)
      rw [hrest'] at ih
      obtain ⟨hb, ha⟩ := append_inj_of_parted (p := (key · < key a)) ih
        (fun b hb => hbefore b (List.mem_filter.1 hb).1)
        (fun b hb => Nat.not_lt.2 (hafter b (List.mem_filter.1 hb).1)) hbefore'
        fun b hb => Nat.not_lt.2 (hafter' b hb)
      rw [List.filter_cons_of_pos hp, List.filter_cons_of_pos hp, hcons', hb, ha]
    · rw [List.filter_cons_of_neg hp, List.filter_cons_of_neg hp, ih]

/-- What is sorted starts with the first element that has the least key. -/
theorem head?_mergeSort (xs : List α) :
    (xs.mergeSort fun a b => key a ≤ key b).head? = xs.argmin key := by
  induction xs with
  | nil => simp
  | cons a xs ih =>
    obtain ⟨before, after, hcons, hrest, hbefore, hafter⟩ := mergeSort_cons_key key a xs
    rw [hrest] at ih
    rw [hcons, List.argmin_cons, ← ih]
    cases before with
    | cons b before => simp [hbefore b List.mem_cons_self]
    | nil =>
      cases after with
      | nil => simp
      | cons b after => simp [Nat.not_lt.2 (hafter b List.mem_cons_self)]

end

/-! ## Namesakes -/

namespace Declaration

/-- The container-level declarations below a root that have a name, in pre-order. -/
def namesakes (root : Declaration) (name : String) : List Declaration :=
  (root.lineages.filter fun l => l.IsContainerLevel ∧ l.declaration.name = name).map
    (·.declaration)

theorem namesakes_eq (root : Declaration) (name : String) :
    root.namesakes name =
      ((root.entries.filter (·.2)).filter (·.1.name == name)).map (·.1) := by
  rw [namesakes, entries_eq, List.filter_map, List.filter_map, List.map_map, List.filter_filter]
  congr 1
  refine List.filter_congr fun l _ => ?_
  rw [Bool.eq_iff_iff]
  simp [Lineage.entry, and_comm]

end Declaration

namespace Document

/-- A lookup by name gives the namesakes in the order of their ids. -/
theorem byName_eq_mergeSort (root : Declaration) (name : String) :
    (ofRoot root).byName name = (root.namesakes name).mergeSort fun a b => a.id ≤ b.id := by
  rw [byName_ofRoot, Declaration.containerLevel, filter_mergeSort fun e : Entry => e.1.id,
    Declaration.namesakes_eq]
  exact List.map_mergeSort fun _ _ _ _ => rfl

end Document

namespace Pair

/-- The first of the interfaces with the least id if there is an interface, else the first of
the declarations with children that has the least id if there is one, else the first of all
that has the least id. -/
def leastPreferred (ds : List Declaration) : Option Declaration :=
  if ∃ d ∈ ds, d.kind = .interface then
    (ds.filter (·.kind == .interface)).argmin (·.id)
  else if ∃ d ∈ ds, d.children ≠ [] then
    (ds.filter (!·.children.isEmpty)).argmin (·.id)
  else ds.argmin (·.id)

theorem find?_mergeSort (p : Declaration → Bool) (ds : List Declaration) :
    (ds.mergeSort fun a b => a.id ≤ b.id).find? p = (ds.filter p).argmin (·.id) := by
  rw [← List.head?_filter, filter_mergeSort Declaration.id, head?_mergeSort Declaration.id]

theorem preferred_mergeSort (ds : List Declaration) :
    preferred (ds.mergeSort fun a b => a.id ≤ b.id) = leastPreferred ds := by
  have hnone : ∀ p : Declaration → Bool, (ds.filter p).argmin (·.id) = none ↔
      ¬∃ d ∈ ds, p d = true := fun p => by
    rw [List.argmin_eq_none, List.filter_eq_nil_iff]
    simp
  have hor : ∀ (p : Declaration → Bool) (x : Option Declaration),
      ((ds.filter p).argmin (·.id)).or x =
        if ∃ d ∈ ds, p d = true then (ds.filter p).argmin (·.id) else x := by
    intro p x
    split
    · next h =>
      obtain ⟨d, hd⟩ := Option.ne_none_iff_exists'.1 (mt (hnone p).1 (not_not.2 h))
      rw [hd, Option.some_or]
    · next h => rw [(hnone p).2 h, Option.none_or]
  rw [preferred, find?_mergeSort, find?_mergeSort, head?_mergeSort Declaration.id, hor, hor,
    leastPreferred]
  simp

theorem leastPreferred_eq_none_iff {ds : List Declaration} :
    leastPreferred ds = none ↔ ds = [] := by
  rw [← preferred_mergeSort]
  constructor
  · intro h
    exact List.length_eq_zero_iff.1 (by simpa using congrArg List.length (eq_nil_of_preferred h))
  · rintro rfl
    simp [preferred]

/-- The namesakes of a name in one of the documents. -/
def namesakes (pair : Pair) (s : Schema) (name : String) : List Declaration :=
  (pair.document s).root.namesakes name

variable {pair : Pair} (hp : pair.IsIndexed)
include hp

theorem IsIndexed.byName_eq (s : Schema) (name : String) :
    (pair.document s).byName name =
      (pair.namesakes s name).mergeSort fun a b => a.id ≤ b.id := by
  rw [namesakes, ← Document.byName_eq_mergeSort, ← hp s]

theorem IsIndexed.resolveName_eq (s : Schema) (name : String) :
    pair.resolveName s name =
      match leastPreferred (pair.namesakes s name) with
      | some d => .ok d
      | none =>
        .error (.unresolvedName s name ((pair.document s).search name suggestionLimit)) := by
  rewrite [resolveName, hp.byName_eq, preferred_mergeSort]
  cases leastPreferred (pair.namesakes s name) <;> rfl

theorem IsIndexed.resolveName_eq_ok_iff {s : Schema} {name : String} {d : Declaration} :
    pair.resolveName s name = .ok d ↔ leastPreferred (pair.namesakes s name) = some d := by
  rw [hp.resolveName_eq]
  cases leastPreferred (pair.namesakes s name) <;> simp

theorem IsIndexed.resolveName_fails_iff {s : Schema} {name : String} :
    (∃ f, pair.resolveName s name = .error f) ↔ pair.namesakes s name = [] := by
  rw [hp.resolveName_eq, ← leastPreferred_eq_none_iff]
  cases leastPreferred (pair.namesakes s name) <;> simp

theorem IsIndexed.locateMember_eq_ok_iff {s home : Schema} {name : String} {d : Declaration} :
    pair.locateMember s name = .ok (home, d) ↔
      home = s.companion ∧ leastPreferred (pair.namesakes s.companion name) = some d ∨
        pair.namesakes s.companion name = [] ∧
          home = s ∧ leastPreferred (pair.namesakes s name) = some d := by
  rw [locateMember, ← hp.resolveName_eq_ok_iff, ← hp.resolveName_eq_ok_iff,
    ← hp.resolveName_fails_iff]
  cases pair.resolveName s.companion name with
  | ok c => simp [eq_comm]
  | error f =>
    cases pair.resolveName s name with
    | ok c => simp [eq_comm]
    | error g => simp

theorem IsIndexed.locateMember_fails_iff {s : Schema} {name : String} :
    (∃ f, pair.locateMember s name = .error f) ↔
      pair.namesakes s.companion name = [] ∧ pair.namesakes s name = [] := by
  rw [locateMember, ← hp.resolveName_fails_iff, ← hp.resolveName_fails_iff]
  cases pair.resolveName s.companion name with
  | ok c => simp
  | error f => cases pair.resolveName s name <;> simp

omit hp

/-- Names are looked up as by a plain search of both documents. The declarations that are found
under a name are its namesakes, sorted by their ids and otherwise in pre-order. A name stands
for the interface with the least id among them, else for the one with the least id that has
children, else for the one with the least id, and for nothing if and only if there is none. A
member of an intersection is what its name stands for in the companion of the document that is
read, or in that document if the companion has no namesakes. -/
theorem name_index_agrees (types protocol : Declaration) :
    let pair : Pair := ⟨.ofRoot types, .ofRoot protocol⟩
    (∀ s name, (pair.document s).byName name =
        (pair.namesakes s name).mergeSort fun a b => a.id ≤ b.id) ∧
      (∀ s name d, pair.resolveName s name = .ok d ↔
        leastPreferred (pair.namesakes s name) = some d) ∧
      (∀ s name, (∃ f, pair.resolveName s name = .error f) ↔ pair.namesakes s name = []) ∧
      (∀ s name home d, pair.locateMember s name = .ok (home, d) ↔
        home = s.companion ∧ leastPreferred (pair.namesakes s.companion name) = some d ∨
          pair.namesakes s.companion name = [] ∧
            home = s ∧ leastPreferred (pair.namesakes s name) = some d) ∧
      ∀ s name, (∃ f, pair.locateMember s name = .error f) ↔
        pair.namesakes s.companion name = [] ∧ pair.namesakes s name = [] := by
  intro pair
  have hp : pair.IsIndexed := isIndexed_ofRoot types protocol
  exact ⟨hp.byName_eq, fun _ _ _ => hp.resolveName_eq_ok_iff,
    fun _ _ => hp.resolveName_fails_iff, fun _ _ _ _ => hp.locateMember_eq_ok_iff,
    fun _ _ => hp.locateMember_fails_iff⟩

end Pair

end ZigReflect
