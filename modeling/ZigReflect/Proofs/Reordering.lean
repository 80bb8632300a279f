import Mathlib.Data.List.Forall2
import Mathlib.Data.List.Nodup
import ZigReflect.Proofs.Contents

/-!
# Reordered reflections

Two reflections are reordered (`Declaration.Reordered`) if they differ in the
order of children at most, anywhere in the tree: below a declaration, and in a
declaration that stands in the place of a type.

Lists whose elements are related one to one in some order are shuffled
(`Shuffled`). What sorts such lists by a key that no two elements share, or looks
for the one element with a property, does not see the order. So all that is read
of the children of a declaration is the same for a reordered one, except the
order itself, and the children in the order of their ids are reordered one by one.
-/

namespace ZigReflect

/-! ## Lists up to order -/

section

variable {α β : Type}

/-- Some order of the second list is related to the first one, element by
element. -/
def Shuffled (R : α → β → Prop) (xs : List α) (ys : List β) : Prop :=
  ∃ middle, List.Forall₂ R xs middle ∧ middle.Perm ys

variable {R : α → β → Prop} {xs : List α} {ys : List β}

theorem Shuffled.append {xs' : List α} {ys' : List β} (h : Shuffled R xs ys)
    (h' : Shuffled R xs' ys') : Shuffled R (xs ++ xs') (ys ++ ys') := by
  obtain ⟨middle, hf, hp⟩ := h
  obtain ⟨middle', hf', hp'⟩ := h'
  exact ⟨middle ++ middle', List.rel_append hf hf', hp.append hp'⟩

/-- What is shuffled can be reordered further. -/
theorem Shuffled.trans_perm {zs : List β} (h : Shuffled R xs ys) (hp : ys.Perm zs) :
    Shuffled R xs zs := by
  obtain ⟨middle, hf, hm⟩ := h
  exact ⟨middle, hf, hm.trans hp⟩

/-- Choosing by what related elements have in common keeps lists shuffled. -/
theorem Shuffled.filter {p : α → Bool} {q : β → Bool} (hpq : ∀ a b, R a b → p a = q b)
    (h : Shuffled R xs ys) : Shuffled R (xs.filter p) (ys.filter q) := by
  obtain ⟨middle, hf, hm⟩ := h
  refine ⟨middle.filter q, List.rel_filter (fun a b hab => ?_) hf, hm.filter q⟩
  exact Bool.eq_iff_iff.1 (hpq a b hab)

/-- Lists of related elements have the same of all that related elements have in common. -/
theorem map_eq_of_forall₂ {γ : Type} {f : α → γ} {g : β → γ} (hfg : ∀ a b, R a b → f a = g b)
    (h : List.Forall₂ R xs ys) : xs.map f = ys.map g := by
  rw [← List.forall₂_eq_eq_eq, List.forall₂_map_left_iff, List.forall₂_map_right_iff]
  exact h.imp hfg

theorem exists_mem_of_forall₂ : ∀ {xs : List α} {ys : List β}, List.Forall₂ R xs ys →
    ∀ x ∈ xs, ∃ y ∈ ys, R x y
  | _, _, .cons hxy hrest, x, hx => by
    rcases List.mem_cons.1 hx with rfl | hx
    · exact ⟨_, List.mem_cons_self, hxy⟩
    · obtain ⟨y, hy, hxy⟩ := exists_mem_of_forall₂ hrest x hx
      exact ⟨y, List.mem_cons_of_mem _ hy, hxy⟩

theorem exists_of_forall₂ {xs : List α} {ys : List β} (h : List.Forall₂ R xs ys) :
    ∀ x ∈ xs, ∃ y, R x y := by
  intro x hx
  obtain ⟨y, -, hxy⟩ := exists_mem_of_forall₂ h x hx
  exact ⟨y, hxy⟩

/-- Related elements that give the same give lists that are equal up to order. -/
theorem Shuffled.map_perm {γ : Type} {f : α → γ} {g : β → γ} (hfg : ∀ a b, R a b → f a = g b)
    (h : Shuffled R xs ys) : (xs.map f).Perm (ys.map g) := by
  obtain ⟨middle, hf, hm⟩ := h
  rw [map_eq_of_forall₂ hfg hf]
  exact hm.map g

/-- Whether there is an element of some kind does not depend on the order. -/
theorem Shuffled.any_eq {p : α → Bool} {q : β → Bool} (hpq : ∀ a b, R a b → p a = q b)
    (h : Shuffled R xs ys) : xs.any p = ys.any q := by
  have hmap := h.map_perm hpq
  rw [Bool.eq_iff_iff]
  simpa using hmap.mem_iff (a := true)

theorem Shuffled.reverse (h : Shuffled R xs ys) : Shuffled R xs.reverse ys.reverse := by
  obtain ⟨middle, hf, hm⟩ := h
  exact ⟨middle.reverse, List.rel_reverse hf,
    (List.reverse_perm _).trans (hm.trans (List.reverse_perm _).symm)⟩

/-- What is found by a property that at most one element has does not depend on
the order. -/
theorem Shuffled.find?_rel {p : α → Bool} {q : β → Bool} (hpq : ∀ a b, R a b → p a = q b)
    (h : Shuffled R xs ys) (hone : xs.countP p ≤ 1) :
    Option.Rel R (xs.find? p) (ys.find? q) := by
  obtain ⟨middle, hf, hm⟩ := h.filter hpq
  rw [List.countP_eq_length_filter] at hone
  rw [← List.head?_filter, ← List.head?_filter]
  generalize xs.filter p = found, ys.filter q = found' at hf hm hone
  cases hf with
  | nil =>
    rw [List.nil_perm.1 hm]
    exact .none
  | cons hab hrest =>
    obtain rfl := List.eq_nil_of_length_eq_zero (by simpa using hone)
    cases hrest
    rw [← List.singleton_perm.1 hm]
    exact .some hab

/-- At most one element has a given key if no two share one. -/
theorem countP_le_one_of_nodup {key : α → Nat} (h : (xs.map key).Nodup) (k : Nat) :
    xs.countP (key · == k) ≤ 1 := by
  have hcount := List.nodup_iff_count_le_one.1 h k
  rwa [List.count, List.countP_map] at hcount

/-- The first elements of some kind are related. -/
theorem forall₂_find? {p : α → Bool} {q : β → Bool} (hpq : ∀ a b, R a b → p a = q b) :
    ∀ {xs : List α} {ys : List β}, List.Forall₂ R xs ys →
      Option.Rel R (xs.find? p) (ys.find? q)
  | _, _, .nil => .none
  | a :: _, b :: _, .cons hab h => by
    rw [List.find?_cons, List.find?_cons, hpq a b hab]
    split
    · exact .some hab
    · exact forall₂_find? hpq h

theorem keyLE_trans {key : α → Nat} (a b c : α) (hab : decide (key a ≤ key b) = true)
    (hbc : decide (key b ≤ key c) = true) : decide (key a ≤ key c) = true := by
  simp only [decide_eq_true_eq] at hab hbc ⊢
  omega

theorem keyLE_total {key : α → Nat} (a b : α) :
    (decide (key a ≤ key b) || decide (key b ≤ key a)) = true := by
  simp only [Bool.or_eq_true, decide_eq_true_eq]
  omega

/-- A list that is sorted by a key is in its order. -/
theorem pairwise_mergeSort_key (key : α → Nat) (xs : List α) :
    (xs.mergeSort fun a b => key a ≤ key b).Pairwise fun a b => key a ≤ key b := by
  have hsorted : (xs.mergeSort fun a b => key a ≤ key b).Pairwise
      fun a b => decide (key a ≤ key b) = true :=
    List.pairwise_mergeSort keyLE_trans keyLE_total xs
  simpa using hsorted

/-- Sorting by a key that no two elements share does not depend on the order. -/
theorem mergeSort_eq_of_perm {key : β → Nat} {zs : List β} (h : ys.Perm zs)
    (hkeys : (ys.map key).Nodup) :
    ys.mergeSort (fun a b => key a ≤ key b) = zs.mergeSort (fun a b => key a ≤ key b) := by
  refine List.Perm.eq_of_pairwise (fun a b ha hb hab hba => ?_) (pairwise_mergeSort_key key ys)
    (pairwise_mergeSort_key key zs)
    ((List.mergeSort_perm ys _).trans (h.trans (List.mergeSort_perm zs _).symm))
  exact List.inj_on_of_nodup_map hkeys (List.mem_mergeSort.1 ha)
    (h.symm.subset (List.mem_mergeSort.1 hb)) (Nat.le_antisymm hab hba)

/-- Lists that are related element by element stay so when they are sorted: both are projections of
one list of pairs, and so are the sorted ones. -/
theorem forall₂_mergeSort {key : α → Nat} {key' : β → Nat} (hkey : ∀ a b, R a b → key a = key' b)
    (h : List.Forall₂ R xs ys) :
    List.Forall₂ R (xs.mergeSort fun a b => key a ≤ key b)
      (ys.mergeSort fun a b => key' a ≤ key' b) := by
  have hpairs := List.forall₂_iff_zip.1 h
  have hfst : (xs.zip ys).map Prod.fst = xs := List.map_fst_zip (Nat.le_of_eq hpairs.1)
  have hsnd : (xs.zip ys).map Prod.snd = ys := List.map_snd_zip (Nat.le_of_eq hpairs.1.symm)
  generalize xs.zip ys = pairs at hpairs hfst hsnd
  have hR : ∀ p ∈ pairs, R p.1 p.2 := fun p hp => hpairs.2 hp
  rw [← hfst, ← hsnd, ← List.map_mergeSort (r := fun p q => decide (key p.1 ≤ key q.1))
      (fun _ _ _ _ => rfl), ← List.map_mergeSort (r := fun p q => decide (key p.1 ≤ key q.1))
      (fun p hp q hq => by rw [hkey _ _ (hR p hp), hkey _ _ (hR q hq)]),
    List.forall₂_map_left_iff, List.forall₂_map_right_iff, List.forall₂_same]
  exact fun p hp => hR p (List.mem_mergeSort.1 hp)

/-- Shuffled lists with distinct keys are related one by one after sorting. -/
theorem Shuffled.mergeSort {key : α → Nat} {key' : β → Nat} (hkey : ∀ a b, R a b → key a = key' b)
    (h : Shuffled R xs ys) (hkeys : (xs.map key).Nodup) :
    List.Forall₂ R (xs.mergeSort fun a b => key a ≤ key b)
      (ys.mergeSort fun a b => key' a ≤ key' b) := by
  obtain ⟨middle, hf, hm⟩ := h
  have hmiddle : (middle.map key').Nodup :=
    (Shuffled.map_perm hkey ⟨middle, hf, .refl _⟩).nodup hkeys
  rw [← mergeSort_eq_of_perm hm hmiddle]
  exact forall₂_mergeSort hkey hf

end

/-! ## Reordered types and declarations -/

mutual

/-- The types differ in the order of children at most. -/
inductive TypeNode.Reordered : TypeNode → TypeNode → Prop
  | intrinsic (name : String) : TypeNode.Reordered (.intrinsic name) (.intrinsic name)
  | reference (name : String) {ts us : List TypeNode} :
    List.Forall₂ TypeNode.Reordered ts us →
      TypeNode.Reordered (.reference name ts) (.reference name us)
  | array {t u : TypeNode} :
    TypeNode.Reordered t u → TypeNode.Reordered (.array t) (.array u)
  | literal (value : Literal) : TypeNode.Reordered (.literal value) (.literal value)
  | union {ts us : List TypeNode} :
    List.Forall₂ TypeNode.Reordered ts us → TypeNode.Reordered (.union ts) (.union us)
  | tuple {ts us : List TypeNode} :
    List.Forall₂ TypeNode.Reordered ts us → TypeNode.Reordered (.tuple ts) (.tuple us)
  | intersection {ts us : List TypeNode} :
    List.Forall₂ TypeNode.Reordered ts us →
      TypeNode.Reordered (.intersection ts) (.intersection us)
  | indexedAccess {t u i j : Option TypeNode} :
    Option.Rel TypeNode.Reordered t u → Option.Rel TypeNode.Reordered i j →
      TypeNode.Reordered (.indexedAccess t i) (.indexedAccess u j)
  | query {t u : Option TypeNode} :
    Option.Rel TypeNode.Reordered t u → TypeNode.Reordered (.query t) (.query u)
  | reflection {c d : Declaration} :
    Declaration.Reordered c d → TypeNode.Reordered (.reflection c) (.reflection d)

/-- The declarations differ in the order of children at most: the children are
reordered one by one and then put in another order, and the type and the signatures
are reordered where they stand. -/
inductive Declaration.Reordered : Declaration → Declaration → Prop
  | mk {d : Declaration} {middle children signatures : List Declaration}
      {type : Option TypeNode} :
    List.Forall₂ Declaration.Reordered d.children middle → middle.Perm children →
      Option.Rel TypeNode.Reordered d.type type →
      List.Forall₂ Declaration.Reordered d.signatures signatures →
      Declaration.Reordered d { d with children, type, signatures }

end

namespace TypeNode.Reordered

variable {t u : TypeNode}

/-- A literal has no children, so it stays as it is. -/
theorem literalValue?_eq (h : t.Reordered u) : t.literalValue? = u.literalValue? := by
  cases h <;> rfl

theorem isNull_eq (h : t.Reordered u) : t.isNull = u.isNull := by
  cases h <;> rfl

/-- The name of a type does not depend on the order of children. -/
theorem ownName_eq (h : t.Reordered u) : t.ownName = u.ownName := by
  cases h <;> rfl

/-- The name of the shape of a type does not depend on the order of children. -/
theorem shapeName_eq (h : t.Reordered u) : t.shapeName = u.shapeName := by
  cases h <;> rfl

end TypeNode.Reordered

namespace Declaration.Reordered

variable {c d : Declaration}

theorem id_eq (h : c.Reordered d) : c.id = d.id := by
  cases h
  rfl

theorem name_eq (h : c.Reordered d) : c.name = d.name := by
  cases h
  rfl

theorem kind_eq (h : c.Reordered d) : c.kind = d.kind := by
  cases h
  rfl

theorem sources_eq (h : c.Reordered d) : c.sources = d.sources := by
  cases h
  rfl

/-- The children are reordered below, and then among each other. -/
theorem shuffled_children (h : c.Reordered d) :
    Shuffled Declaration.Reordered c.children d.children := by
  obtain ⟨hc, hp, -, -⟩ := h
  exact ⟨_, hc, hp⟩

/-- The types of reordered declarations are reordered. -/
theorem type_rel (h : c.Reordered d) : Option.Rel TypeNode.Reordered c.type d.type := by
  obtain ⟨-, -, ht, -⟩ := h
  exact ht

/-- Whether there are signatures does not depend on the order. -/
theorem signatures_isEmpty_eq (h : c.Reordered d) :
    c.signatures.isEmpty = d.signatures.isEmpty := by
  obtain ⟨-, -, -, hs⟩ := h
  rw [Bool.eq_iff_iff, List.isEmpty_iff_length_eq_zero, List.isEmpty_iff_length_eq_zero,
    hs.length_eq]

theorem children_isEmpty_eq (h : c.Reordered d) : c.children.isEmpty = d.children.isEmpty := by
  obtain ⟨hc, hp, -, -⟩ := h
  rw [Bool.eq_iff_iff, List.isEmpty_iff_length_eq_zero, List.isEmpty_iff_length_eq_zero,
    hc.length_eq, hp.length_eq]

theorem literalType_eq (h : c.Reordered d) : c.literalType = d.literalType := by
  unfold literalType
  generalize c.type = t, d.type = u, h.type_rel = ht
  cases ht with
  | none => rfl
  | some ht => exact ht.literalValue?_eq

/-- Reordered declarations are callable alike. -/
theorem isCallable_eq (h : c.Reordered d) : c.isCallable = d.isCallable := by
  unfold isCallable
  rw [h.kind_eq]
  generalize c.type = t, d.type = u, h.type_rel = ht
  cases ht with
  | none => rfl
  | some ht =>
    cases ht with
    | reflection hinner => simp only [hinner.signatures_isEmpty_eq]
    | _ => rfl

/-- Whether a child is callable does not depend on the order. -/
theorem hasCallableChild_eq (h : c.Reordered d) : c.hasCallableChild = d.hasCallableChild :=
  h.shuffled_children.any_eq fun _ _ hab => hab.isCallable_eq

/-- The children in the order of their ids are reordered one by one, if their ids
are distinct. -/
theorem forall₂_sortedChildren (h : c.Reordered d) (hids : (c.children.map (·.id)).Nodup) :
    List.Forall₂ Declaration.Reordered c.sortedChildren d.sortedChildren :=
  h.shuffled_children.mergeSort (fun _ _ hab => hab.id_eq) hids

end Declaration.Reordered

end ZigReflect
