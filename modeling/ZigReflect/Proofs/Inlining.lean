import Mathlib.Data.List.Chain
import Mathlib.Data.List.Perm.Subperm
import Mathlib.Order.WellFounded
import ZigReflect.Lowering.Basic
import ZigReflect.Proofs.Parts

/-!
# Chains of inlined members

Inlining a member of an intersection writes what is below the member, and another
intersection there leads on to further members (`Pair.Inlines`). If no chain of members
goes on for ever, then no member comes twice in a chain. A member is given by its
document and its name, so a chain has at most as many members as the documents have
names, one less than the depth that a run allows (`length_lt_depth`).
-/

namespace ZigReflect

/-- A declaration that is inlined, with the document it belongs to. -/
abbrev Member := Schema × Declaration

namespace Pair

variable (pair : Pair)

/-- An intersection below the first member, read in its document, has the second one as
a member. -/
def Inlines (m n : Member) : Prop :=
  ∃ members name arguments, (Part.type (.intersection members)).Below m.2 ∧
    .reference name arguments ∈ members ∧ pair.locateMember m.1 name = .ok n

/-- No chain of members goes on for ever. -/
def FiniteInlining : Prop :=
  ∀ chain : Nat → Member, ¬∀ i, pair.Inlines (chain i) (chain (i + 1))

/-- The members that a document gives, one for each name at most. -/
def membersOf (s : Schema) : List Member :=
  (pair.document s).names.keys.filterMap fun name =>
    (preferred ((pair.document s).byName name)).map (s, ·)

/-- A list of members, the last one first, each inlined by the one before it. -/
structure Trail (trail : List Member) : Prop where
  linked : trail.IsChain fun n m => pair.Inlines m n
  located : ∀ m ∈ trail, ∃ s name, pair.locateMember s name = .ok m

variable {pair}

theorem mem_names_of_mem_byName {doc : Document} {name : String} {d : Declaration}
    (h : d ∈ doc.byName name) : name ∈ doc.names := by
  by_cases hname : name ∈ doc.names
  · exact hname
  · simp [Document.byName, Std.TreeMap.getD_eq_fallback hname] at h

theorem mem_membersOf_of_resolveName {s : Schema} {name : String} {d : Declaration}
    (h : pair.resolveName s name = .ok d) : (s, d) ∈ pair.membersOf s := by
  have hname := mem_names_of_mem_byName (mem_byName_of_resolveName h)
  unfold resolveName at h
  dsimp only at h
  split at h
  · next found hfound =>
    cases h
    exact List.mem_filterMap.2 ⟨name, Std.TreeMap.mem_keys.2 hname, by rw [hfound]; rfl⟩
  · cases h

theorem mem_membersOf_of_locateMember {s : Schema} {name : String} {m : Member}
    (h : pair.locateMember s name = .ok m) :
    m ∈ pair.membersOf .types ++ pair.membersOf .protocol := by
  have hmem : m ∈ pair.membersOf m.1 := by
    unfold locateMember at h
    split at h
    · next d hd =>
      cases h
      exact mem_membersOf_of_resolveName hd
    · split at h
      · next d hd =>
        cases h
        exact mem_membersOf_of_resolveName hd
      · cases h
  rw [List.mem_append]
  cases hs : m.1 with
  | types => exact .inl (hs ▸ hmem)
  | protocol => exact .inr (hs ▸ hmem)

/-- A member that the last one inlines goes on the trail. -/
theorem Trail.cons {trail : List Member} (ht : pair.Trail trail) {s : Schema} {name : String}
    {m : Member} (hm : pair.locateMember s name = .ok m)
    (hlast : ∀ last ∈ trail.head?, pair.Inlines last m) : pair.Trail (m :: trail) where
  linked := List.isChain_cons.2 ⟨hlast, ht.linked⟩
  located := by
    intro n hn
    obtain rfl | hn := List.mem_cons.1 hn
    · exact ⟨s, name, hm⟩
    · exact ht.located n hn

theorem length_membersOf_le (s : Schema) :
    (pair.membersOf s).length ≤ (pair.document s).names.size := by
  refine (List.length_filterMap_le _ _).trans ?_
  rw [Std.TreeMap.length_keys]

/-- Inlining comes to an end if members inline only members of a lower rank. -/
theorem finiteInlining_of_rank (rank : Member → Nat)
    (h : ∀ m ∈ pair.membersOf .types ++ pair.membersOf .protocol, ∀ n, pair.Inlines m n →
      rank n < rank m) : pair.FiniteInlining := by
  intro chain hchain
  have hdescends : ∀ i, rank (chain (i + 2)) < rank (chain (i + 1)) := by
    intro i
    obtain ⟨-, name, -, -, -, hlocated⟩ := hchain i
    exact h _ (mem_membersOf_of_locateMember hlocated) _ (hchain (i + 1))
  exact (wellFounded_iff_isEmpty_descending_chain.1 wellFounded_lt).false
    ⟨fun i => rank (chain (i + 1)), hdescends⟩

/-- Without an endless chain, no member comes twice. -/
theorem FiniteInlining.nodup (h : pair.FiniteInlining) {trail : List Member}
    (ht : pair.Trail trail) : trail.Nodup := by
  have hwf : WellFounded fun n m => pair.Inlines m n :=
    wellFounded_iff_isEmpty_descending_chain.2 ⟨fun ⟨chain, hchain⟩ => h chain hchain⟩
  have hpairwise : trail.Pairwise (Relation.TransGen fun n m => pair.Inlines m n) :=
    List.isChain_iff_pairwise.1 (ht.linked.imp fun _ _ => Relation.TransGen.single)
  refine hpairwise.imp fun {n m} hnm heq => ?_
  subst heq
  exact hwf.transGen.irrefl.irrefl _ hnm

/-- A chain of inlined members ends before the depth of a run is used up. -/
theorem FiniteInlining.length_lt_depth (h : pair.FiniteInlining) {trail : List Member}
    (ht : pair.Trail trail) : trail.length < pair.depth := by
  have hsubset : trail ⊆ pair.membersOf .types ++ pair.membersOf .protocol := fun m hm => by
    obtain ⟨s, name, hlocated⟩ := ht.located m hm
    exact mem_membersOf_of_locateMember hlocated
  have hle := (List.subperm_of_subset (h.nodup ht) hsubset).length_le
  have htypes := pair.length_membersOf_le .types
  have hprotocol := pair.length_membersOf_le .protocol
  rw [List.length_append] at hle
  simp only [depth, document] at htypes hprotocol ⊢
  omega

end Pair

end ZigReflect
