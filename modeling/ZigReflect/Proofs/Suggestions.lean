import ZigReflect.Proofs.Faults
import ZigReflect.Proofs.Ranking

/-!
# Suggestions of a failed lookup

A lookup by name that fails searches the document for the name. What the search finds are names
of the index, so all of them can be resolved and none is the name that was asked for
(`IsIndexed.suggests`). No other step makes such a failure: a rule fails as the lookups of its
parts do, and so does an inlined member. So this holds of all failures of an emission and of a
run that are failures of a lookup by name (`searches_ranked`).
-/

namespace ZigReflect.Pair

open Emission Lowering

/-- Names that may be suggested in place of a name that a document does not have: few and
different ones, none of them that name, and all of them can be resolved in the document. -/
structure Suggests (pair : Pair) (s : Schema) (name : String) (suggestions : List String) :
    Prop where
  length_le : suggestions.length ≤ 3
  nodup : suggestions.Nodup
  notMem : name ∉ suggestions
  resolves : ∀ other ∈ suggestions, ∃ d, pair.resolveName s other = .ok d

/-- If the failure is that of a lookup by name, its suggestions are usable. -/
def FailsUsably (pair : Pair) : Failure → Prop
  | .unresolvedName s name suggestions => pair.Suggests s name suggestions
  | _ => True

/-- The failure is that of a lookup by name, of an emission from some emitter, or of a run. -/
inductive Raises (pair : Pair) : Failure → Prop
  | name {s : Schema} {name : String} {f : Failure}
      (h : pair.resolveName s name = .error f) : Raises pair f
  | member {s : Schema} {name : String} {f : Failure}
      (h : pair.locateMember s name = .error f) : Raises pair f
  | type {t : TypeNode} {e : Emitter} {f : Failure}
      (h : ((pair.emitType t).on e).1 = .error f) : Raises pair f
  | declaration {d : Declaration} {e : Emitter} {f : Failure}
      (h : ((pair.emitDeclaration d).on e).1 = .error f) : Raises pair f
  | topLevel {d : Declaration} {e : Emitter} {f : Failure}
      (h : ((pair.emitTopLevel d).on e).1 = .error f) : Raises pair f
  | run {exclusion? : Declaration → Option Notice} {summary : SummarySettings}
      {preamble : String} {f : Failure}
      (h : (pair.generate exclusion? summary preamble).result = .error f) : Raises pair f

variable {pair : Pair}

/-! ## Lookups -/

/-- What is found in place of a name that has no namesakes is usable. -/
theorem IsIndexed.suggests (hp : pair.IsIndexed) {s : Schema} {name : String}
    (h : pair.namesakes s name = []) :
    pair.Suggests s name ((pair.document s).search name suggestionLimit) := by
  obtain ⟨ranked, hranked, -, hsearch⟩ :=
    Document.search_takes_ranking (pair.document s).root name
  rw [← hp s] at hsearch
  obtain ⟨hfound, hlength⟩ := hsearch suggestionLimit
  have hnamesakes : ∀ other ∈ (pair.document s).search name suggestionLimit,
      pair.namesakes s other ≠ [] := by
    intro other hother
    rw [hfound] at hother
    exact ((hranked.mem_iff other).1 (List.mem_of_mem_take hother)).1
  refine ⟨?_, ?_, fun hmem => hnamesakes name hmem h, fun other hother => ?_⟩
  · rw [hlength]
    exact Nat.min_le_left _ _
  · rw [hfound]
    exact hranked.nodup.sublist (List.take_sublist _ _)
  · cases hresult : pair.resolveName s other with
    | ok d => exact ⟨d, rfl⟩
    | error f =>
      exact (hnamesakes other hother (hp.resolveName_fails_iff.1 ⟨f, hresult⟩)).elim

theorem IsIndexed.failsUsably_resolveName (hp : pair.IsIndexed) {s : Schema} {name : String}
    {f : Failure} (h : pair.resolveName s name = .error f) : pair.FailsUsably f := by
  have hnone := hp.resolveName_fails_iff.1 ⟨f, h⟩
  obtain ⟨rfl, -⟩ := hp.resolveName_error h
  exact hp.suggests hnone

/-- The failure is that of the companion, and the suggestions are names of the companion. -/
theorem IsIndexed.failsUsably_locateMember (hp : pair.IsIndexed) {s : Schema} {name : String}
    {f : Failure} (h : pair.locateMember s name = .error f) : pair.FailsUsably f := by
  have hnone := (hp.locateMember_fails_iff.1 ⟨f, h⟩).1
  obtain ⟨rfl, -⟩ := hp.locateMember_error h
  exact hp.suggests hnone

/-! ## Emissions -/

theorem IsIndexed.failsUsably_referenceDeclaration (hp : pair.IsIndexed) (s : Schema)
    (d : Declaration) : (referenceDeclaration pair d).FailsBy pair.FailsUsably s := by
  unfold referenceDeclaration
  split
  · intro e he
    refine ⟨he, fun f hf => ?_⟩
    obtain rfl := Except.error.inj hf
    trivial
  · refine .reading_bind
      (failsBy_ofExcept_bind ?_ fun _ _ => (failsBy pair.FailsUsably).rel_documented d _)
    intro f hf
    obtain ⟨rfl, -⟩ := hp.resolveId_error hf
    trivial

theorem IsIndexed.covers_failsUsably (hp : pair.IsIndexed) {inline : Inliner} {s : Schema}
    (hinline : ∀ name, (inline name).FailsBy pair.FailsUsably s) (p : Part) :
    (failsBy pair.FailsUsably).Covers pair inline inline s p where
  target d _ _ := hp.failsUsably_referenceDeclaration s d
  member _ _ name _ _ := hinline name

/-- The fields of a member fail usably, by induction on how deep members may be inlined. -/
theorem IsIndexed.failsUsably_inliner (hp : pair.IsIndexed) :
    ∀ (depth : Nat) (s : Schema) (name : String),
      (inliner pair depth name).FailsBy pair.FailsUsably s
  | 0, s, name => by
    intro e he
    refine ⟨he, fun f hf => ?_⟩
    obtain rfl := Except.error.inj hf
    trivial
  | depth + 1, s, name => by
    refine .reading_bind (failsBy_ofExcept_bind (fun f => hp.failsUsably_locateMember)
      fun m _ => FailsBy.within ?_ s)
    exact StepRelation.rel_fields fun c _ =>
      hp.covers_failsUsably (hp.failsUsably_inliner depth m.1) (.declaration c)

theorem IsIndexed.failsUsably_emitType (hp : pair.IsIndexed) (s : Schema) (t : TypeNode) :
    (pair.emitType t).FailsBy pair.FailsUsably s :=
  (hp.covers_failsUsably (hp.failsUsably_inliner pair.depth s) (.type t)).rel_type

theorem IsIndexed.failsUsably_emitDeclaration (hp : pair.IsIndexed) (s : Schema)
    (d : Declaration) : (pair.emitDeclaration d).FailsBy pair.FailsUsably s :=
  (hp.covers_failsUsably (hp.failsUsably_inliner pair.depth s) (.declaration d)).rel_declaration

theorem IsIndexed.failsUsably (hp : pair.IsIndexed) {f : Failure} (h : pair.Raises f) :
    pair.FailsUsably f := by
  cases h with
  | name h => exact hp.failsUsably_resolveName h
  | member h => exact hp.failsUsably_locateMember h
  | type h => exact (hp.failsUsably_emitType _ _ _ rfl).2 f h
  | declaration h => exact (hp.failsUsably_emitDeclaration _ _ _ rfl).2 f h
  | @topLevel d e _ h =>
    rw [on_emitTopLevel] at h
    split at h
    · cases h
    · split at h
      · cases h
      · rw [← on_emitDeclaration] at h
        exact (hp.failsUsably_emitDeclaration _ _ e rfl).2 f h
  | @run exclusion? _ _ _ h =>
    cases hfirst : pair.firstFailure? [] (pair.kept exclusion?) with
    | none => simp [generate_of_none hfirst] at h
    | some g =>
      obtain rfl : g = f := by simpa [generate_of_some hfirst] using h
      obtain ⟨before, v, ⟨-, hexposed⟩, -⟩ := exposedIn_of_some hfirst
      exact (hp.failsUsably_emitDeclaration v.1 v.2 (.fresh v.1) rfl).2 g hexposed.1

/-- A search for a query finds the first names of one ranking of all container-level names that
contain the query, whatever the order of the index and whatever the limit, so a greater limit
only adds names at the end. A failed lookup by name, in an emission or a run too, suggests at
most three different names, other than the one that was asked for, which can all be resolved in
the document that the failure names. -/
theorem searches_ranked (types protocol : Declaration) :
    let pair : Pair := ⟨.ofRoot types, .ofRoot protocol⟩
    (∀ s query, ∃ ranked, Document.IsRanking (pair.document s).root query ranked ∧
        (∀ names, names.Perm (pair.document s).names.keys → ∀ limit,
          Document.searchAmong names query limit = ranked.take limit) ∧
        ∀ limit, (pair.document s).search query limit = ranked.take limit ∧
          ((pair.document s).search query limit).length = min limit ranked.length) ∧
      (∀ s query k k', k ≤ k' →
        (pair.document s).search query k <+: (pair.document s).search query k') ∧
      ∀ s name suggestions, pair.Raises (.unresolvedName s name suggestions) →
        pair.Suggests s name suggestions := by
  intro pair
  have hp : pair.IsIndexed := isIndexed_ofRoot types protocol
  refine ⟨fun s query => ?_, fun s query k k' hk => ?_, fun _ _ _ => hp.failsUsably⟩
  · rw [hp s]
    exact Document.search_takes_ranking (pair.document s).root query
  · obtain ⟨ranked, -, -, hsearch⟩ :=
      Document.search_takes_ranking (pair.document s).root query
    rw [hp s, (hsearch k).1, (hsearch k').1]
    exact List.take_prefix_take_left hk

end ZigReflect.Pair
