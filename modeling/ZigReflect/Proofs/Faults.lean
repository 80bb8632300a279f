import ZigReflect.Proofs.FirstWriter
import ZigReflect.Proofs.Inlining
import ZigReflect.Proofs.StepRelation

/-!
# What makes a run fail

Lookups are all that fails: that of the target of a reference and those of the members
of an intersection. `Pair.Fault` says of a failure which part of which document it comes
from, and that the lookup had nothing to find there. Every rule fails by a fault of its
parts at most (`Emission.FailsBy`), and so does an inlined member, whose parts stand in
the document that has it. The depth of a run does not run out unless members inline each
other without end, so a run fails by a fault or not at all (`generate_fails_by_fault`).
-/

namespace ZigReflect

/-! ## Lookups that find nothing -/

/-- The id is that of a declaration below the root. -/
def Document.DeclaresId (doc : Document) (id : Nat) : Prop :=
  ∃ e ∈ doc.root.entries, e.1.id = id

/-- The name is that of a container-level declaration. -/
def Document.DeclaresName (doc : Document) (name : String) : Prop :=
  ∃ e ∈ doc.root.entries, e.2 = true ∧ e.1.name = name

namespace Document

theorem not_declaresId_of_byId {root : Declaration} {id : Nat}
    (h : (ofRoot root).byId id = none) : ¬(ofRoot root).DeclaresId id := by
  rintro ⟨e, he, hid⟩
  rw [byId_ofRoot, Option.map_eq_none_iff, List.find?_eq_none] at h
  exact h e (List.mem_reverse.2 he) (by simp [hid])

theorem not_declaresName_of_byName {root : Declaration} {name : String}
    (h : (ofRoot root).byName name = []) : ¬(ofRoot root).DeclaresName name := by
  rintro ⟨e, he, hnamed, hname⟩
  rw [byName_ofRoot, List.map_eq_nil_iff, List.filter_eq_nil_iff] at h
  exact h e (List.mem_mergeSort.2 (List.mem_filter.2 ⟨he, hnamed⟩)) (by simp [hname])

end Document

namespace Pair

variable {pair : Pair}

/-- An id that does not resolve is not declared, and the failure names it. -/
theorem IsIndexed.resolveId_error (hp : pair.IsIndexed) {s : Schema} {id : Nat} {f : Failure}
    (h : pair.resolveId s id = .error f) :
    f = .unresolvedId s id ∧ ¬(pair.document s).DeclaresId id := by
  unfold resolveId at h
  split at h
  · cases h
  · next hnone =>
    cases h
    rw [hp s] at hnone ⊢
    exact ⟨rfl, Document.not_declaresId_of_byId hnone⟩

/-- A name that does not resolve is not declared, and the failure lists what is like it. -/
theorem IsIndexed.resolveName_error (hp : pair.IsIndexed) {s : Schema} {name : String}
    {f : Failure} (h : pair.resolveName s name = .error f) :
    f = .unresolvedName s name ((pair.document s).search name suggestionLimit) ∧
      ¬(pair.document s).DeclaresName name := by
  unfold resolveName at h
  dsimp only at h
  split at h
  · cases h
  · next hnone =>
    cases h
    have hnil := eq_nil_of_preferred hnone
    rw [hp s] at hnil ⊢
    exact ⟨rfl, Document.not_declaresName_of_byName hnil⟩

/-- A member is looked for in both documents, and the failure names the companion of the
one that is read. -/
theorem IsIndexed.locateMember_error (hp : pair.IsIndexed) {s : Schema} {name : String}
    {f : Failure} (h : pair.locateMember s name = .error f) :
    f = .unresolvedName s.companion name
        ((pair.document s.companion).search name suggestionLimit) ∧
      ∀ home, ¬(pair.document home).DeclaresName name := by
  unfold locateMember at h
  split at h
  · cases h
  · next failure hcompanion =>
    split at h
    · cases h
    · next hown =>
      cases h
      obtain ⟨hf, hcompanion⟩ := hp.resolveName_error hcompanion
      obtain ⟨-, hown⟩ := hp.resolveName_error hown
      refine ⟨hf, fun home => ?_⟩
      cases s <;> cases home
      · exact hown
      · exact hcompanion
      · exact hcompanion
      · exact hown

/-- A member is found in its document. -/
theorem IsIndexed.below_of_locateMember (hp : pair.IsIndexed) {s : Schema} {name : String}
    {m : Member} (h : pair.locateMember s name = .ok m) :
    (Part.declaration m.2).Below (pair.document m.1).root := by
  have hmem := mem_byName_of_locateMember h
  rw [hp m.1] at hmem
  exact Document.below_of_mem_byName hmem

/-! ## Faults -/

/-- A failure that comes from a part of a document: a reference without a target, a
reference whose target is not an id of its document, or a member of an intersection
whose name is that of no container-level declaration. -/
inductive Fault (pair : Pair) : Failure → Prop
  | targetless {s : Schema} {d : Declaration}
      (below : (Part.declaration d).Below (pair.document s).root)
      (kind : d.kind = .reference) (target : d.target = none) :
    Fault pair (.invalidSchema ("reference `" ++ d.name ++ "` has no target"))
  | unknownTarget {s : Schema} {d : Declaration} {id : Nat}
      (below : (Part.declaration d).Below (pair.document s).root)
      (kind : d.kind = .reference) (target : d.target = some id)
      (unknown : ¬(pair.document s).DeclaresId id) :
    Fault pair (.unresolvedId s id)
  | unknownMember {s : Schema} {members arguments : List TypeNode} {name : String}
      (below : (Part.type (.intersection members)).Below (pair.document s).root)
      (member : .reference name arguments ∈ members)
      (unknown : ∀ home, ¬(pair.document home).DeclaresName name) :
    Fault pair (.unresolvedName s.companion name
      ((pair.document s.companion).search name suggestionLimit))

/-- Every reference and every member of an intersection has what it names. -/
structure Resolved (pair : Pair) : Prop where
  targets : ∀ s d, (Part.declaration d).Below (pair.document s).root → d.kind = .reference →
    ∃ id, d.target = some id ∧ (pair.document s).DeclaresId id
  members : ∀ s members name arguments,
    (Part.type (.intersection members)).Below (pair.document s).root →
      .reference name arguments ∈ members → ∃ home, (pair.document home).DeclaresName name

/-- Where everything resolves there is no fault. -/
theorem Resolved.not_fault (h : pair.Resolved) {f : Failure} : ¬pair.Fault f := by
  rintro (⟨below, kind, target⟩ | ⟨below, kind, target, unknown⟩ | ⟨below, member, unknown⟩)
  · obtain ⟨id, hid, -⟩ := h.targets _ _ below kind
    rw [target] at hid
    cases hid
  · obtain ⟨id, hid, hdeclared⟩ := h.targets _ _ below kind
    rw [target] at hid
    cases hid
    exact unknown hdeclared
  · obtain ⟨home, hdeclared⟩ := h.members _ _ _ _ below member
    exact unknown home hdeclared

end Pair

/-! ## Steps that fail by faults -/

namespace Emission

variable {α β : Type} {F : Failure → Prop} {s : Schema}

/-- Reading the document, the step goes on reading it, and fails by `F` at most. -/
def FailsBy (F : Failure → Prop) (s : Schema) (x : Emission α) : Prop :=
  ∀ e, e.schema = s → (x.on e).2.schema = s ∧ ∀ f, (x.on e).1 = .error f → F f

/-- A step after a step fails by what one of them fails by. -/
theorem FailsBy.bind {x : Emission α} {g : α → Emission β} (hx : x.FailsBy F s)
    (hg : ∀ a, (g a).FailsBy F s) : (x >>= g).FailsBy F s := by
  intro e he
  obtain ⟨hs, hfails⟩ := hx e he
  rw [on_bind]
  rcases hrun : x.on e with ⟨r | a, after⟩
  · rw [hrun] at hs hfails
    refine ⟨hs, fun f hf => hfails f ?_⟩
    rw [Except.error.inj hf]
  · rw [hrun] at hs
    exact hg a after hs

theorem FailsBy.reading_bind {g : Schema → Emission β} (hg : (g s).FailsBy F s) :
    (reading >>= g).FailsBy F s := by
  intro e he
  subst he
  exact hg e rfl

/-- A lookup fails by a fault, or goes on with what it found. -/
theorem failsBy_ofExcept_bind {r : Except Failure α} {g : α → Emission β}
    (herror : ∀ f, r = .error f → F f) (hok : ∀ a, r = .ok a → (g a).FailsBy F s) :
    (ofExcept r >>= g).FailsBy F s := by
  cases r with
  | error f =>
    intro e he
    refine ⟨he, fun f' hf' => ?_⟩
    obtain rfl : f = f' := Except.error.inj hf'
    exact herror f rfl
  | ok a => exact hok a rfl

/-- A step into another document fails by what it fails by there. -/
theorem FailsBy.within {x : Emission α} {home : Schema} (hx : x.FailsBy F home) (s : Schema) :
    (within home x).FailsBy F s := by
  intro e he
  exact ⟨he, (hx { e with schema := home } rfl).2⟩

/-- Failing by `F` at most is a property that all steps keep. -/
def failsBy (F : Failure → Prop) : StepRelation where
  rel s x _ := x.FailsBy F s
  rel_pure s a e he := ⟨he, fun f hf => by cases hf⟩
  rel_write s text e he := ⟨he, fun f hf => by cases hf⟩
  rel_note s n e he := ⟨he, fun f hf => by cases hf⟩
  rel_bind := FailsBy.bind
  rel_reading := FailsBy.reading_bind

end Emission

namespace Pair

open Emission Lowering

variable {pair : Pair}

/-- A reference fails only by its target. -/
theorem IsIndexed.failsBy_referenceDeclaration (hp : pair.IsIndexed) {s : Schema}
    {d : Declaration} (below : (Part.declaration d).Below (pair.document s).root)
    (kind : d.kind = .reference) : (referenceDeclaration pair d).FailsBy pair.Fault s := by
  unfold referenceDeclaration
  split
  · next htarget =>
    intro e he
    refine ⟨he, fun f hf => ?_⟩
    obtain rfl := Except.error.inj hf
    exact .targetless below kind htarget
  · next id htarget =>
    refine .reading_bind
      (failsBy_ofExcept_bind ?_ fun _ _ => (failsBy pair.Fault).rel_documented d _)
    intro f hf
    obtain ⟨rfl, hunknown⟩ := hp.resolveId_error hf
    exact .unknownTarget below kind htarget hunknown

/-- The name is that of a member of an intersection in the document, below the first
member of the trail if there is one. -/
def Asks (pair : Pair) (trail : List Member) (s : Schema) (name : String) : Prop :=
  ∃ members arguments, .reference name arguments ∈ members ∧
    (Part.type (.intersection members)).Below (pair.document s).root ∧
    ∀ m ∈ trail.head?, m.1 = s ∧ (Part.type (.intersection members)).Below m.2

/-- The first member of the trail inlines a member that is asked for. -/
theorem Asks.inlines {trail : List Member} {s : Schema} {name : String}
    (h : pair.Asks trail s name) {m : Member} (hm : pair.locateMember s name = .ok m) :
    ∀ last ∈ trail.head?, pair.Inlines last m := by
  intro last hlast
  obtain ⟨members, arguments, hmem, -, htop⟩ := h
  obtain ⟨rfl, hbelow⟩ := htop last hlast
  exact ⟨members, name, arguments, hbelow, hmem, hm⟩

/-- What is below a declaration of a document fails by faults, if the members that it
asks for do. -/
theorem IsIndexed.covers (hp : pair.IsIndexed) {s : Schema} {p : Part}
    (hbelow : p.Below (pair.document s).root) {inline : Inliner}
    (hinline : ∀ members name arguments, p.Reaches (.type (.intersection members)) →
      .reference name arguments ∈ members → (inline name).FailsBy pair.Fault s) :
    (failsBy pair.Fault).Covers pair inline inline s p where
  target d hd kind := by
    obtain ⟨c, hc, hp'⟩ := hbelow
    exact hp.failsBy_referenceDeclaration ⟨c, hc, hp'.trans hd⟩ kind
  member members hm name arguments hmem := hinline members name arguments hm hmem

/-- The fields of a member fail by faults. On the way from `pair.depth` down to nothing
the trail grows by a member at each step, and a trail is shorter than that. -/
theorem IsIndexed.failsBy_inliner (hp : pair.IsIndexed) (hfinite : pair.FiniteInlining) :
    ∀ (depth : Nat) (trail : List Member) {s : Schema} {name : String},
      pair.Trail trail → trail.length + depth = pair.depth → pair.Asks trail s name →
        (inliner pair depth name).FailsBy pair.Fault s
  | 0, trail, s, name, ht, hlength, _ => by
    have hlt := hfinite.length_lt_depth ht
    omega
  | depth + 1, trail, s, name, ht, hlength, hasks => by
    refine .reading_bind (failsBy_ofExcept_bind ?_ fun m hm => FailsBy.within ?_ s)
    · intro f hf
      obtain ⟨members, arguments, hmem, hbelow, -⟩ := hasks
      obtain ⟨rfl, hunknown⟩ := hp.locateMember_error hf
      exact .unknownMember hbelow hmem hunknown
    · have hroot := hp.below_of_locateMember hm
      have hinline : ∀ c ∈ m.2.children, ∀ members name arguments,
          (Part.declaration c).Reaches (.type (.intersection members)) →
            .reference name arguments ∈ members →
              (inliner pair depth name).FailsBy pair.Fault m.1 := by
        intro c hc members name arguments hreach hmem
        have hbelow : (Part.type (.intersection members)).Below m.2 := ⟨c, hc, hreach⟩
        refine hp.failsBy_inliner hfinite depth (m :: trail) (ht.cons hm (hasks.inlines hm))
          (by simp; omega)
          ⟨members, arguments, hmem, hbelow.trans hroot, ?_⟩
        rintro n ⟨⟩
        exact ⟨rfl, hbelow⟩
      exact StepRelation.rel_fields fun c hc =>
        hp.covers ((Part.below_of_mem hc).trans hroot) (hinline c hc)

/-- Writing a declaration of a document fails only by a fault. -/
theorem IsIndexed.failsBy_emitDeclaration (hp : pair.IsIndexed) (hfinite : pair.FiniteInlining)
    {s : Schema} {d : Declaration} (hbelow : (Part.declaration d).Below (pair.document s).root) :
    (pair.emitDeclaration d).FailsBy pair.Fault s := by
  refine (hp.covers hbelow fun members name arguments hreach hmem => ?_).rel_declaration
  obtain ⟨c, hc, hd⟩ := hbelow
  exact hp.failsBy_inliner hfinite pair.depth [] ⟨.nil, by simp⟩ (by simp)
    ⟨members, arguments, hmem, ⟨c, hc, hd.trans hreach⟩, by simp⟩

/-- What is visited is below the root of its document. -/
theorem below_of_mem_visits {v : Visit} (h : v ∈ pair.visits) :
    (Part.declaration v.2).Below (pair.document v.1).root := by
  simp only [visits, List.mem_append, List.mem_map] at h
  obtain ⟨d, hd, rfl⟩ | ⟨d, hd, rfl⟩ | ⟨d, hd, rfl⟩ := h
  · exact Part.below_of_mem (List.mem_mergeSort.1 hd)
  · unfold Document.internalMembers at hd
    split at hd
    · next container hcontainer =>
      exact (Part.below_of_mem (List.mem_mergeSort.1 hd)).trans
        (Part.below_of_mem (List.mem_of_find?_eq_some hcontainer))
    · simp at hd
  · exact Part.below_of_mem (List.mem_mergeSort.1 hd)

/-- If inlining comes to an end in two documents, a run over them fails only by a fault.
So it succeeds if every reference has a target below the root of its document, and every
reference among the members of an intersection has the name of a container-level
declaration of one of the documents. -/
theorem generate_fails_by_fault (types protocol : Declaration)
    (hfinite : (Pair.mk (.ofRoot types) (.ofRoot protocol)).FiniteInlining)
    (exclusion? : Declaration → Option Notice) (summary : SummarySettings) (preamble : String) :
    let pair : Pair := ⟨.ofRoot types, .ofRoot protocol⟩
    let result := (pair.generate exclusion? summary preamble).result
    (∀ f, result = .error f → pair.Fault f) ∧
      (pair.Resolved → ∃ generated, result = .ok generated) := by
  intro pair result
  have hp : pair.IsIndexed := isIndexed_ofRoot types protocol
  have hfault : ∀ f, result = .error f → pair.Fault f := by
    intro f hf
    cases hfirst : pair.firstFailure? [] (pair.kept exclusion?) with
    | none => simp [result, generate_of_none hfirst] at hf
    | some g =>
      obtain rfl : g = f := by simpa [result, generate_of_some hfirst] using hf
      obtain ⟨before, v, ⟨⟨after, hkept⟩, hexposed⟩, -⟩ := exposedIn_of_some hfirst
      have hv : v ∈ pair.visits :=
        (List.mem_filter.1 (hkept ▸ List.mem_append_right before List.mem_cons_self)).1
      exact (hp.failsBy_emitDeclaration hfinite (below_of_mem_visits hv) (.fresh v.1) rfl).2 g
        hexposed.1
  refine ⟨hfault, fun hresolved => ?_⟩
  cases hresult : result with
  | error f => exact (hresolved.not_fault (hfault f hresult)).elim
  | ok generated => exact ⟨generated, rfl⟩

/-- An alias of an intersection over an interface of the other document, and a second
name for that interface. Only the interface has a child, and no intersection is below it. -/
theorem generate_ok_of_resolved_alias :
    let field : Declaration :=
      { id := 2, name := "x", kind := .property, type := some (.intrinsic "string") }
    let named : Declaration := { id := 1, name := "A", kind := .interface, children := [field] }
    let renamed : Declaration := { id := 3, name := "B", kind := .reference, target := some 1 }
    let all : Declaration :=
      { id := 1, name := "C", kind := .typeAlias
        type := some (.intersection [.reference "A" []]) }
    let types : Declaration := { id := 0, name := "types", children := [named, renamed] }
    let protocol : Declaration := { id := 0, name := "protocol", children := [all] }
    let pair : Pair := ⟨.ofRoot types, .ofRoot protocol⟩
    pair.FiniteInlining ∧ pair.Resolved ∧
      ∃ generated, (pair.generate (Filter.mk [] []).exclusion? {} "").result = .ok generated := by
  intro field named renamed all types protocol pair
  have hfield : ∀ p, (Part.declaration field).Reaches p →
      p = .declaration field ∨ p = .type (.intrinsic "string") := by
    intro p hp
    rw [Part.reaches_declaration_iff] at hp
    simpa [field, Part.reaches_intrinsic_iff, eq_comm] using hp
  have htypes : ∀ p : Part, p.Below types → p = .declaration named ∨
      (p = .declaration field ∨ p = .type (.intrinsic "string")) ∨ p = .declaration renamed := by
    rintro p ⟨c, hc, hp⟩
    rw [Part.reaches_declaration_iff] at hp
    obtain rfl | rfl : c = named ∨ c = renamed := by simpa [types] using hc
    · exact (show _ ∨ _ by simpa [named, eq_comm] using hp).imp_right fun h => .inl (hfield p h)
    · exact .inr (.inr (by simpa [renamed, eq_comm] using hp))
  have hprotocol : ∀ p : Part, p.Below protocol →
      p = .declaration all ∨ p = .type (.intersection [.reference "A" []]) := by
    rintro p ⟨c, hc, hp⟩
    rw [Part.reaches_declaration_iff] at hp
    obtain rfl : c = all := by simpa [protocol] using hc
    simpa [all, Part.reaches_intersection_iff, eq_comm] using hp
  have hfinite : pair.FiniteInlining := by
    intro chain hchain
    obtain ⟨-, name, -, -, -, hfirst⟩ := hchain 0
    obtain ⟨members, -, -, ⟨c, hc, hreach⟩, -⟩ := hchain 1
    have hbelow := (isIndexed_ofRoot types protocol).below_of_locateMember hfirst
    obtain rfl : c = field := by
      generalize chain (0 + 1) = m at hbelow hc
      obtain ⟨_ | _, d⟩ := m <;> dsimp only at hbelow hc
      · obtain h | (h | h) | h := htypes _ hbelow <;> cases h
        · simpa [named] using hc
        · simp [field] at hc
        · simp [renamed] at hc
      · obtain h | h := hprotocol _ hbelow <;> cases h
        simp [all] at hc
    simpa using hfield _ hreach
  have hdeclared : (named, true) ∈ types.entries := by
    simp [types, named, Declaration.entries, entriesAmong]
  have hresolved : pair.Resolved := by
    constructor
    · rintro (_ | _) d hbelow hkind
      · obtain hd | (hd | hd) | hd := htypes _ hbelow <;> cases hd <;> cases hkind
        exact ⟨1, rfl, (named, true), hdeclared, rfl⟩
      · obtain hd | hd := hprotocol _ hbelow <;> cases hd
        cases hkind
    · rintro (_ | _) members name arguments hbelow hmem
      · obtain hd | (hd | hd) | hd := htypes _ hbelow <;> cases hd
      · obtain hd | hd := hprotocol _ hbelow <;> cases hd
        obtain ⟨rfl, -⟩ : name = "A" ∧ arguments = [] := by simpa using hmem
        exact ⟨.types, (named, true), hdeclared, rfl, rfl⟩
  exact ⟨hfinite, hresolved, (generate_fails_by_fault types protocol hfinite _ _ _).2 hresolved⟩

end Pair

end ZigReflect
