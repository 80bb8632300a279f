import ZigReflect.Proofs.FirstWriter
import ZigReflect.Proofs.Spelling

/-!
# Every top-level name is written once

A run is a list of steps, one for each visit and one for each summary union, and each
step writes under one name (`NamedStep`). A step that succeeds either leaves the text and
the emitted names, or writes and appends its name, which was not there (`Effect`). A
step that fails leaves the names.

Taking the steps from a fresh emitter passes through `moments`. At all of them the
emitted names are sound, and the later ones extend the earlier ones. The names that
steps write under are the emitted names at the last moment, so they are different, and
so are their identifiers (`generate_names_unique`).
-/

namespace ZigReflect

namespace EmittedNames

/-- The list has no name twice, and the set holds the names of the list. -/
structure Sound (e : EmittedNames) : Prop where
  nodup : e.order.Nodup
  agrees : e.Agrees

theorem sound_empty : empty.Sound :=
  ⟨List.nodup_nil, agrees_empty⟩

theorem order_insert_of_not_mem {e : EmittedNames} (he : e.Agrees) {name : String}
    (h : name ∉ e.order) : (e.insert name).order = e.order ++ [name] := by
  rw [order_insert he, if_neg h]

theorem Sound.insert {e : EmittedNames} (he : e.Sound) {name : String} (h : name ∉ e.order) :
    (e.insert name).Sound where
  nodup := by
    rw [order_insert_of_not_mem he.agrees h]
    refine List.nodup_append.2 ⟨he.nodup, List.nodup_cons.2 ⟨by simp, List.nodup_nil⟩, ?_⟩
    rintro a ha b hb rfl
    exact h (List.mem_singleton.1 hb ▸ ha)
  agrees := he.agrees.insert name

end EmittedNames

/-! ## Steps and moments -/

/-- An emission with the name that it writes under. -/
structure NamedStep where
  name : String
  run : Emission Unit

/-- What a step that writes under a name, or not at all, does to an emitter. -/
inductive Effect (name : String) (e after : Emitter) : Prop
  | left (names : after.names = e.names) (text : after.text = e.text)
  | wrote (free : name ∉ e.names.order) (names : after.names = e.names.insert name)
      (text : after.text ≠ e.text)

namespace NamedStep

/-- From sound names, the step has its effect, or fails and leaves the names. -/
structure WritesOnce (s : NamedStep) : Prop where
  effect : ∀ {e after : Emitter}, e.names.Sound → s.run.on e = (.ok (), after) →
    Effect s.name e after
  failed : ∀ {e after : Emitter} {f : Failure}, e.names.Sound → s.run.on e = (.error f, after) →
    after.names = e.names

/-- The emitters before, between and after the steps of a list, up to a failure. -/
def moments : List NamedStep → Emitter → List Emitter
  | [], e => [e]
  | s :: rest, e =>
    e :: match s.run.on e with
      | (.ok _, after) => moments rest after
      | (.error _, after) => [after]

/-- The names of the steps that change the text, up to a failure. -/
def written : List NamedStep → Emitter → List String
  | [], _ => []
  | s :: rest, e =>
    match s.run.on e with
    | (.ok _, after) =>
      if after.text = e.text then written rest after else s.name :: written rest after
    | (.error _, _) => []

end NamedStep

namespace Effect

variable {name : String} {e after : Emitter}

theorem sound (h : Effect name e after) (he : e.names.Sound) : after.names.Sound := by
  cases h with
  | left names _ => rwa [names]
  | wrote free names _ =>
    rw [names]
    exact he.insert free

theorem isPrefix (h : Effect name e after) (he : e.names.Sound) :
    e.names.order <+: after.names.order := by
  cases h with
  | left names _ => exact names ▸ List.prefix_refl _
  | wrote free names _ =>
    rw [names, EmittedNames.order_insert_of_not_mem he.agrees free]
    exact List.prefix_append _ _

end Effect

namespace NamedStep

/-- Every moment has sound names that extend those of the first one. -/
theorem sound_of_mem_moments : ∀ {steps : List NamedStep} {e : Emitter},
    (∀ s ∈ steps, s.WritesOnce) → e.names.Sound → ∀ m ∈ moments steps e,
      m.names.Sound ∧ e.names.order <+: m.names.order
  | [], e, _, he, m, hm => by
    obtain rfl := List.mem_singleton.1 hm
    exact ⟨he, List.prefix_refl _⟩
  | s :: rest, e, hsteps, he, m, hm => by
    have hs := hsteps s List.mem_cons_self
    rw [moments, List.mem_cons] at hm
    obtain rfl | hm := hm
    · exact ⟨he, List.prefix_refl _⟩
    · rcases hrun : s.run.on e with ⟨f | _, after⟩
      · rw [hrun] at hm
        obtain rfl := List.mem_singleton.1 hm
        rw [hs.failed he hrun]
        exact ⟨he, List.prefix_refl _⟩
      · rw [hrun] at hm
        have heffect := hs.effect he hrun
        have ih := sound_of_mem_moments (fun t ht => hsteps t (List.mem_cons_of_mem s ht))
          (heffect.sound he) m hm
        exact ⟨ih.1, (heffect.isPrefix he).trans ih.2⟩

/-- Of two moments, the names of the later one extend those of the earlier one. -/
theorem moments_pairwise : ∀ {steps : List NamedStep} {e : Emitter},
    (∀ s ∈ steps, s.WritesOnce) → e.names.Sound →
      (moments steps e).Pairwise fun m n => m.names.order <+: n.names.order
  | [], e, _, _ => by simp [moments]
  | s :: rest, e, hsteps, he => by
    have hall := sound_of_mem_moments hsteps he
    rw [moments] at hall ⊢
    refine List.pairwise_cons.2 ⟨fun m hm => (hall m (List.mem_cons_of_mem e hm)).2, ?_⟩
    rcases hrun : s.run.on e with ⟨f | _, after⟩
    · exact List.pairwise_singleton _ _
    · exact moments_pairwise (fun t ht => hsteps t (List.mem_cons_of_mem s ht))
        (((hsteps s List.mem_cons_self).effect he hrun).sound he)

/-- If all steps succeed, the names that they write under are what they add to the
emitted names. -/
theorem order_eq_written : ∀ {steps : List NamedStep} {e last : Emitter},
    (∀ s ∈ steps, s.WritesOnce) → e.names.Sound →
      (Emission.all (steps.map (·.run))).on e = (.ok (), last) →
        last.names.order = e.names.order ++ written steps e ∧
          (moments steps e).getLast? = some last
  | [], e, last, _, _, hlast => by
    obtain rfl : e = last := congrArg Prod.snd hlast
    simp [written, moments]
  | s :: rest, e, last, hsteps, he, hlast => by
    rw [List.map_cons, Emission.all, Emission.on_bind] at hlast
    rw [written, moments]
    rcases hrun : s.run.on e with ⟨f | _, after⟩
    · rw [hrun] at hlast
      cases hlast
    · rw [hrun] at hlast
      have heffect := (hsteps s List.mem_cons_self).effect he hrun
      obtain ⟨hnames, hmoments⟩ := order_eq_written
        (fun t ht => hsteps t (List.mem_cons_of_mem s ht)) (heffect.sound he) hlast
      refine ⟨?_, by rw [List.getLast?_cons, hmoments]; rfl⟩
      rw [hnames]
      cases heffect with
      | left names text => simp [names, text]
      | wrote free names text =>
        simp [text, names, EmittedNames.order_insert_of_not_mem he.agrees free]

end NamedStep

/-! ## The steps of a run -/

namespace Emission

theorem all_append (xs ys : List (Emission Unit)) :
    all (xs ++ ys) = (do all xs; all ys) := by
  induction xs with
  | nil => simp [all]
  | cons x xs ih => simp [all, ih]

/-- Steps that leave the document may be made in it one by one. -/
theorem within_all (schema : Schema) : ∀ {xs : List (Emission Unit)},
    (∀ x ∈ xs, ∀ e, (x.on e).2.schema = e.schema) →
      within schema (all xs) = all (xs.map (within schema))
  | [], _ => rfl
  | x :: xs, h => by
    have ih := within_all schema fun y hy => h y (List.mem_cons_of_mem x hy)
    funext e
    show (within schema (all (x :: xs))).on e = (all ((x :: xs).map (within schema))).on e
    have hx : (x.on { e with schema }).2.schema = schema := h x List.mem_cons_self _
    rw [List.map_cons, all, all, ← ih, on_within, on_bind, on_bind, on_within]
    generalize x.on { e with schema } = run at hx
    obtain ⟨_ | _, after⟩ := run
    · rfl
    · obtain rfl : after.schema = schema := hx
      rfl

end Emission

namespace Pair

variable (pair : Pair) (exclusion? : Declaration → Option Notice)

/-- A visit as a step: what it writes, it writes under the name of its declaration. -/
def visitStep (v : Visit) : NamedStep :=
  ⟨v.2.name, Emission.within v.1 (pair.visit exclusion? v.2)⟩

/-- A summary union as a step. -/
def unionStep (union suffix : String) : NamedStep :=
  ⟨union, summaryUnion union suffix⟩

/-- The steps of a run: its visits, then the two summary unions. -/
def steps (summary : SummarySettings) : List NamedStep :=
  pair.visits.map (pair.visitStep exclusion?) ++
    [unionStep summary.requestUnion summary.requestSuffix,
      unionStep summary.notificationUnion summary.notificationSuffix]

/-- What a visit can do: leave the names and the text, write under a free name, or fail
and leave the names. In each case it goes on reading the same document. -/
theorem visit_cases (d : Declaration) (e : Emitter) :
    let run := (pair.visit exclusion? d).on e
    run.2.schema = e.schema ∧
      ((run.1 = .ok () ∧ run.2.names = e.names ∧ run.2.text = e.text) ∨
        (run.1 = .ok () ∧ e.names.contains d.name = false ∧
          run.2.names = e.names.insert d.name ∧ run.2.text ≠ e.text) ∨
        ∃ f, run.1 = .error f ∧ run.2.names = e.names) := by
  intro run
  unfold run
  cases hd : exclusion? d with
  | some n =>
    simp only [visit, hd]
    exact ⟨rfl, .inl ⟨rfl, rfl, rfl⟩⟩
  | none =>
    simp only [visit, hd, Emission.on_bind, on_emitTopLevel, Addition.onto]
    cases hc : e.names.contains d.name with
    | true => exact ⟨rfl, .inl ⟨rfl, rfl, rfl⟩⟩
    | false =>
      cases hr : (pair.standalone (e.schema, d)).result with
      | error f => exact ⟨rfl, .inr (.inr ⟨f, rfl, rfl⟩)⟩
      | ok written =>
        cases written with
        | false =>
          rw [text_standalone_of_skipped hr, String.append_empty]
          exact ⟨rfl, .inl ⟨rfl, rfl, rfl⟩⟩
        | true =>
          refine ⟨rfl, .inr (.inl ⟨rfl, rfl, rfl, ?_⟩)⟩
          simp [String.append_assoc, Emission.on_bind]

theorem writesOnce_visitStep (v : Visit) : (pair.visitStep exclusion? v).WritesOnce where
  effect := by
    intro e after he hrun
    rw [visitStep, Emission.on_within] at hrun
    obtain ⟨hok, rfl⟩ := Prod.mk.inj hrun
    obtain ⟨-, ⟨-, names, text⟩ | ⟨-, free, names, text⟩ | ⟨f, failed, -⟩⟩ :=
      pair.visit_cases exclusion? v.2 { e with schema := v.1 }
    · exact .left names text
    · exact .wrote (fun h => Bool.eq_false_iff.1 free ((he.agrees _).2 h)) names text
    · rw [failed] at hok
      cases hok
  failed := by
    intro e after f he hrun
    rw [visitStep, Emission.on_within] at hrun
    obtain ⟨hfailed, rfl⟩ := Prod.mk.inj hrun
    obtain ⟨-, ⟨-, names, -⟩ | ⟨hok, -⟩ | ⟨-, -, names⟩⟩ :=
      pair.visit_cases exclusion? v.2 { e with schema := v.1 }
    · exact names
    · rw [hok] at hfailed
      cases hfailed
    · exact names

theorem summaryText_ne_empty (union : String) (members : List String) :
    summaryText union members ≠ "" := by
  intro h
  simp [summaryText, String.append_assoc] at h

theorem writesOnce_unionStep (union suffix : String) : (unionStep union suffix).WritesOnce where
  effect := by
    intro e after he hrun
    rw [unionStep, summaryUnion, Emission.on_bind, Emission.on_emittedNames] at hrun
    cases hc : e.names.contains union with
    | true =>
      simp only [hc, if_true] at hrun
      obtain ⟨-, rfl⟩ := Prod.mk.inj hrun
      exact .left rfl rfl
    | false =>
      simp only [hc, Bool.false_eq_true, if_false] at hrun
      obtain ⟨-, rfl⟩ := Prod.mk.inj hrun
      refine .wrote (fun h => Bool.eq_false_iff.1 hc ((he.agrees _).2 h)) rfl ?_
      simp [summaryText_ne_empty]
  failed := by
    intro e after f he hrun
    obtain ⟨_, hok, -⟩ := on_summaryUnion he.agrees union suffix
    rw [unionStep, hok] at hrun
    cases hrun

theorem writesOnce_of_mem_steps (summary : SummarySettings) :
    ∀ s ∈ pair.steps exclusion? summary, s.WritesOnce := by
  intro s hs
  rw [steps, List.mem_append, List.mem_map] at hs
  obtain ⟨v, -, rfl⟩ | hs := hs
  · exact pair.writesOnce_visitStep exclusion? v
  · rw [List.mem_cons, List.mem_singleton] at hs
    rcases hs with rfl | rfl <;> exact writesOnce_unionStep _ _

/-! ## The run -/

/-- A walk takes the steps of its visits. -/
theorem walk_eq : pair.walk exclusion? =
    Emission.all ((pair.visits.map (pair.visitStep exclusion?)).map (·.run)) := by
  have hwithin : ∀ schema ds, Emission.within schema (pair.visitAll exclusion? ds) =
      Emission.all (((ds.map (schema, ·)).map (pair.visitStep exclusion?)).map (·.run)) := by
    intro schema ds
    rw [visitAll, Emission.within_all]
    · simp [Function.comp_def, visitStep]
    · intro x hx e
      obtain ⟨d, -, rfl⟩ := List.mem_map.1 hx
      exact (pair.visit_cases exclusion? d e).1
  rw [walk, visits, List.map_append, List.map_append, Emission.all_append, ← hwithin,
    ← List.map_append, ← hwithin]
  simp only [visitAll, List.map_append, Emission.all_append]

/-- A run that succeeds takes all its steps, and its code is the preamble and the text
at their end. -/
theorem steps_of_generate_ok {summary : SummarySettings} {preamble : String}
    {generated : Generated}
    (h : (pair.generate exclusion? summary preamble).result = .ok generated) :
    ∃ last, (Emission.all ((pair.steps exclusion? summary).map (·.run))).on (.fresh .types) =
        (.ok (), last) ∧ generated.code = closePreamble preamble ++ last.text := by
  rw [steps, List.map_append, Emission.all_append, ← walk_eq, Emission.on_bind]
  unfold generate at h
  simp only [body, Emission.on_bind, Emission.on_emittedNames, Emission.on_pure] at h
  simp only [List.map_cons, List.map_nil, Emission.all, Emission.on_bind, Emission.on_pure,
    unionStep]
  rcases h₀ : (pair.walk exclusion?).on (.fresh .types) with ⟨f | _, e⟩
  · simp [h₀] at h
  rcases h₁ : (summaryUnion summary.requestUnion summary.requestSuffix).on e with ⟨f | _, e₁⟩
  · simp [h₀, h₁] at h
  rcases h₂ : (summaryUnion summary.notificationUnion summary.notificationSuffix).on e₁ with
    ⟨f | _, e₂⟩
  · simp [h₀, h₁, h₂] at h
  simp only [h₀, h₁, h₂] at h ⊢
  obtain rfl := Except.ok.inj h
  exact ⟨e₂, rfl, rfl⟩

/-- At every moment of a run, the emitted names are a list without repeats and the set of
its members, and the list only grows at its end; inside a step, types and declarations
leave it as it is. If the run succeeds, no two of its declarations and summary unions
have the same identifier. -/
theorem generate_names_unique (summary : SummarySettings) (preamble : String) :
    let steps := pair.steps exclusion? summary
    let moments := NamedStep.moments steps (.fresh .types)
    (∀ m ∈ moments, m.names.Sound) ∧
      moments.Pairwise (fun m n => m.names.order <+: n.names.order) ∧
      (∀ e t, ((pair.emitType t).on e).2.names = e.names) ∧
      (∀ e d, ((pair.emitDeclaration d).on e).2.names = e.names) ∧
      ∀ generated, (pair.generate exclusion? summary preamble).result = .ok generated →
        (∃ last, moments.getLast? = some last ∧
          generated.code = closePreamble preamble ++ last.text ∧
          last.names.order = NamedStep.written steps (.fresh .types)) ∧
        ((NamedStep.written steps (.fresh .types)).map Zig.identifier).Nodup := by
  intro steps moments
  have honce := pair.writesOnce_of_mem_steps exclusion? summary
  have hfresh : (Emitter.fresh .types).names.Sound := EmittedNames.sound_empty
  have hsound := NamedStep.sound_of_mem_moments honce hfresh
  refine ⟨fun m hm => (hsound m hm).1, NamedStep.moments_pairwise honce hfresh,
    fun e t => (pair.framed_emitType t).keepsFrame.names e,
    fun e d => (pair.framed_emitDeclaration d).keepsFrame.names e, fun generated hok => ?_⟩
  obtain ⟨last, hrun, hcode⟩ := pair.steps_of_generate_ok exclusion? hok
  obtain ⟨hnames, hlast⟩ := NamedStep.order_eq_written honce hfresh hrun
  replace hnames : last.names.order = NamedStep.written steps (.fresh .types) := hnames
  have hnodup : (NamedStep.written steps (.fresh .types)).Nodup :=
    hnames ▸ (hsound last (List.mem_of_getLast? hlast)).1.nodup
  exact ⟨⟨last, hlast, hcode, hnames⟩, List.pairwise_map.2 (hnodup.imp fun hne heq =>
    hne (Zig.identifier_injective heq))⟩

end Pair

end ZigReflect
