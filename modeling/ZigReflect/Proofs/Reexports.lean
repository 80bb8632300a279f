import ZigReflect.Proofs.Flattening
import ZigReflect.Proofs.UniqueNames

/-!
# Re-exports

A reference is written as a second name for its target. That the target has another name than the
reference is not checked, so a re-export under the same name is an alias of itself. What can keep
it out is what keeps out any declaration: the filter, or its name, if that has been written before
(`Pair.IsDue`).

So a reference is written if and only if every visit before it that has its name leaves its
declaration out, and it is an alias of itself if and only if its target also has its name
(`Pair.self_alias_written_iff`).
-/

namespace ZigReflect

open Emission Lowering

/-- What a reference is written as when its target has a name. -/
def reexportText (d : Declaration) (target : String) : String :=
  comment d ++ (constHead d ++ Zig.identifier target ++ ";\n")

theorem reexportText_injective (d : Declaration) : Function.Injective (reexportText d) := by
  intro a b h
  simp only [reexportText, String.append_right_inj, String.append_left_inj] at h
  exact Zig.identifier_injective h

namespace Pair

variable {pair : Pair} {exclusion? : Declaration → Option Notice}

/-- The declaration that a reference renames. -/
def HasTarget (pair : Pair) (v : Visit) (target : Declaration) : Prop :=
  ∃ id, v.2.target = some id ∧ (pair.document v.1).byId id = some target

theorem HasTarget.unique {v : Visit} {a b : Declaration} (ha : pair.HasTarget v a)
    (hb : pair.HasTarget v b) : a = b := by
  obtain ⟨id, hid, ha⟩ := ha
  obtain ⟨other, hother, hb⟩ := hb
  obtain rfl := Option.some.inj (hid.symm.trans hother)
  exact Option.some.inj (ha.symm.trans hb)

/-- The visit is not excluded, there is something to write of it, and no visit before it has
written its name. -/
def IsDue (pair : Pair) (exclusion? : Declaration → Option Notice) (before : List Visit)
    (v : Visit) : Prop :=
  exclusion? v.2 = none ∧ ¬pair.LeavesOut v.1 v.2 ∧
    ∀ u ∈ before, exclusion? u.2 = none → u.2.name = v.2.name → pair.LeavesOut u.1 u.2

theorem resolveId_eq_ok_iff {s : Schema} {id : Nat} {d : Declaration} :
    pair.resolveId s id = .ok d ↔ (pair.document s).byId id = some d := by
  unfold resolveId
  cases (pair.document s).byId id <;> simp

/-- A reference is written as a second name for its target. -/
theorem yields_reference_iff {d : Declaration} {s : Schema} {text : String} {written : Bool}
    (hkind : d.kind = .reference) (hname : d.name ≠ Declaration.internalName) :
    (pair.emitDeclaration d).Yields s written text ↔
      ∃ target, pair.HasTarget (s, d) target ∧ written = true ∧
        text = reexportText d target.name := by
  rw [emitDeclaration_eq_byKind, byKind, if_neg (by simpa using hname), hkind]
  dsimp only
  rw [referenceDeclaration]
  cases htarget : d.target with
  | none => simp [not_yields_fail, HasTarget, htarget]
  | some id =>
    dsimp only
    rw [yields_reading_bind_iff, yields_ofExcept_bind_iff]
    simp only [resolveId_eq_ok_iff]
    constructor
    · rintro ⟨target, hfound, hyields⟩
      exact ⟨target, ⟨id, htarget, hfound⟩, yields_doc_write_iff.1 hyields⟩
    · rintro ⟨target, ⟨_, hid, hfound⟩, htext⟩
      obtain rfl := Option.some.inj (htarget.symm.trans hid)
      exact ⟨target, hfound, yields_doc_write_iff.2 htext⟩

/-! ## The state of a run at a visit -/

/-- The visits that are not excluded. -/
def included (exclusion? : Declaration → Option Notice) (vs : List Visit) : List Visit :=
  vs.filter fun v => (exclusion? v.2).isNone

theorem included_append (vs ws : List Visit) :
    included exclusion? (vs ++ ws) = included exclusion? vs ++ included exclusion? ws :=
  List.filter_append vs ws

/-- The visits before bring a fresh emitter to `e`, and the visit brings it on to `next`. -/
structure MakesVisit (pair : Pair) (exclusion? : Declaration → Option Notice)
    (before : List Visit) (v : Visit) (e next : Emitter) : Prop where
  reached : (Emission.all (before.map fun u => (pair.visitStep exclusion? u).run)).on
    (.fresh .types) = (.ok (), e)
  made : (pair.visitStep exclusion? v).run.on e = (.ok (), next)

theorem standalone_ok_false_iff {v : Visit} :
    (pair.standalone v).result = .ok false ↔ pair.LeavesOut v.1 v.2 :=
  skips_emitDeclaration_iff (e := .fresh v.1)

/-- In a run that does not fail, a name is written if and only if there is something to write of
a visit with the name. -/
theorem mem_writtenNames_iff {vs : List Visit} (hnone : pair.firstFailure? [] vs = none)
    {name : String} :
    name ∈ pair.writtenNames vs ↔ ∃ u ∈ vs, u.2.name = name ∧ ¬pair.LeavesOut u.1 u.2 := by
  constructor
  · intro h
    obtain ⟨u, hu, hw, hname⟩ := mem_writtenNames.1 h
    refine ⟨u, hu, hname, fun hout => ?_⟩
    simp [writes, standalone_ok_false_iff.2 hout] at hw
  · rintro ⟨u, hu, rfl, hout⟩
    exact name_mem_writtenNames hnone hu (mt standalone_ok_false_iff.1 hout)

/-- A visit of a free name that does not end the run is written, unless there is nothing to write
of it. -/
theorem standalone_of_free {before : List Visit} {v : Visit}
    (hnone : pair.firstFailure? before [v] = none) (hfree : v.2.name ∉ pair.writtenNames before)
    (hout : ¬pair.LeavesOut v.1 v.2) : (pair.standalone v).result = .ok true := by
  cases hr : (pair.standalone v).result with
  | error f =>
    simp [firstFailure?, hr, hfree] at hnone
  | ok written =>
    cases written with
    | false => exact (hout (standalone_ok_false_iff.1 hr)).elim
    | true => rfl

/-- The text of a run only grows. -/
theorem exists_writtenText_append (vs : List Visit) : ∀ ws : List Visit,
    ∃ rest, pair.writtenText (vs ++ ws) = pair.writtenText vs ++ rest
  | [] => ⟨"", by simp⟩
  | w :: ws => by
    obtain ⟨rest, hrest⟩ := exists_writtenText_append (vs ++ [w]) ws
    rw [List.append_assoc, List.singleton_append, writtenText_append] at hrest
    split at hrest
    · exact ⟨_, by rw [hrest, String.append_assoc]⟩
    · exact ⟨rest, hrest⟩

/-- The step of a visit makes the visit, unless it is excluded. -/
theorem makes_visitStep (exclusion? : Declaration → Option Notice) (v : Visit) (schema : Schema) :
    pair.Makes schema (pair.visitStep exclusion? v).run (included exclusion? [v]) := by
  cases hv : exclusion? v.2 with
  | some n =>
    simp only [included, List.filter_cons, hv]
    exact (makes_excluded hv v.1).within schema
  | none =>
    simp only [included, List.filter_cons, hv]
    exact (makes_visit hv v.1).within schema

theorem makes_visitSteps (exclusion? : Declaration → Option Notice) (schema : Schema) :
    ∀ vs : List Visit,
    pair.Makes schema (Emission.all (vs.map fun v => (pair.visitStep exclusion? v).run))
      (included exclusion? vs)
  | [] => makes_nil pair schema
  | v :: vs => by
    have h := (makes_visitStep exclusion? v schema).bind (makes_visitSteps exclusion? schema vs)
    rwa [← included_append, List.singleton_append] at h

/-- A step that succeeds has made its visits, and none of them failed. -/
theorem Makes.of_ok {schema : Schema} {x : Emission Unit} {before vs : List Visit}
    {e after : Emitter} (hx : pair.Makes schema x vs) (hs : e.schema = schema)
    (hp : pair.Progress before e) (h : x.on e = (.ok (), after)) :
    after.schema = schema ∧ pair.firstFailure? before vs = none ∧
      pair.Progress (before ++ vs) after := by
  obtain ⟨hschema, hmade⟩ := hx before e hs hp
  rw [h] at hschema hmade
  cases hf : pair.firstFailure? before vs with
  | some f =>
    rw [hf] at hmade
    cases hmade
  | none =>
    rw [hf] at hmade
    exact ⟨hschema, rfl, hmade.2⟩

/-- A run that succeeds makes every visit of it, and its code goes on from there. -/
theorem exists_makesVisit {summary : SummarySettings} {preamble : String} {generated : Generated}
    (hok : (pair.generate exclusion? summary preamble).result = .ok generated)
    {before after : List Visit} {v : Visit} (hvisits : pair.visits = before ++ v :: after) :
    ∃ e next rest, pair.MakesVisit exclusion? before v e next ∧
      generated.code = closePreamble preamble ++ (next.text ++ rest) := by
  have hkept : pair.kept exclusion? =
      included exclusion? before ++ included exclusion? [v] ++ included exclusion? after := by
    rw [List.append_assoc, ← included_append, ← included_append, List.singleton_append, ← hvisits]
    rfl
  have hnone := firstFailure?_of_ok hok
  have hcode := generate_of_none hnone summary preamble
  rw [hkept, firstFailure?_append, firstFailure?_append, Option.or_eq_none_iff,
    Option.or_eq_none_iff] at hnone
  obtain ⟨⟨hbefore, hv⟩, -⟩ := hnone
  obtain ⟨hschema, hreached⟩ := makes_visitSteps exclusion? .types before []
    (.fresh .types) rfl (progress_fresh pair .types)
  rw [hbefore] at hreached
  obtain ⟨-, hmade⟩ := makes_visitStep exclusion? v .types _ _ hschema hreached.2
  rw [hv] at hmade
  obtain ⟨rest, hrest⟩ := pair.exists_writtenText_append
    (included exclusion? before ++ included exclusion? [v]) (included exclusion? after)
  refine ⟨_, _, rest ++ summaries (pair.writtenNames (pair.kept exclusion?)) summary,
    ⟨Prod.ext hreached.1 rfl, Prod.ext hmade.1 rfl⟩, ?_⟩
  rw [Except.ok.inj (hok.symm.trans hcode), hkept]
  show _ ++ (pair.writtenText _ ++ _) = _
  rw [hrest, hmade.2.text, String.append_assoc]
  rfl

theorem isDue_iff {before : List Visit} {v : Visit}
    (hnone : pair.firstFailure? [] (included exclusion? before) = none) :
    pair.IsDue exclusion? before v ↔ exclusion? v.2 = none ∧ ¬pair.LeavesOut v.1 v.2 ∧
      v.2.name ∉ pair.writtenNames (included exclusion? before) := by
  rw [IsDue, mem_writtenNames_iff hnone]
  simp [included]

/-- A visit that is made adds what its declaration is written as alone and a line feed if it is
due, and nothing otherwise. -/
theorem MakesVisit.text {before : List Visit} {v : Visit} {e next : Emitter}
    (h : pair.MakesVisit exclusion? before v e next) :
    (¬pair.IsDue exclusion? before v → next.text = e.text) ∧
      (pair.IsDue exclusion? before v →
        ∃ text, (pair.emitDeclaration v.2).Yields v.1 true text ∧
          next.text = e.text ++ (text ++ "\n")) := by
  obtain ⟨hschema, hbefore, he⟩ := (makes_visitSteps exclusion? .types before).of_ok rfl
    (progress_fresh pair .types) h.reached
  rw [List.nil_append] at he
  obtain ⟨-, hv, hnext⟩ := (makes_visitStep exclusion? v .types).of_ok hschema he h.made
  rw [isDue_iff hbefore, hnext.text, he.text]
  cases hkept : exclusion? v.2 with
  | some n => simp [included, hkept]
  | none =>
    have hsingle : included exclusion? [v] = [v] := by simp [included, hkept]
    rw [hsingle] at hv
    rw [hsingle, writtenText_append]
    constructor
    · intro hdue
      rw [if_neg]
      rintro ⟨hw, hfree⟩
      refine hdue ⟨rfl, fun hout => ?_, hfree⟩
      simp [writes, standalone_ok_false_iff.2 hout] at hw
    · rintro ⟨-, hout, hfree⟩
      have hresult := standalone_of_free hv hfree hout
      have hw : pair.writes v = true := by simp [writes, hresult]
      exact ⟨(pair.standalone v).text, ⟨hresult, rfl⟩, if_pos ⟨hw, hfree⟩⟩

/-! ## References -/

/-- In a run that succeeds, a visited reference adds its comment and a second name for its target
if it is due, and nothing otherwise. So it is written as an alias of itself if and only if it is
due and its target has its name. -/
theorem self_alias_written_iff (pair : Pair) (exclusion? : Declaration → Option Notice)
    (summary : SummarySettings) (preamble : String) (generated : Generated)
    (hok : (pair.generate exclusion? summary preamble).result = .ok generated)
    (before after : List Visit) (v : Visit) (hvisits : pair.visits = before ++ v :: after)
    (hkind : v.2.kind = .reference) :
    ∃ e next rest, pair.MakesVisit exclusion? before v e next ∧
      generated.code = closePreamble preamble ++ (next.text ++ rest) ∧
      (¬pair.IsDue exclusion? before v → next.text = e.text) ∧
      (pair.IsDue exclusion? before v → ∃ target, pair.HasTarget v target ∧
        next.text = e.text ++ (reexportText v.2 target.name ++ "\n")) ∧
      (next.text = e.text ++ (reexportText v.2 v.2.name ++ "\n") ↔
        pair.IsDue exclusion? before v ∧ ∃ target, pair.HasTarget v target ∧
          target.name = v.2.name) := by
  obtain ⟨e, next, rest, hmakes, hcode⟩ := exists_makesVisit hok hvisits
  obtain ⟨hleft, hdue⟩ := hmakes.text
  have hwritten : pair.IsDue exclusion? before v → ∃ target, pair.HasTarget v target ∧
      next.text = e.text ++ (reexportText v.2 target.name ++ "\n") := by
    intro h
    obtain ⟨text, hyields, htext⟩ := hdue h
    have hname : v.2.name ≠ Declaration.internalName := fun hname => h.2.1 (.inl hname)
    obtain ⟨target, htarget, -, rfl⟩ := (yields_reference_iff hkind hname).1 hyields
    exact ⟨target, htarget, htext⟩
  refine ⟨e, next, rest, hmakes, hcode, hleft, hwritten, ?_, ?_⟩
  · intro hself
    by_cases h : pair.IsDue exclusion? before v
    · obtain ⟨target, htarget, htext⟩ := hwritten h
      rw [hself, String.append_right_inj, String.append_left_inj] at htext
      exact ⟨h, target, htarget, (reexportText_injective v.2 htext).symm⟩
    · rw [hleft h] at hself
      have hlength := congrArg String.length hself
      simp only [String.length_append] at hlength
      have hfeed : "\n".length = 1 := rfl
      omega
  · rintro ⟨h, target, htarget, hname⟩
    obtain ⟨other, hother, htext⟩ := hwritten h
    rw [htext, hother.unique htarget, hname]

/-- A re-export behind its target is left out, and one before its target is an alias of itself. -/
theorem self_alias_written_iff_shape :
    let shape (id : Nat) : Declaration := { id, name := "X", kind := .interface }
    let reexport (id target : Nat) : Declaration :=
      { id, name := "X", kind := .reference, target := some target }
    let pairOf (children : List Declaration) : Pair :=
      ⟨.ofRoot { id := 0, name := "types", children }, .ofRoot { id := 0, name := "protocol" }⟩
    let all : Declaration → Option Notice := fun _ => none
    (∃ e next, (pairOf [shape 1, reexport 2 1]).MakesVisit all [(.types, shape 1)]
      (.types, reexport 2 1) e next ∧ next.text = e.text) ∧
    ∃ e next, (pairOf [reexport 1 2, shape 2]).MakesVisit all [] (.types, reexport 1 2) e next ∧
      next.text = e.text ++ "pub const X = X;\n\n" := by
  intro shape reexport pairOf all
  constructor
  · have hvisits : (pairOf [shape 1, reexport 2 1]).visits =
        [(.types, shape 1)] ++ (.types, reexport 2 1) :: [] := by cbv
    have hnone : (pairOf [shape 1, reexport 2 1]).firstFailure? []
        ((pairOf [shape 1, reexport 2 1]).kept all) = none := by cbv
    obtain ⟨e, next, -, hmakes, -, hleft, -⟩ := self_alias_written_iff _ all {} "" _
      (generate_of_none hnone {} "") _ _ _ hvisits rfl
    refine ⟨e, next, hmakes, hleft fun hdue => ?_⟩
    have hout := hdue.2.2 (.types, shape 1) (by simp) rfl rfl
    simp [LeavesOut, shape, Declaration.internalName] at hout
  · have hvisits : (pairOf [reexport 1 2, shape 2]).visits =
        [] ++ (.types, reexport 1 2) :: [(.types, shape 2)] := by cbv
    have hnone : (pairOf [reexport 1 2, shape 2]).firstFailure? []
        ((pairOf [reexport 1 2, shape 2]).kept all) = none := by cbv
    obtain ⟨e, next, -, hmakes, -, -, -, hself⟩ := self_alias_written_iff _ all {} "" _
      (generate_of_none hnone {} "") _ _ _ hvisits rfl
    have htarget : (pairOf [reexport 1 2, shape 2]).HasTarget (.types, reexport 1 2) (shape 2) :=
      ⟨2, rfl, by cbv⟩
    have hdue : (pairOf [reexport 1 2, shape 2]).IsDue all [] (.types, reexport 1 2) :=
      ⟨rfl, by simp [LeavesOut, reexport, Declaration.internalName], by simp⟩
    have halias : reexportText (reexport 1 2) "X" ++ "\n" = "pub const X = X;\n\n" := by cbv
    exact ⟨e, next, hmakes, halias ▸ hself.2 ⟨hdue, shape 2, htarget, rfl⟩⟩

/-- A re-export is an alias of itself if its target is a class, which is never written, and also
if its target is an interface behind it, which is not written then. -/
theorem reexport_of_class_written :
    let behaviour : Declaration := { id := 2, name := "X", kind := .classType }
    let shape : Declaration := { id := 2, name := "X", kind := .interface }
    let reexport : Declaration := { id := 1, name := "X", kind := .reference, target := some 2 }
    let pairOf (target : Declaration) : Pair :=
      ⟨.ofRoot { id := 0, name := "types", children := [reexport, target] },
        .ofRoot { id := 0, name := "protocol" }⟩
    let code := "pub const X = X;\n\npub const Request = union(enum) \x7b\x7d;\n\n" ++
      "pub const Notification = union(enum) \x7b\x7d;\n\n"
    ∀ target ∈ [behaviour, shape],
      (pairOf target).HasTarget (.types, reexport) target ∧ target.name = reexport.name ∧
        ∃ generated, ((pairOf target).generate (Filter.mk [] []).exclusion? {} "").result =
          .ok generated ∧ generated.code = code := by
  intro behaviour shape reexport pairOf code target htarget
  have hsummaries : summaries ["X"] {} = "pub const Request = union(enum) \x7b\x7d;\n\n" ++
      "pub const Notification = union(enum) \x7b\x7d;\n\n" := by
    decide +kernel
  have hgenerated : ∀ target,
      let kept := (pairOf target).kept (Filter.mk [] []).exclusion?
      (pairOf target).firstFailure? [] kept = none → (pairOf target).writtenNames kept = ["X"] →
        (pairOf target).writtenText kept = "pub const X = X;\n\n" →
          ∃ generated, ((pairOf target).generate (Filter.mk [] []).exclusion? {} "").result =
            .ok generated ∧ generated.code = code := by
    intro target kept hnone hnames htext
    refine ⟨_, generate_of_none hnone {} "", ?_⟩
    show (pairOf target).codeOf kept {} "" = code
    rw [codeOf, hnames, htext, hsummaries]
    rfl
  rcases List.mem_pair.1 htarget with rfl | rfl
  · exact ⟨⟨2, rfl, by cbv⟩, rfl, hgenerated behaviour (by cbv) (by cbv) (by cbv)⟩
  · exact ⟨⟨2, rfl, by cbv⟩, rfl, hgenerated shape (by cbv) (by cbv) (by cbv)⟩

end Pair

end ZigReflect
