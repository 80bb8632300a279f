import ZigReflect.Proofs.Frame
import ZigReflect.Proofs.Skipped
import ZigReflect.Walk

/-!
# The first writer of a name wins

A run makes its visits in a fixed order (`Pair.visits`), less those that are
excluded (`Pair.kept`). What a visit does in the run follows from what its
declaration does alone, on a fresh emitter, and from the visits before it: a
declaration is hidden if an earlier one of its name writes.

`Progress` is the invariant of the run: after the visits `before`, the text is
what the first writer of each name writes alone, and the emitted names are the
names of these writers. A step of the run `Makes` visits if it carries the
invariant over them and fails on the first that is exposed. Single visits do
(`makes_visit`), and so does the whole walk (`makes_walk`). The summary unions
follow on the names of the walk, which gives the run as a whole
(`generate_firstWriters`).
-/

namespace ZigReflect

/-! ## Emitted names -/

namespace EmittedNames

/-- The set holds the names of the list. -/
def Agrees (e : EmittedNames) : Prop :=
  ∀ name, e.contains name = true ↔ name ∈ e.order

theorem agrees_empty : empty.Agrees := by
  intro name
  simp [contains, empty]

theorem order_insert {e : EmittedNames} (he : e.Agrees) (name : String) :
    (e.insert name).order = if name ∈ e.order then e.order else e.order ++ [name] := by
  unfold insert
  by_cases h : name ∈ e.order
  · simp [h, (he name).2 h]
  · have hc : e.contains name = false := Bool.eq_false_iff.2 fun hc => h ((he name).1 hc)
    simp [h, hc]

theorem Agrees.insert {e : EmittedNames} (he : e.Agrees) (name : String) :
    (e.insert name).Agrees := by
  intro other
  by_cases h : e.contains name = true
  · simpa [EmittedNames.insert, h] using he other
  · have ho := he other
    rw [EmittedNames.insert, if_neg h]
    simp only [contains, Std.HashSet.contains_insert, Bool.or_eq_true, beq_iff_eq,
      List.mem_append, List.mem_singleton] at ho ⊢
    rw [ho, or_comm, eq_comm]

end EmittedNames

/-! ## Visits -/

/-- A declaration with the document it is visited in. -/
abbrev Visit := Schema × Declaration

namespace Pair

variable (pair : Pair) (exclusion? : Declaration → Option Notice)

/-- The declarations that a run visits, in order. -/
def visits : List Visit :=
  pair.types.topLevel.map (.types, ·) ++
    (pair.protocol.internalMembers.map (.protocol, ·) ++
      pair.protocol.topLevel.map (.protocol, ·))

/-- The visits that are not excluded. -/
def kept : List Visit :=
  pair.visits.filter fun v => (exclusion? v.2).isNone

/-- What the declaration of a visit adds to a fresh emitter. -/
def standalone (v : Visit) : Addition Bool :=
  (pair.emitDeclaration v.2).alone v.1

/-- Whether the declaration of a visit is written when it is alone. -/
def writes (v : Visit) : Bool :=
  match (pair.standalone v).result with
  | .ok written => written
  | .error _ => false

/-- The visit fails alone, and no visit before it writes its name. -/
def Exposed (before : List Visit) (v : Visit) (f : Failure) : Prop :=
  (pair.standalone v).result = .error f ∧
    ∀ u ∈ before, u.2.name = v.2.name → pair.writes u = false

/-- The visit is one of `vs`, after those of `before`, and is exposed there. -/
def ExposedIn (vs before : List Visit) (v : Visit) (f : Failure) : Prop :=
  (∃ after, vs = before ++ v :: after) ∧ pair.Exposed before v f

/-- The names that visits write, in the order of their first writers. -/
def writtenNames (vs : List Visit) : List String :=
  ((vs.filter pair.writes).map (·.2.name)).eraseDups

/-- The first visit that writes a name. -/
def firstWriter? (vs : List Visit) (name : String) : Option Visit :=
  (vs.filter pair.writes).find? (·.2.name == name)

/-- What the first writer of a name writes alone, and a line feed. -/
def firstText (vs : List Visit) (name : String) : String :=
  match pair.firstWriter? vs name with
  | some v => (pair.standalone v).text ++ "\n"
  | none => ""

/-- The texts of the first writers of all names that visits write. -/
def writtenText (vs : List Visit) : String :=
  String.join ((pair.writtenNames vs).map (pair.firstText vs))

/-! ## One visit more -/

variable {pair}

theorem mem_writtenNames {vs : List Visit} {name : String} :
    name ∈ pair.writtenNames vs ↔ ∃ v ∈ vs, pair.writes v = true ∧ v.2.name = name := by
  simp [writtenNames, and_assoc]

theorem not_mem_writtenNames {vs : List Visit} {name : String} :
    name ∉ pair.writtenNames vs ↔ ∀ v ∈ vs, v.2.name = name → pair.writes v = false := by
  simp only [mem_writtenNames, not_exists, not_and]
  exact forall₂_congr fun v _ => ⟨fun h hn => Bool.eq_false_iff.2 fun hw => h hw hn,
    fun h hw hn => by simp [h hn] at hw⟩

/-- A visit adds its name if it writes and no visit before it has written the name. -/
theorem writtenNames_append (before : List Visit) (v : Visit) :
    pair.writtenNames (before ++ [v]) =
      if pair.writes v = true ∧ v.2.name ∉ pair.writtenNames before then
        pair.writtenNames before ++ [v.2.name]
      else pair.writtenNames before := by
  unfold writtenNames
  cases hw : pair.writes v with
  | false => simp [hw]
  | true =>
    rw [List.filter_append, List.map_append, List.eraseDups_append]
    simp only [List.mem_eraseDups]
    by_cases h : v.2.name ∈ (before.filter pair.writes).map (·.2.name)
    · simp [hw, h, List.removeAll]
    · simp [hw, h, List.removeAll, List.eraseDups_cons]

/-- A visit more changes nothing for a name that has a writer. -/
theorem firstText_append_of_mem {before : List Visit} {name : String}
    (h : name ∈ pair.writtenNames before) (v : Visit) :
    pair.firstText (before ++ [v]) name = pair.firstText before name := by
  obtain ⟨u, hu, hw, rfl⟩ := mem_writtenNames.1 h
  have hfound : ((before.filter pair.writes).find? (·.2.name == u.2.name)).isSome :=
    List.find?_isSome.2 ⟨u, List.mem_filter.2 ⟨hu, hw⟩, by simp⟩
  obtain ⟨w, hw⟩ := Option.isSome_iff_exists.1 hfound
  simp [firstText, firstWriter?, List.filter_append, List.find?_append, hw]

/-- A visit that writes a name before all others is the writer of that name. -/
theorem firstWriter?_of_first {before after : List Visit} {v : Visit} (hw : pair.writes v = true)
    (h : v.2.name ∉ pair.writtenNames before) :
    pair.firstWriter? (before ++ v :: after) v.2.name = some v := by
  have hnone : (before.filter pair.writes).find? (·.2.name == v.2.name) = none := by
    rw [List.find?_eq_none]
    intro u hu heq
    obtain ⟨hmem, hu⟩ := List.mem_filter.1 hu
    exact h (mem_writtenNames.2 ⟨u, hmem, hu, by simpa using heq⟩)
  simp [firstWriter?, List.filter_append, List.find?_append, hnone, hw]

/-- A visit adds what it writes alone if it is the first writer of its name. -/
theorem writtenText_append (before : List Visit) (v : Visit) :
    pair.writtenText (before ++ [v]) =
      if pair.writes v = true ∧ v.2.name ∉ pair.writtenNames before then
        pair.writtenText before ++ ((pair.standalone v).text ++ "\n")
      else pair.writtenText before := by
  have hold : (pair.writtenNames before).map (pair.firstText (before ++ [v])) =
      (pair.writtenNames before).map (pair.firstText before) :=
    List.map_congr_left fun name hname => firstText_append_of_mem hname v
  unfold writtenText
  rw [writtenNames_append]
  split
  · next h =>
    rw [List.map_append, hold, String.join_append]
    simp [firstText, firstWriter?_of_first h.1 h.2]
  · rw [hold]

/-! ## The invariant of a run -/

/-- The failure of the first visit that is exposed, when the visits `before` have
been made. -/
def firstFailure? (pair : Pair) : List Visit → List Visit → Option Failure
  | _, [] => none
  | before, v :: rest =>
    match (pair.standalone v).result with
    | .error f =>
      if v.2.name ∈ pair.writtenNames before then pair.firstFailure? (before ++ [v]) rest
      else some f
    | .ok _ => pair.firstFailure? (before ++ [v]) rest

theorem firstFailure?_append (pair : Pair) : ∀ before vs ws : List Visit,
    pair.firstFailure? before (vs ++ ws) =
      (pair.firstFailure? before vs).or (pair.firstFailure? (before ++ vs) ws)
  | before, [], ws => by simp [firstFailure?]
  | before, v :: vs, ws => by
    have ih := firstFailure?_append pair (before ++ [v]) vs ws
    rw [List.append_assoc, List.singleton_append] at ih
    simp only [List.cons_append, firstFailure?]
    split
    · split
      · exact ih
      · rfl
    · exact ih

theorem exposed_iff {before : List Visit} {v : Visit} {f : Failure} :
    pair.Exposed before v f ↔
      (pair.standalone v).result = .error f ∧ v.2.name ∉ pair.writtenNames before := by
  rw [not_mem_writtenNames]
  rfl

/-- Without a first failure no visit is exposed. -/
theorem not_exposed_of_none (pair : Pair) : ∀ (before vs : List Visit),
    pair.firstFailure? before vs = none → ∀ pre v post f, vs = pre ++ v :: post →
      ¬pair.Exposed (before ++ pre) v f
  | _, [], _, pre, v, post, f, hvs => by simp at hvs
  | before, w :: vs, h, [], v, post, f, hvs => by
    obtain ⟨rfl, rfl⟩ := List.cons.inj hvs
    rw [List.append_nil, exposed_iff]
    rintro ⟨hr, hn⟩
    simp [firstFailure?, hr, hn] at h
  | before, w :: vs, h, u :: pre, v, post, f, hvs => by
    obtain ⟨rfl, rfl⟩ := List.cons.inj hvs
    have hrest : pair.firstFailure? (before ++ [w]) (pre ++ v :: post) = none := by
      unfold firstFailure? at h
      split at h
      · split at h
        · exact h
        · simp at h
      · exact h
    simpa using not_exposed_of_none pair (before ++ [w]) _ hrest pre v post f rfl

/-- The first failure is that of an exposed visit before which none is exposed. -/
theorem exposed_of_some (pair : Pair) : ∀ (before vs : List Visit) {f : Failure},
    pair.firstFailure? before vs = some f → ∃ pre v post, vs = pre ++ v :: post ∧
      pair.Exposed (before ++ pre) v f ∧ pair.firstFailure? before pre = none
  | _, [], f, h => by simp [firstFailure?] at h
  | before, w :: vs, f, h => by
    unfold firstFailure? at h
    split at h
    · next g hr =>
      split at h
      · next hn =>
        obtain ⟨pre, v, post, rfl, hv, hpre⟩ := exposed_of_some pair (before ++ [w]) vs h
        exact ⟨w :: pre, v, post, rfl, by simpa using hv, by simp [firstFailure?, hr, hn, hpre]⟩
      · next hn =>
        obtain rfl : g = f := by simpa using h
        exact ⟨[], w, vs, rfl, by simpa [exposed_iff] using ⟨hr, hn⟩, rfl⟩
    · next hr =>
      obtain ⟨pre, v, post, rfl, hv, hpre⟩ := exposed_of_some pair (before ++ [w]) vs h
      exact ⟨w :: pre, v, post, rfl, by simpa using hv, by simp [firstFailure?, hr, hpre]⟩

theorem not_exposedIn_of_none {vs : List Visit} (h : pair.firstFailure? [] vs = none) :
    ¬∃ before v f, pair.ExposedIn vs before v f := by
  rintro ⟨before, v, f, ⟨after, hvs⟩, hv⟩
  exact not_exposed_of_none pair [] vs h before v after f hvs hv

theorem exposedIn_of_some {vs : List Visit} {f : Failure}
    (h : pair.firstFailure? [] vs = some f) :
    ∃ before v, pair.ExposedIn vs before v f ∧ ∀ pre u g, ¬pair.ExposedIn before pre u g := by
  obtain ⟨before, v, after, hvs, hv, hpre⟩ := exposed_of_some pair [] vs h
  exact ⟨before, v, ⟨⟨after, hvs⟩, hv⟩, fun pre u g hu =>
    not_exposedIn_of_none hpre ⟨pre, u, g, hu⟩⟩

/-- What an emitter holds after the visits `before`. -/
structure Progress (pair : Pair) (before : List Visit) (e : Emitter) : Prop where
  agrees : e.names.Agrees
  names : e.names.order = pair.writtenNames before
  text : e.text = pair.writtenText before

/-- The step makes the visits `vs` in the document `schema`: it ends in the failure
of the first that is exposed, or carries the progress of the run over them. -/
def Makes (pair : Pair) (schema : Schema) (x : Emission Unit) (vs : List Visit) : Prop :=
  ∀ before e, e.schema = schema → pair.Progress before e →
    (x.on e).2.schema = schema ∧
      match pair.firstFailure? before vs with
      | some f => (x.on e).1 = .error f
      | none => (x.on e).1 = .ok () ∧ pair.Progress (before ++ vs) (x.on e).2

theorem makes_nil (pair : Pair) (schema : Schema) : pair.Makes schema (pure ()) [] := by
  intro before e hs hp
  simpa [firstFailure?] using ⟨hs, hp⟩

/-- Steps that make visits one after the other make all of them. -/
theorem Makes.bind {schema : Schema} {x y : Emission Unit} {vs ws : List Visit}
    (hx : pair.Makes schema x vs) (hy : pair.Makes schema y ws) :
    pair.Makes schema (do x; y) (vs ++ ws) := by
  intro before e hs hp
  obtain ⟨hs', hx⟩ := hx before e hs hp
  rw [firstFailure?_append, Emission.on_bind]
  generalize x.on e = run at hs' hx
  obtain ⟨result, after⟩ := run
  cases hf : pair.firstFailure? before vs with
  | some f =>
    rw [hf] at hx
    obtain rfl : result = .error f := hx
    exact ⟨hs', rfl⟩
  | none =>
    rw [hf] at hx
    obtain ⟨rfl, hp'⟩ := hx
    simpa using hy (before ++ vs) after hs' hp'

/-- The progress of a run does not depend on the document that is read. -/
theorem Makes.within {schema : Schema} {x : Emission Unit} {vs : List Visit}
    (hx : pair.Makes schema x vs) (outer : Schema) :
    pair.Makes outer (Emission.within schema x) vs := by
  intro before e hs hp
  obtain ⟨-, hx⟩ := hx before { e with schema } rfl ⟨hp.agrees, hp.names, hp.text⟩
  rw [Emission.on_within]
  refine ⟨hs, ?_⟩
  cases hf : pair.firstFailure? before vs with
  | some f =>
    rw [hf] at hx
    exact hx
  | none =>
    rw [hf] at hx
    exact ⟨hx.1, hx.2.agrees, hx.2.names, hx.2.text⟩

/-! ## The visits of a walk -/

/-- In the run, the declaration of a visit adds what it adds alone. -/
theorem on_emitDeclaration (pair : Pair) (d : Declaration) (e : Emitter) :
    (pair.emitDeclaration d).on e = (pair.standalone (e.schema, d)).onto e :=
  pair.framed_emitDeclaration d e

/-- A top-level declaration whose name has been emitted is not looked at. Any other
adds what it adds alone, and is recorded with a blank line if it is written. -/
theorem on_emitTopLevel (pair : Pair) (d : Declaration) (e : Emitter) :
    (pair.emitTopLevel d).on e =
      if e.names.contains d.name then
        (.ok false, { e with notices := e.notices.push (.alreadyEmitted d.name e.schema) })
      else
        match (pair.standalone (e.schema, d)).onto e with
        | (.ok true, after) =>
          (.ok true, { after with
            names := e.names.insert d.name
            text := after.text ++ "\n" })
        | run => run := by
  simp only [emitTopLevel, Emission.on_bind, Emission.on_emittedNames]
  split
  · rfl
  · simp only [Emission.on_bind, on_emitDeclaration]
    rcases hr : (pair.standalone (e.schema, d)).onto e with ⟨_ | _ | _, after⟩
    · rfl
    · rfl
    · have hn : after.names = e.names := by
        rw [← congrArg (·.2.names) hr]
        rfl
      simp only [if_true, Emission.on_bind, Emission.on_record, Emission.on_write,
        Emission.on_pure, hn]

theorem text_standalone_of_skipped {v : Visit} (h : (pair.standalone v).result = .ok false) :
    (pair.standalone v).text = "" :=
  pair.quiet_emitDeclaration v.2 (.fresh v.1) h

/-- A visit that is hidden, or that writes nothing, leaves the progress as it is. -/
theorem Progress.append_of_not {before : List Visit} {e : Emitter} (hp : pair.Progress before e)
    {v : Visit} (h : ¬(pair.writes v = true ∧ v.2.name ∉ pair.writtenNames before)) :
    pair.Progress (before ++ [v]) e where
  agrees := hp.agrees
  names := by rw [hp.names, writtenNames_append, if_neg h]
  text := by rw [hp.text, writtenText_append, if_neg h]

theorem makes_excluded {exclusion? : Declaration → Option Notice} {d : Declaration} {n : Notice}
    (hd : exclusion? d = some n) (schema : Schema) :
    pair.Makes schema (pair.visit exclusion? d) [] := by
  intro before e hs hp
  simpa [visit, hd, firstFailure?] using ⟨hs, hp.agrees, hp.names, hp.text⟩

/-- A visit that is not excluded does in the run what its declaration does alone,
unless a visit before it has written the name, which hides even its failure. -/
theorem makes_visit {exclusion? : Declaration → Option Notice} {d : Declaration}
    (hd : exclusion? d = none) (schema : Schema) :
    pair.Makes schema (pair.visit exclusion? d) [(schema, d)] := by
  intro before e hs hp
  subst hs
  have hmem : e.names.contains d.name = true ↔ d.name ∈ pair.writtenNames before := by
    rw [hp.agrees, hp.names]
  by_cases hc : d.name ∈ pair.writtenNames before
  · have hnone : pair.firstFailure? before [(e.schema, d)] = none := by
      cases hr : (pair.standalone (e.schema, d)).result <;> simp [firstFailure?, hr, hc]
    have hp' := hp.append_of_not (v := (e.schema, d)) fun h => h.2 hc
    rw [hnone]
    simp only [visit, hd, Emission.on_bind, on_emitTopLevel, hmem.2 hc]
    exact ⟨rfl, rfl, hp'.agrees, hp'.names, hp'.text⟩
  · have hfree : e.names.contains d.name = false := by simpa using fun h => hc (hmem.1 h)
    simp only [visit, hd, Emission.on_bind, on_emitTopLevel, hfree, Bool.false_eq_true, if_false,
      Addition.onto]
    cases hr : (pair.standalone (e.schema, d)).result with
    | error f => simp [firstFailure?, hr, hc]
    | ok written =>
      have hnone : pair.firstFailure? before [(e.schema, d)] = none := by
        simp [firstFailure?, hr]
      rw [hnone]
      cases written with
      | false =>
        have hp' := hp.append_of_not (v := (e.schema, d)) fun h => by simp [writes, hr] at h
        refine ⟨rfl, rfl, hp'.agrees, hp'.names, ?_⟩
        simpa [text_standalone_of_skipped hr, Emission.on_pure] using hp'.text
      | true =>
        have hw : pair.writes (e.schema, d) = true := by simp [writes, hr]
        have hnew : pair.writes (e.schema, d) = true ∧ d.name ∉ pair.writtenNames before :=
          ⟨hw, hc⟩
        refine ⟨rfl, rfl, hp.agrees.insert d.name, ?_, ?_⟩
        · rw [writtenNames_append, if_pos hnew, ← hp.names]
          exact (EmittedNames.order_insert hp.agrees d.name).trans
            (if_neg (by rwa [hp.names]))
        · rw [writtenText_append, if_pos hnew, ← hp.text, ← String.append_assoc]
          rfl

theorem makes_visitAll (pair : Pair) (exclusion? : Declaration → Option Notice) (schema : Schema) :
    ∀ ds : List Declaration, pair.Makes schema (pair.visitAll exclusion? ds)
      ((ds.map (schema, ·)).filter fun v => (exclusion? v.2).isNone)
  | [] => makes_nil pair schema
  | d :: ds => by
    have ih := makes_visitAll pair exclusion? schema ds
    rw [List.map_cons, List.filter_cons]
    cases hd : exclusion? d with
    | some n => exact (makes_excluded hd schema).bind ih
    | none => exact (makes_visit hd schema).bind ih

/-- A walk makes the visits that are not excluded, whatever document was read
before it. -/
theorem makes_walk (pair : Pair) (exclusion? : Declaration → Option Notice) (schema : Schema) :
    pair.Makes schema (pair.walk exclusion?) (pair.kept exclusion?) := by
  rw [kept, visits, List.filter_append, List.filter_append]
  exact ((makes_visitAll pair exclusion? .types _).within schema).bind
    (((makes_visitAll pair exclusion? .protocol _).bind
      (makes_visitAll pair exclusion? .protocol _)).within schema)

end Pair

/-! ## The summary unions -/

/-- The text of the union over the names with a suffix, unless its name is one of
them. -/
def unionText (names : List String) (union suffix : String) : String :=
  if union ∈ names then ""
  else summaryText union ((names.filter (Text.endsWith · suffix)).map Zig.identifier)

/-- The names after a union has been written or left out. -/
def unionNames (names : List String) (union : String) : List String :=
  if union ∈ names then names else names ++ [union]

/-- The text of both unions; the second sees the name of the first. -/
def summaries (names : List String) (s : SummarySettings) : String :=
  unionText names s.requestUnion s.requestSuffix ++
    unionText (unionNames names s.requestUnion) s.notificationUnion s.notificationSuffix

theorem on_summaryUnion {e : Emitter} (he : e.names.Agrees) (union suffix : String) :
    ∃ after, (summaryUnion union suffix).on e = (.ok (), after) ∧ after.names.Agrees ∧
      after.names.order = unionNames e.names.order union ∧
      after.text = e.text ++ unionText e.names.order union suffix := by
  rw [summaryUnion, Emission.on_bind, Emission.on_emittedNames]
  by_cases h : union ∈ e.names.order
  · have hc := (he union).2 h
    simp [hc, unionNames, unionText, h, he]
  · have hc : e.names.contains union = false := by simpa using fun hc => h ((he union).1 hc)
    refine ⟨_, by simp only [hc, Bool.false_eq_true, if_false]; rfl, he.insert union, ?_, ?_⟩
    · exact EmittedNames.order_insert he union
    · rw [unionText, if_neg h]
      rfl

/-! ## The whole run -/

namespace Pair

/-- The code of a run that makes the visits `vs`: the preamble on lines of its own,
what the first writers write, and the summary unions. -/
def codeOf (pair : Pair) (vs : List Visit) (summary : SummarySettings) (preamble : String) :
    String :=
  (if preamble.isEmpty || Text.endsWith preamble "\n" then preamble else preamble ++ "\n") ++
    (pair.writtenText vs ++ summaries (pair.writtenNames vs) summary)

theorem progress_fresh (pair : Pair) (schema : Schema) : pair.Progress [] (.fresh schema) :=
  ⟨EmittedNames.agrees_empty, rfl, rfl⟩

/-- A walk without a first failure ends with the names and the text of its visits. -/
theorem walk_of_none {pair : Pair} {exclusion? : Declaration → Option Notice}
    (h : pair.firstFailure? [] (pair.kept exclusion?) = none) :
    ∃ e, (pair.walk exclusion?).on (.fresh .types) = (.ok (), e) ∧
      pair.Progress (pair.kept exclusion?) e := by
  obtain ⟨-, hwalk⟩ := makes_walk pair exclusion? .types [] (.fresh .types) rfl
    (progress_fresh pair .types)
  rw [h] at hwalk
  obtain ⟨hok, hp⟩ := hwalk
  exact ⟨_, Prod.ext hok rfl, hp⟩

/-- Behind a walk without a first failure, both unions are written over its names. -/
theorem body_of_none {pair : Pair} {exclusion? : Declaration → Option Notice}
    (h : pair.firstFailure? [] (pair.kept exclusion?) = none) (summary : SummarySettings) :
    ∃ walked last, (pair.walk exclusion?).on (.fresh .types) = (.ok (), walked) ∧
      pair.Progress (pair.kept exclusion?) walked ∧
      (pair.body exclusion? summary).on (.fresh .types) = (.ok walked.names.size, last) ∧
      last.names.order = unionNames (unionNames walked.names.order summary.requestUnion)
        summary.notificationUnion ∧
      last.text = walked.text ++ summaries walked.names.order summary := by
  obtain ⟨e, hrun, hp⟩ := walk_of_none h
  obtain ⟨e₁, hrun₁, ha₁, hn₁, ht₁⟩ :=
    on_summaryUnion hp.agrees summary.requestUnion summary.requestSuffix
  obtain ⟨e₂, hrun₂, -, hn₂, ht₂⟩ :=
    on_summaryUnion ha₁ summary.notificationUnion summary.notificationSuffix
  have hbody : (pair.body exclusion? summary).on (.fresh .types) = (.ok e.names.size, e₂) := by
    simp only [body, Emission.on_bind, hrun, hrun₁, hrun₂, Emission.on_emittedNames,
      Emission.on_pure]
  refine ⟨e, e₂, hrun, hp, hbody, by rw [hn₂, hn₁], ?_⟩
  rw [ht₂, ht₁, hn₁, String.append_assoc]
  rfl

/-- A run without a first failure generates the code of its visits. -/
theorem generate_of_none {pair : Pair} {exclusion? : Declaration → Option Notice}
    (h : pair.firstFailure? [] (pair.kept exclusion?) = none) (summary : SummarySettings)
    (preamble : String) :
    (pair.generate exclusion? summary preamble).result =
      .ok ⟨pair.codeOf (pair.kept exclusion?) summary preamble,
        (pair.writtenNames (pair.kept exclusion?)).length,
        .ofText (pair.codeOf (pair.kept exclusion?) summary preamble)⟩ := by
  obtain ⟨e, last, -, hp, hbody, -, htext⟩ := body_of_none h summary
  rw [hp.text, hp.names] at htext
  have hsize : e.names.size = (pair.writtenNames (pair.kept exclusion?)).length :=
    congrArg List.length hp.names
  simp only [generate, hbody, htext, hsize]
  rfl

theorem generate_of_some {pair : Pair} {exclusion? : Declaration → Option Notice} {f : Failure}
    (h : pair.firstFailure? [] (pair.kept exclusion?) = some f) (summary : SummarySettings)
    (preamble : String) :
    (pair.generate exclusion? summary preamble).result = .error f := by
  obtain ⟨-, hwalk⟩ := makes_walk pair exclusion? .types [] (.fresh .types) rfl
    (progress_fresh pair .types)
  rw [h] at hwalk
  generalize hrun : (pair.walk exclusion?).on (.fresh .types) = run at hwalk
  obtain ⟨result, e⟩ := run
  obtain rfl : result = .error f := hwalk
  have hbody : (pair.body exclusion? summary).on (.fresh .types) = (.error f, e) := by
    simp only [body, Emission.on_bind, hrun]
  simp only [generate, hbody]

/-- A run that succeeds has no first failure. -/
theorem firstFailure?_of_ok {pair : Pair} {exclusion? : Declaration → Option Notice}
    {summary : SummarySettings} {preamble : String} {generated : Generated}
    (h : (pair.generate exclusion? summary preamble).result = .ok generated) :
    pair.firstFailure? [] (pair.kept exclusion?) = none := by
  cases hf : pair.firstFailure? [] (pair.kept exclusion?) with
  | none => rfl
  | some f => simp [generate_of_some hf] at h

/-- In a run that does not fail, the name of a visit is written unless the visit
leaves its declaration out. A failure that is hidden is one of a name written before. -/
theorem name_mem_writtenNames {pair : Pair} {vs : List Visit}
    (hnone : pair.firstFailure? [] vs = none) {v : Visit} (hv : v ∈ vs) (h : (pair.standalone v).result ≠ .ok false) :
    v.2.name ∈ pair.writtenNames vs := by
  cases hr : (pair.standalone v).result with
  | ok written =>
    cases written with
    | false => exact (h hr).elim
    | true => exact mem_writtenNames.2 ⟨v, hv, by simp [writes, hr], rfl⟩
  | error f =>
    obtain ⟨before, after, rfl⟩ := List.append_of_mem hv
    by_cases hbefore : v.2.name ∈ pair.writtenNames before
    · obtain ⟨u, hu, hw, hname⟩ := mem_writtenNames.1 hbefore
      exact mem_writtenNames.2 ⟨u, List.mem_append_left _ hu, hw, hname⟩
    · exact (not_exposedIn_of_none hnone
        ⟨before, v, f, ⟨after, rfl⟩, exposed_iff.2 ⟨hr, hbefore⟩⟩).elim

/-- A run fails if and only if a visit is exposed, in the failure of the first one.
Otherwise the code holds, for each name that a visit writes, what the first writer of
the name writes alone. A declaration that is skipped or excluded hides no later one
of its name. -/
theorem generate_firstWriters (pair : Pair) (exclusion? : Declaration → Option Notice)
    (summary : SummarySettings) (preamble : String) :
    let kept := pair.kept exclusion?
    let result := (pair.generate exclusion? summary preamble).result
    let code := pair.codeOf kept summary preamble
    ((∃ f, result = .error f) ↔ ∃ before v f, pair.ExposedIn kept before v f) ∧
      (∀ f, result = .error f → ∃ before v, pair.ExposedIn kept before v f ∧
        ∀ pre u g, ¬pair.ExposedIn before pre u g) ∧
      ((¬∃ before v f, pair.ExposedIn kept before v f) →
        result = .ok ⟨code, (pair.writtenNames kept).length, .ofText code⟩) ∧
      ∀ before v after, kept = before ++ v :: after → pair.writes v = true →
        (∀ u ∈ before, u.2.name = v.2.name → pair.writes u = false) →
          pair.firstWriter? kept v.2.name = some v := by
  intro kept result code
  have hwriter : ∀ before v after, kept = before ++ v :: after → pair.writes v = true →
      (∀ u ∈ before, u.2.name = v.2.name → pair.writes u = false) →
        pair.firstWriter? kept v.2.name = some v := by
    intro before v after hk hw hfree
    rw [hk]
    exact firstWriter?_of_first hw (not_mem_writtenNames.2 hfree)
  cases hf : pair.firstFailure? [] kept with
  | none =>
    have hok := generate_of_none hf summary preamble
    refine ⟨?_, ?_, fun _ => hok, hwriter⟩
    · exact ⟨fun ⟨f, h⟩ => by simp [result, hok] at h, fun h => (not_exposedIn_of_none hf h).elim⟩
    · intro f h
      simp [result, hok] at h
  | some f =>
    have herr := generate_of_some hf summary preamble
    obtain ⟨before, v, hv, hnone⟩ := exposedIn_of_some hf
    refine ⟨⟨fun _ => ⟨before, v, f, hv⟩, fun _ => ⟨f, herr⟩⟩, ?_,
      fun h => (h ⟨before, v, f, hv⟩).elim, hwriter⟩
    intro g hg
    obtain rfl : f = g := by simpa [result, herr] using hg
    exact ⟨before, v, hv, hnone⟩

end Pair

end ZigReflect
