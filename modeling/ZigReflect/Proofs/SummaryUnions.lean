import Mathlib
import ZigReflect.Proofs.FirstWriter
import ZigReflect.Proofs.Spelling

/-!
# Summary unions

When a walk has ended, two unions are written over the names that it has emitted.
`WritesSummary` says what one of them does, apart from how it is computed: a union whose name has
been emitted is left out, and any other one has a case for each of the emitted names with its
suffix, in their order, and is itself emitted then. The names that it is given leave it no choice
(`WritesSummary.unique`).

The second union finds the name of the first one among the emitted names, if that one was written.
So the suffixes and the names of the unions may be equal, empty or overlap
(`summary_unions_exact`).
-/

namespace ZigReflect

open Text

/-- Of the names of a list, the cases are those that end in the suffix, in the same order. -/
structure CasesOf (names : List String) (suffix : String) (cases : List String) : Prop where
  sublist : cases.Sublist names
  mem_iff : ∀ name, name ∈ cases ↔ name ∈ names ∧ ∃ stem, name = stem ++ suffix

/-- What a summary union writes behind the names that have been emitted, and the names after it. -/
inductive WritesSummary (names : List String) (union suffix : String) :
    String → List String → Prop
  /-- Its name has been emitted. -/
  | taken (emitted : union ∈ names) : WritesSummary names union suffix "" names
  /-- No name ends in the suffix. -/
  | empty (free : union ∉ names) (none : CasesOf names suffix []) :
    WritesSummary names union suffix
      ("pub const " ++ Zig.identifier union ++ " = union(enum) \x7b\x7d;\n\n") (names ++ [union])
  /-- Some names do: they are different labels, and the union is none of them. -/
  | filled {cases : List String} (free : union ∉ names) (some : cases ≠ [])
      (all : CasesOf names suffix cases) (distinct : (cases.map Zig.identifier).Nodup)
      (other : Zig.identifier union ∉ cases.map Zig.identifier) :
    WritesSummary names union suffix
      ("pub const " ++ Zig.identifier union ++ " = union(enum) \x7b " ++
        ", ".intercalate (cases.map fun c => Zig.identifier c ++ ": " ++ Zig.identifier c) ++
        " \x7d;\n\n") (names ++ [union])

/-! ## One union -/

theorem endsWith_iff {name suffix : String} :
    endsWith name suffix = true ↔ ∃ stem, name = stem ++ suffix := by
  rw [endsWith, List.isSuffixOf_iff_suffix]
  constructor
  · rintro ⟨stem, h⟩
    exact ⟨String.ofList stem, String.toList_inj.1 (by simp [h])⟩
  · rintro ⟨stem, rfl⟩
    exact ⟨stem.toList, by simp⟩

theorem casesOf_filter (names : List String) (suffix : String) :
    CasesOf names suffix (names.filter (endsWith · suffix)) where
  sublist := List.filter_sublist
  mem_iff name := by rw [List.mem_filter, endsWith_iff]

/-- The cases over different names are given by the suffix: all of them end in it, so filtering
leaves them as they are. -/
theorem CasesOf.eq_filter {names : List String} {suffix : String} {cases : List String}
    (h : CasesOf names suffix cases) (hnames : names.Nodup) :
    cases = names.filter (endsWith · suffix) := by
  have hfilter := casesOf_filter names suffix
  have hsame : ∀ name, name ∈ cases ↔ name ∈ names.filter (endsWith · suffix) := fun name =>
    (h.mem_iff name).trans (hfilter.mem_iff name).symm
  have hperm : cases.Perm (names.filter (endsWith · suffix)) :=
    (List.perm_ext_iff_of_nodup (hnames.sublist h.sublist) (hnames.sublist hfilter.sublist)).2 hsame
  have hall : cases.filter (endsWith · suffix) = cases :=
    List.filter_eq_self.2 fun name hname => endsWith_iff.2 ((h.mem_iff name).1 hname).2
  have hsub : cases.Sublist (names.filter (endsWith · suffix)) := by
    simpa only [hall] using h.sublist.filter (endsWith · suffix)
  exact hsub.eq_of_length hperm.length_eq

theorem summaryText_nil (union : String) : summaryText union [] =
    "pub const " ++ Zig.identifier union ++ " = union(enum) \x7b\x7d;\n\n" := by
  simp [summaryText, String.append_assoc]

theorem summaryText_of_ne_nil (union : String) {cases : List String} (h : cases ≠ []) :
    summaryText union (cases.map Zig.identifier) =
      "pub const " ++ Zig.identifier union ++ " = union(enum) \x7b " ++
        ", ".intercalate (cases.map fun c => Zig.identifier c ++ ": " ++ Zig.identifier c) ++
        " \x7d;\n\n" := by
  have hopening : " = union(enum) \x7b " = " = union(enum) " ++ "\x7b " := rfl
  have hclosing : " \x7d;\n\n" = " \x7d" ++ ";\n\n" := rfl
  have hsome : ((cases.map Zig.identifier).map fun m => m ++ ": " ++ m).isEmpty = false := by
    simpa using h
  rw [summaryText, hsome, hopening, hclosing]
  simp only [Bool.false_eq_true, if_false, List.map_map, Function.comp_def, String.append_assoc]

/-- What is written behind different names is what the rules say. -/
theorem writesSummary {names : List String} (hnames : names.Nodup) (union suffix : String) :
    WritesSummary names union suffix (unionText names union suffix) (unionNames names union) := by
  unfold unionText unionNames
  by_cases hunion : union ∈ names
  · rw [if_pos hunion, if_pos hunion]
    exact .taken hunion
  · rw [if_neg hunion, if_neg hunion]
    have hcases := casesOf_filter names suffix
    generalize names.filter (endsWith · suffix) = cases at hcases
    by_cases hempty : cases = []
    · subst hempty
      rw [List.map_nil, summaryText_nil]
      exact .empty hunion hcases
    · rw [summaryText_of_ne_nil union hempty]
      have hdistinct : (cases.map Zig.identifier).Nodup :=
        (hnames.sublist hcases.sublist).map Zig.identifier_injective
      refine .filled hunion hempty hcases hdistinct fun hmem => ?_
      obtain ⟨name, hname, heq⟩ := List.mem_map.1 hmem
      exact hunion (Zig.identifier_injective heq ▸ hcases.sublist.subset hname)

/-- Behind different names, the rules leave no choice. -/
theorem WritesSummary.unique {names : List String} {union suffix text : String}
    {after : List String} (h : WritesSummary names union suffix text after)
    (hnames : names.Nodup) :
    text = unionText names union suffix ∧ after = unionNames names union := by
  unfold unionText unionNames
  cases h with
  | taken emitted => simp [emitted]
  | empty free none =>
    rw [if_neg free, if_neg free, ← none.eq_filter hnames, List.map_nil, summaryText_nil]
    exact ⟨rfl, rfl⟩
  | filled free some all distinct other =>
    rw [if_neg free, if_neg free, ← all.eq_filter hnames, summaryText_of_ne_nil union some]
    exact ⟨rfl, rfl⟩

theorem nodup_unionNames {names : List String} (h : names.Nodup) (union : String) :
    (unionNames names union).Nodup := by
  unfold unionNames
  split
  · exact h
  · next hunion =>
    rw [List.nodup_append]
    refine ⟨h, List.nodup_singleton union, ?_⟩
    rintro a ha b hb rfl
    exact hunion (List.mem_singleton.1 hb ▸ ha)

/-! ## The run -/

namespace Pair

theorem nodup_writtenNames (pair : Pair) (vs : List Visit) : (pair.writtenNames vs).Nodup := by
  induction vs using List.reverseRecOn with
  | nil => exact List.nodup_nil
  | append_singleton before v ih =>
    rw [writtenNames_append]
    split
    · next h => simpa [unionNames, h.2] using nodup_unionNames ih v.2.name
    · exact ih

/-- A run that succeeds writes both summary unions as the rules say behind all declarations: the
first over the names of the walk, and the second over these and the name of the first if that one
was written. -/
theorem summary_unions_exact (pair : Pair) (exclusion? : Declaration → Option Notice)
    (summary : SummarySettings) (preamble : String) (generated : Generated)
    (hok : (pair.generate exclusion? summary preamble).result = .ok generated) :
    ∃ walked last requests between notifications,
      (pair.walk exclusion?).on (.fresh .types) = (.ok (), walked) ∧
      (pair.body exclusion? summary).on (.fresh .types) = (.ok generated.declarations, last) ∧
      walked.names.order = pair.writtenNames (pair.kept exclusion?) ∧
      walked.text = pair.writtenText (pair.kept exclusion?) ∧
      WritesSummary walked.names.order summary.requestUnion summary.requestSuffix
        requests between ∧
      WritesSummary between summary.notificationUnion summary.notificationSuffix
        notifications last.names.order ∧
      last.text = walked.text ++ requests ++ notifications ∧
      generated.code = closePreamble preamble ++ last.text := by
  have hnone := firstFailure?_of_ok hok
  obtain ⟨walked, last, hwalk, hprogress, hbody, hnames, htext⟩ := body_of_none hnone summary
  have hdistinct : walked.names.order.Nodup := by
    rw [hprogress.names]
    exact pair.nodup_writtenNames _
  have hbetween := nodup_unionNames hdistinct summary.requestUnion
  have hrequests := writesSummary hdistinct summary.requestUnion summary.requestSuffix
  have hnotifications := writesSummary hbetween summary.notificationUnion
    summary.notificationSuffix
  rw [← hnames] at hnotifications
  have hgenerated : generated.declarations = walked.names.size ∧
      generated.code = closePreamble preamble ++ last.text := by
    simp only [generate, hbody] at hok
    obtain rfl := Except.ok.inj hok
    exact ⟨rfl, rfl⟩
  refine ⟨walked, last, _, _, _, hwalk, ?_, hprogress.names, hprogress.text, hrequests,
    hnotifications, ?_, hgenerated.2⟩
  · rw [hgenerated.1]
    exact hbody
  · rw [htext, String.append_assoc]
    rfl

/-- The second union is over all names, that of the first one among them, and its own name has to
be quoted. -/
theorem summary_unions_exact_overlapping :
    let request : Declaration :=
      { id := 1, name := "BReq", kind := .typeAlias, type := some (.intrinsic "string") }
    let pair : Pair := ⟨.ofRoot { id := 0, name := "types", children := [request] },
      .ofRoot { id := 0, name := "protocol" }⟩
    let summary : SummarySettings :=
      { requestUnion := "AnyReq", requestSuffix := "Req"
        notificationUnion := "error", notificationSuffix := "" }
    ∃ generated, (pair.generate (Filter.mk [] []).exclusion? summary "").result = .ok generated ∧
      generated.code = "pub const BReq = []const u8;\n\n" ++
        "pub const AnyReq = union(enum) \x7b BReq: BReq \x7d;\n\n" ++
        ("pub const @\"error\" = union(enum) \x7b " ++
          "BReq: BReq, AnyReq: AnyReq \x7d;\n\n") := by
  intro request pair summary
  have hnone : pair.firstFailure? [] (pair.kept (Filter.mk [] []).exclusion?) = none := by cbv
  have hnames : pair.writtenNames (pair.kept (Filter.mk [] []).exclusion?) = ["BReq"] := by
    cbv
  have htext : pair.writtenText (pair.kept (Filter.mk [] []).exclusion?) =
      "pub const BReq = []const u8;\n\n" := by
    cbv
  obtain ⟨generated, hok⟩ : ∃ generated,
      (pair.generate (Filter.mk [] []).exclusion? summary "").result = .ok generated :=
    ⟨_, generate_of_none hnone summary ""⟩
  obtain ⟨walked, last, requests, between, notifications, -, -, horder, hwalked, hrequests,
    hnotifications, hlast, hcode⟩ := summary_unions_exact pair
    (Filter.mk [] []).exclusion? summary "" generated hok
  rw [horder, hnames] at hrequests
  obtain ⟨rfl, rfl⟩ := hrequests.unique (by decide)
  obtain ⟨rfl, -⟩ := hnotifications.unique (by decide)
  refine ⟨generated, hok, ?_⟩
  rw [hcode, hlast, hwalked, htext]
  decide +kernel

end Pair

end ZigReflect
