import ZigReflect.Drift.Report
import ZigReflect.Proofs.EditScripts

/-!
# Drift verdicts

The diff of two texts is empty just when they are the same text (`unified_eq_empty_iff`).
Cutting a text into lines loses nothing (`flatten_cutLines`), so different texts have different
lines, and a script from one to the other has a change. Gathering the chunks keeps a change in
some block, and a change is in some hunk.

So a report on a file that can be read as text calls it in sync just when it holds the bytes of
the generated text, and a file that is missing is never in sync
(`Machine.driftReport_exact`).
-/

namespace ZigReflect

namespace Drift

/-! ## Lines -/

/-- Cutting a text into lines loses nothing. -/
theorem flatten_cutLines (line rest : List Char) :
    (cutLines line rest).flatten = line.reverse ++ rest := by
  fun_induction cutLines line rest with
  | case1 => rfl
  | case2 line _ => simp
  | case3 line rest ih => simp [ih]
  | case4 line c rest _ _ ih => simp [ih]
  | case5 line c rest _ _ ih => simp [ih]

theorem lines_inj {old new : String} : lines old = lines new ↔ old = new := by
  refine ⟨fun h => ?_, congrArg lines⟩
  have hcut : cutLines [] old.toList = cutLines [] new.toList :=
    List.map_injective_iff.2 (fun _ _ => String.ofList_inj.1) h
  have htext := congrArg List.flatten hcut
  rw [flatten_cutLines, flatten_cutLines] at htext
  exact String.toList_inj.1 htext

/-! ## Blocks and hunks -/

@[simp]
theorem Block.add_kept (b : Block) (c : Chunk) : (b.add c).kept = b.kept := by
  unfold Block.add
  split <;> rfl

/-- One of some blocks is a change. -/
def HasChange (blocks : List Block) : Prop :=
  ∃ b ∈ blocks, b.kept = false

@[simp]
theorem not_hasChange_nil : ¬HasChange [] := by
  simp [HasChange]

@[simp]
theorem hasChange_cons {b : Block} {rest : List Block} :
    HasChange (b :: rest) ↔ b.kept = false ∨ HasChange rest := by
  simp [HasChange]

/-- Gathering keeps a change of the script in a block, and makes none. -/
theorem hasChange_gather (chunks : List Chunk) (done : List Block) :
    HasChange (gather chunks done) ↔ (∃ c ∈ chunks, c.action ≠ .keep) ∨ HasChange done := by
  fun_induction gather chunks done with
  | case1 done => simp [HasChange]
  | case2 c rest kept b before hsame ih =>
    have hb : b.kept = false ↔ c.action ≠ .keep := by simp [hsame, kept]
    simp [ih, hb, or_assoc, or_left_comm]
  | case3 c rest kept b before _ ih =>
    simp [ih, kept, or_assoc, or_left_comm]
  | case4 c rest kept ih =>
    simp [ih, kept, or_comm]

theorem hasChange_trimFirst (blocks : List Block) :
    HasChange (trimFirst blocks) ↔ HasChange blocks := by
  cases blocks with
  | nil => exact Iff.rfl
  | cons b rest =>
    unfold trimFirst
    dsimp only
    split <;> simp [Block.tail]

theorem hasChange_trimLast (blocks : List Block) :
    HasChange (trimLast blocks) ↔ HasChange blocks := by
  fun_induction trimLast blocks with
  | case1 b => simp [Block.head]
  | case2 b => exact Iff.rfl
  | case3 b rest _ ih => simp [ih]
  | case4 => exact Iff.rfl

/-- A change is in some hunk. -/
theorem splitHunks_ne_nil {blocks opened : List Block}
    (h : HasChange blocks ∨ HasChange opened) : splitHunks blocks opened ≠ [] := by
  fun_induction splitHunks blocks opened with
  | case1 => simp
  | case2 opened hnone =>
    obtain ⟨b, hb, hkept⟩ := h.resolve_left not_hasChange_nil
    exact absurd (List.any_eq_true.2 ⟨b, hb, by simp [hkept]⟩) hnone
  | case3 => simp
  | case4 b rest opened _ ih =>
    refine ih ?_
    rw [hasChange_cons, or_assoc, or_left_comm] at h
    exact h.imp_right hasChange_cons.2

theorem hunks_ne_nil {blocks : List Block} (h : HasChange blocks) : hunks blocks ≠ [] :=
  splitHunks_ne_nil (.inl ((hasChange_trimLast _).2 ((hasChange_trimFirst _).2 h)))

/-- The diff of two texts is empty just when they are the same text. -/
theorem unified_eq_empty_iff (oldName newName old new : String) :
    unified oldName newName old new = "" ↔ old = new := by
  refine ⟨fun h => ?_, fun h => if_pos h⟩
  by_contra hne
  obtain ⟨c, hc, hchange⟩ := exists_change (mt lines_inj.1 hne)
  have hhunks : hunks (gather (compact (script (lines old) (lines new))) []) ≠ [] :=
    hunks_ne_nil ((hasChange_gather _ _).2 (.inl ⟨c, hc, hchange⟩))
  unfold unified at h
  rw [if_neg hne] at h
  dsimp only at h
  split at h
  · next hnone => exact hhunks hnone
  · simp at h

end Drift

theorem toUTF8_of_fromUTF8? {bytes : ByteArray} {text : String}
    (h : String.fromUTF8? bytes = some text) : text.toUTF8 = bytes := by
  unfold String.fromUTF8? at h
  split at h
  · cases h
    rfl
  · cases h

namespace Machine

open Drift

variable (m : Machine) (t : Tree)

theorem driftReport_of_missing {path : String} (generated : String)
    (h : t.exists? m.cwd (.ofText path) = false) :
    m.driftReport t path generated = .ok ⟨path, true, ""⟩ := by
  simp [driftReport, h]

theorem driftReport_of_text {path current : String} {bytes : ByteArray} (generated : String)
    (hbytes : t.readBytes m.cwd path = .ok bytes) (htext : String.fromUTF8? bytes = some current) :
    m.driftReport t path generated =
      .ok ⟨path, false, unified path "generated" current generated⟩ := by
  have hexists : t.exists? m.cwd (.ofText path) = true := by
    unfold Tree.readBytes at hbytes
    unfold Tree.exists?
    split at hbytes
    · next h => rw [h]
    all_goals cases hbytes
  have hread : m.readText t path = .ok current := by
    simp [readText, Tree.readText, hbytes, htext]
  simp [driftReport, hexists, hread]

/-- A file that is missing is never in sync with a generated text, not even with an empty one. A
file that holds text is in sync just when it holds the bytes of the generated text, and the diff
is empty just then. -/
theorem driftReport_exact (path generated : String) :
    (t.exists? m.cwd (.ofText path) = false →
      ∃ r, m.driftReport t path generated = .ok r ∧ r.missing = true ∧ r.inSync = false) ∧
    ∀ bytes current, t.readBytes m.cwd path = .ok bytes →
      String.fromUTF8? bytes = some current →
        ∃ r, m.driftReport t path generated = .ok r ∧ r.missing = false ∧
          (r.inSync = true ↔ bytes = generated.toUTF8) ∧
          (r.diff = "" ↔ bytes = generated.toUTF8) := by
  refine ⟨fun hmissing => ?_, fun bytes current hbytes htext => ?_⟩
  · exact ⟨_, m.driftReport_of_missing t generated hmissing, rfl, rfl⟩
  · refine ⟨_, m.driftReport_of_text t generated hbytes htext, rfl, ?_⟩
    have hsame : unified path "generated" current generated = "" ↔ bytes = generated.toUTF8 := by
      rw [unified_eq_empty_iff, ← toUTF8_of_fromUTF8? htext]
      exact String.toByteArray_inj.symm
    exact ⟨by simp [DriftReport.inSync, hsame], hsame⟩

/-- A file that differs from the generated text in its last line feed only, and one that is
missing where nothing is generated. -/
theorem driftReport_exact_unended :
    let m : Machine :=
      { cwd := [], env := [], configHome := "", scratch := "",
        launch := fun t _ _ => (t, .exited 0 "") }
    let t : Tree := .dir [("types.zig", .file "x\n".toUTF8)]
    (∃ r, m.driftReport t "types.zig" "x" = .ok r ∧ r.inSync = false ∧ r.diff ≠ "") ∧
      ∃ r, m.driftReport t "none.zig" "" = .ok r ∧ r.missing = true ∧ r.inSync = false := by
  intro m t
  have hread : t.readBytes m.cwd "types.zig" = .ok "x\n".toUTF8 := by decide +kernel
  have hmissing : t.exists? m.cwd (.ofText "none.zig") = false := by decide +kernel
  have htext : String.fromUTF8? "x\n".toUTF8 = some "x\n" := by decide +kernel
  have hdiffer : "x\n".toUTF8 ≠ "x".toUTF8 := mt String.toByteArray_inj.1 (by decide)
  obtain ⟨r, hr, -, hsync, hdiff⟩ :=
    (driftReport_exact m t "types.zig" "x").2 _ _ hread htext
  exact ⟨⟨r, hr, by simpa using mt hsync.1 hdiffer, mt hdiff.1 hdiffer⟩,
    (driftReport_exact m t "none.zig" "").1 hmissing⟩

end Machine

end ZigReflect
