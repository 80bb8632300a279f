import Mathlib.Data.List.Basic
import ZigReflect.Drift.Compact

/-!
# Edit scripts

An edit script accounts for the lines of two texts: what it keeps and deletes is the old
text, what it keeps and inserts is the new one. `Side.linesOf` reads either text off a list
of chunks, and every stage of the differ leaves both as they are: `conquer` accounts for the
lines it is given wherever it cuts them (`Side.linesOf_conquer`), and sliding a change past
its neighbours moves lines between chunks only (`Side.linesOf_slideUp`,
`Side.linesOf_slideDown`).

So a compact script from one text to another accounts for exactly these two
(`Side.linesOf_compact_script`), and a script that keeps all its lines leads from a text to
itself (`linesOf_old_eq_new`).
-/

namespace ZigReflect.Drift

/-! ## Common ends -/

theorem take_commonPrefix (old new : List String) :
    old.take (commonPrefix old new) = new.take (commonPrefix old new) := by
  induction old generalizing new with
  | nil => simp [commonPrefix]
  | cons a old ih =>
    cases new with
    | nil => simp [commonPrefix]
    | cons b new =>
      by_cases h : a = b
      · simp [commonPrefix, h, ih]
      · simp [commonPrefix, h]

theorem take_append_drop_append (n : Nat) (cut rest : List String) :
    cut.take n ++ (cut.drop n ++ rest) = cut ++ rest := by
  rw [← List.append_assoc, List.take_append_drop]

theorem drop_commonSuffix (old new : List String) :
    old.drop (old.length - commonSuffix old new) =
      new.drop (new.length - commonSuffix old new) := by
  have h := take_commonPrefix old.reverse new.reverse
  rw [List.take_reverse, List.take_reverse, List.reverse_inj] at h
  exact h

/-! ## The two sides of a script -/

/-- One of the two texts that an edit script is about. -/
inductive Side where
  | old
  | new

namespace Side

/-- The text on a side. -/
def pick {α : Type} (side : Side) (old new : α) : α :=
  match side with
  | .old => old
  | .new => new

/-- What leaves no lines on a side. -/
def skipped : Side → Action
  | .old => .insert
  | .new => .delete

/-- The lines that chunks account for on a side. -/
def linesOf (side : Side) (chunks : List Chunk) : List String :=
  chunks.flatMap fun c => side.pick c.oldLines c.newLines

variable (side : Side)

theorem pick_lines (c : Chunk) :
    side.pick c.oldLines c.newLines = if c.action = side.skipped then [] else c.lines := by
  obtain ⟨action, oldAt, newAt, lines⟩ := c
  cases side <;> cases action <;> rfl

@[simp]
theorem linesOf_nil : side.linesOf [] = [] := rfl

@[simp]
theorem linesOf_cons (c : Chunk) (chunks : List Chunk) :
    side.linesOf (c :: chunks) =
      (if c.action = side.skipped then [] else c.lines) ++ side.linesOf chunks := by
  rw [← pick_lines]
  rfl

@[simp]
theorem linesOf_append (before after : List Chunk) :
    side.linesOf (before ++ after) = side.linesOf before ++ side.linesOf after :=
  List.flatMap_append

/-- Kept lines stand on both sides. -/
@[simp]
theorem keep_ne_skipped : Action.keep ≠ side.skipped := by
  cases side <;> decide

/-- Of a deletion and an insertion, every side has the lines of one at most. -/
theorem eq_skipped_or {a b : Action} (ha : a ≠ .keep) (hb : b ≠ .keep) (hne : a ≠ b) :
    a = side.skipped ∨ b = side.skipped := by
  cases side <;> cases a <;> cases b <;> simp_all [skipped]

@[simp]
theorem linesOf_chunk (action : Action) (oldAt newAt : Nat) (lines : List String) :
    side.linesOf (chunk action oldAt newAt lines) =
      if action = side.skipped then [] else lines := by
  cases lines <;> simp [chunk]

/-- Lines that are deleted before others are inserted are the lines of the two sides. -/
theorem linesOf_replace (oldAt newAt oldAt' newAt' : Nat) (old new : List String) :
    side.linesOf (chunk .delete oldAt newAt old ++ chunk .insert oldAt' newAt' new) =
      side.pick old new := by
  cases side <;> simp [skipped, pick]

theorem pick_of_eq {α : Type} {a b : α} (h : a = b) : side.pick a b = a := by
  cases side
  · rfl
  · exact h.symm

theorem pick_append {α : Type} (a b c d : List α) :
    side.pick a b ++ side.pick c d = side.pick (a ++ c) (b ++ d) := by
  cases side <;> rfl

/-- A script accounts for the lines it is made from, wherever it cuts them. -/
theorem linesOf_conquer (fuel oldAt newAt : Nat) (old new : List String) :
    side.linesOf (conquer fuel oldAt newAt old new) = side.pick old new := by
  induction fuel generalizing oldAt newAt old new with
  | zero => exact linesOf_replace ..
  | succ fuel ih =>
    unfold conquer
    extract_lets p old' new' s o n oAt nAt middle
    have hmiddle : side.linesOf middle = side.pick o n := by
      unfold middle
      split
      · exact linesOf_replace ..
      · split
        · rw [linesOf_append, ih, ih, pick_append, List.take_append_drop, List.take_append_drop]
        · exact linesOf_replace ..
    calc side.linesOf _
        = old.take p ++ side.pick o n ++ old'.drop (old'.length - s) := by
          simp only [linesOf_append, linesOf_chunk, hmiddle, if_neg side.keep_ne_skipped]
      _ = side.pick (old.take p) (new.take p) ++ side.pick o n ++
            side.pick (old'.drop (old'.length - s)) (new'.drop (new'.length - s)) := by
          rw [pick_of_eq side (take_commonPrefix old new),
            pick_of_eq side (drop_commonSuffix old' new')]
      _ = side.pick old new := by
          unfold o n old' new'
          simp only [pick_append, List.append_assoc, List.take_append_drop]

/-! ## Giving lines away -/

@[simp]
theorem linesOf_prependChunk (c : Chunk) (rest : List Chunk) :
    side.linesOf (prependChunk c rest) = side.linesOf (c :: rest) := by
  unfold prependChunk
  split <;> simp_all

@[simp]
theorem linesOf_reverse_prependChunk (c : Chunk) (rest : List Chunk) :
    side.linesOf (prependChunk c rest).reverse = side.linesOf (c :: rest).reverse := by
  unfold prependChunk
  split <;> simp_all

@[simp]
theorem linesOf_giveStart (lines : List String) (oldAt newAt : Nat) (rest : List Chunk) :
    side.linesOf (giveStart lines oldAt newAt rest) = lines ++ side.linesOf rest := by
  unfold giveStart
  split <;> simp

@[simp]
theorem linesOf_reverse_giveEnd (lines : List String) (oldAt newAt : Nat) (rest : List Chunk) :
    side.linesOf (giveEnd lines oldAt newAt rest).reverse =
      side.linesOf rest.reverse ++ lines := by
  unfold giveEnd
  split <;> simp

end Side

/-! ## Sliding -/

/-- The chunks that a focus is on, in their order. -/
def Focus.chunks (f : Focus) : List Chunk :=
  f.before.reverse ++ f.here :: f.after

/-- A change that slides over kept lines before it ends with them. -/
theorem lines_eq_of_overlapUp {here : Chunk} {kept : List String} (h : 0 < overlapUp here kept) :
    here.lines = here.lines.take (here.lines.length - overlapUp here kept) ++
      kept.drop (kept.length - overlapUp here kept) := by
  unfold overlapUp at *
  split at h
  · next hinsert => rw [if_pos hinsert, drop_commonSuffix, List.take_append_drop]
  · cases h

/-- A change that slides over kept lines after it starts with them. -/
theorem lines_eq_of_overlapDown {here : Chunk} {kept : List String}
    (h : 0 < overlapDown here kept) :
    here.lines = kept.take (overlapDown here kept) ++
      here.lines.drop (overlapDown here kept) := by
  unfold overlapDown at *
  split at h
  · next hinsert => rw [if_pos hinsert, take_commonPrefix, List.take_append_drop]
  · cases h

namespace Side

variable (side : Side)

/-- Sliding a change up moves lines between chunks only. The action is kept along, since a kept
chunk would slide over others on both sides. -/
theorem linesOf_slideUp (fuel : Nat) (f : Focus) (hf : f.here.action ≠ .keep) :
    side.linesOf (slideUp fuel f).chunks = side.linesOf f.chunks ∧
      (slideUp fuel f).here.action = f.here.action := by
  induction fuel generalizing f with
  | zero => exact ⟨rfl, rfl⟩
  | succ fuel ih =>
    obtain ⟨before, here, after⟩ := f
    unfold slideUp
    cases before with
    | nil => exact ⟨rfl, rfl⟩
    | cons prev rest =>
      dsimp only at hf ⊢
      by_cases hprev : prev.action = .keep
      · rw [if_pos hprev]
        by_cases hs : 0 < overlapUp here prev.lines
        · rw [if_pos hs]
          have hlines := lines_eq_of_overlapUp hs
          refine (ih _ hf).imp_left fun h => h.trans ?_
          generalize prev.lines.length - overlapUp here prev.lines = n at hlines ⊢
          generalize here.lines.take (here.lines.length - overlapUp here prev.lines) = stay
            at hlines ⊢
          by_cases hskip : here.action = side.skipped
          · simp [Focus.chunks, hprev, hskip, take_append_drop_append]
          · simp [Focus.chunks, hprev, hskip, hlines, take_append_drop_append]
        · rw [if_neg hs]
          split
          · next hempty =>
            refine (ih _ hf).imp_left fun h => h.trans ?_
            simp_all [Focus.chunks]
          · exact ⟨rfl, rfl⟩
      · rw [if_neg hprev]
        split
        · next hsame =>
          refine (ih _ hprev).imp (fun h => h.trans ?_) fun h => h.trans hsame
          by_cases hskip : here.action = side.skipped <;> simp [Focus.chunks, hsame, hskip]
        · next hdiffer =>
          refine (ih _ hf).imp_left fun h => h.trans ?_
          rcases side.eq_skipped_or hprev hf hdiffer with h | h <;> simp [Focus.chunks, h]

/-- Sliding a change down moves lines between chunks only. -/
theorem linesOf_slideDown (fuel : Nat) (f : Focus) (hf : f.here.action ≠ .keep) :
    side.linesOf (slideDown fuel f).chunks = side.linesOf f.chunks ∧
      (slideDown fuel f).here.action = f.here.action := by
  induction fuel generalizing f with
  | zero => exact ⟨rfl, rfl⟩
  | succ fuel ih =>
    obtain ⟨before, here, after⟩ := f
    unfold slideDown
    cases after with
    | nil => exact ⟨rfl, rfl⟩
    | cons next rest =>
      dsimp only at hf ⊢
      by_cases hnext : next.action = .keep
      · rw [if_pos hnext]
        by_cases hs : 0 < overlapDown here next.lines
        · rw [if_pos hs]
          have hlines := lines_eq_of_overlapDown hs
          refine (ih _ hf).imp_left fun h => h.trans ?_
          generalize overlapDown here next.lines = s at hlines ⊢
          generalize here.lines.drop s = stay at hlines ⊢
          by_cases hskip : here.action = side.skipped
          · simp [Focus.chunks, hnext, hskip, take_append_drop_append]
          · simp [Focus.chunks, hnext, hskip, hlines, take_append_drop_append]
        · rw [if_neg hs]
          split
          · next hempty =>
            refine (ih _ hf).imp_left fun h => h.trans ?_
            simp_all [Focus.chunks]
          · exact ⟨rfl, rfl⟩
      · rw [if_neg hnext]
        split
        · next hsame =>
          refine (ih _ hf).imp_left fun h => h.trans ?_
          by_cases hskip : here.action = side.skipped <;> simp [Focus.chunks, hsame, hskip]
        · next hdiffer =>
          refine (ih _ hf).imp_left fun h => h.trans ?_
          rcases side.eq_skipped_or hnext hf hdiffer with h | h <;> simp [Focus.chunks, h]

/-- Sliding every change of one kind leaves both sides as they are. -/
theorem linesOf_slideAll {action : Action} (haction : action ≠ .keep) (fuel : Nat)
    (before after : List Chunk) :
    side.linesOf (slideAll action fuel before after) = side.linesOf (before.reverse ++ after) := by
  induction fuel generalizing before after with
  | zero => rfl
  | succ fuel ih =>
    cases after with
    | nil => simp [slideAll]
    | cons c after =>
      unfold slideAll
      split
      · next hc =>
        dsimp only
        have hkeep : c.action ≠ .keep := hc ▸ haction
        obtain ⟨hup, hupAction⟩ := side.linesOf_slideUp (room before) ⟨before, c, after⟩ hkeep
        generalize slideUp (room before) ⟨before, c, after⟩ = up at hup hupAction
        obtain ⟨hdown, -⟩ := side.linesOf_slideDown (room up.after) up (hupAction ▸ hkeep)
        generalize slideDown (room up.after) up = down at hdown
        calc side.linesOf (slideAll action fuel (down.here :: down.before) down.after)
            = side.linesOf down.chunks := by
              rw [ih, List.reverse_cons, List.append_assoc]
              rfl
          _ = side.linesOf (before.reverse ++ c :: after) := hdown.trans hup
      · rw [ih, List.reverse_cons, List.append_assoc]
        rfl

theorem linesOf_compact (chunks : List Chunk) :
    side.linesOf (compact chunks) = side.linesOf chunks := by
  calc side.linesOf (compact chunks)
      = side.linesOf (slideAll .delete ((room chunks + 1) * (room chunks + 1)) [] chunks) :=
        side.linesOf_slideAll (by decide) ..
    _ = side.linesOf chunks := side.linesOf_slideAll (by decide) ..

/-- A compact script from one text to another accounts for these two texts. -/
theorem linesOf_compact_script (old new : List String) :
    side.linesOf (compact (script old new)) = side.pick old new := by
  rw [linesOf_compact, script, linesOf_conquer]

end Side

/-- A script without a change leads from a text to itself. -/
theorem linesOf_old_eq_new {chunks : List Chunk} (h : ∀ c ∈ chunks, c.action = .keep) :
    Side.old.linesOf chunks = Side.new.linesOf chunks := by
  unfold Side.linesOf
  refine List.flatMap_congr fun c hc => ?_
  simp only [Side.pick_lines, h c hc, Side.keep_ne_skipped, if_false]

/-- A script between different texts has a change. -/
theorem exists_change {old new : List String} (h : old ≠ new) :
    ∃ c ∈ compact (script old new), c.action ≠ .keep := by
  by_contra! hkeep
  have hsame := linesOf_old_eq_new hkeep
  rw [Side.linesOf_compact_script, Side.linesOf_compact_script] at hsame
  exact h hsame

end ZigReflect.Drift
