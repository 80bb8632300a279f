import Mathlib.Data.List.TakeWhile
import ZigReflect.Proofs.Flattening
import ZigReflect.Proofs.Scan
import ZigReflect.Proofs.Splitting

/-!
# Doc comments say what the source says

The comment of a declaration is trimmed as a whole and cut into lines, and the lines are trimmed
at their ends. A trimmed text does not end in a line feed, so its lines are the pieces between its
line feeds, and the carriage return that a line may lose before a feed is a blank that it would
lose anyway (`Text.map_dropBlankEnd_lineChars`).

So every piece becomes one line behind a mark, and nothing else is written: `IsCommentOf` says so
of the text alone, without the functions that write it, and `doc_comment_faithful` says that it
holds of what is written of any declaration whose comment is not blank.
-/

namespace ZigReflect

namespace Text

/-- What is left of a text without the blanks at its end. -/
structure TrimsEnd (cs core : List Char) : Prop where
  parts : ∃ back, cs = core ++ back ∧ ∀ c ∈ back, isBlank c = true
  last : ∀ c ∈ core.getLast?, isBlank c = false

/-- What is left of a text without the blanks at both ends. -/
structure Trims (cs core : List Char) : Prop where
  parts : ∃ front back, cs = front ++ (core ++ back) ∧ ∀ c ∈ front ++ back, isBlank c = true
  first : ∀ c ∈ core.head?, isBlank c = false
  last : ∀ c ∈ core.getLast?, isBlank c = false

theorem isBlank_head?_dropWhile (cs : List Char) :
    ∀ c ∈ (cs.dropWhile isBlank).head?, isBlank c = false := by
  intro c hc
  have hhead := List.head?_dropWhile_not isBlank cs
  rw [Option.mem_def.1 hc] at hhead
  simpa using hhead

theorem trimsEnd_dropBlankEnd (cs : List Char) : TrimsEnd cs (dropBlankEnd cs) := by
  refine ⟨⟨(cs.reverse.takeWhile isBlank).reverse, ?_, fun c hc => ?_⟩, ?_⟩
  · rw [dropBlankEnd, ← List.reverse_append, List.takeWhile_append_dropWhile, List.reverse_reverse]
  · exact List.mem_takeWhile_imp (List.mem_reverse.1 hc)
  · rw [dropBlankEnd, List.getLast?_reverse]
    exact isBlank_head?_dropWhile cs.reverse

theorem trims_dropBlankEnds (cs : List Char) : Trims cs (dropBlankEnds cs) := by
  obtain ⟨⟨back, hback, hblank⟩, hlast⟩ := trimsEnd_dropBlankEnd (cs.dropWhile isBlank)
  refine ⟨⟨cs.takeWhile isBlank, back, ?_, fun c hc => ?_⟩, fun c hc => ?_, hlast⟩
  · rw [dropBlankEnds, ← hback, List.takeWhile_append_dropWhile]
  · rcases List.mem_append.1 hc with hc | hc
    · exact List.mem_takeWhile_imp hc
    · exact hblank c hc
  · refine isBlank_head?_dropWhile cs c ?_
    rw [dropBlankEnds] at hc
    rw [hback, List.head?_append, Option.mem_def.1 hc]
    rfl

theorem dropBlankEnds_eq_nil_iff (cs : List Char) :
    dropBlankEnds cs = [] ↔ ∀ c ∈ cs, isBlank c = true := by
  obtain ⟨⟨front, back, hparts, hblank⟩, hfirst, -⟩ := trims_dropBlankEnds cs
  constructor
  · intro hnil c hc
    rw [hnil] at hparts
    exact hblank c (by rwa [hparts] at hc)
  · intro hall
    cases hcore : dropBlankEnds cs with
    | nil => rfl
    | cons c core =>
      rw [hcore] at hparts hfirst
      have hc : c ∈ cs := by simp [hparts]
      exact absurd (hall c hc) (by simp [hfirst c rfl])

/-! ## Lines of a trimmed text -/

theorem splitFeeds_eq : ∀ cs : List Char, splitFeeds cs = splitAt '\n' cs
  | [] => rfl
  | c :: rest => by
    rw [splitAt, ← splitFeeds_eq rest]
    by_cases hc : c = '\n'
    · rw [if_pos hc, hc]
      exact splitFeeds.eq_2 rest
    · rw [if_neg hc]
      exact splitFeeds.eq_3 c rest hc

/-- A blank at the end is dropped with the others. -/
theorem dropBlankEnd_concat {c : Char} (h : isBlank c = true) (cs : List Char) :
    dropBlankEnd (cs ++ [c]) = dropBlankEnd cs := by
  simp [dropBlankEnd, h]

theorem dropBlankEnd_dropReturn (cs : List Char) :
    dropBlankEnd (dropReturn cs) = dropBlankEnd cs := by
  unfold dropReturn
  split
  · next hlast =>
    obtain ⟨front, rfl⟩ := List.getLast?_eq_some_iff.1 hlast
    rw [List.dropLast_concat, dropBlankEnd_concat (by decide)]
  · rfl

/-- A text that does not end in the character has a last piece that ends as the text does. -/
theorem splitAt_concat {sep c : Char} (hc : c ≠ sep) : ∀ front : List Char,
    ∃ before piece, splitAt sep (front ++ [c]) = before ++ [piece ++ [c]]
  | [] => ⟨[], [], by simp [splitAt, hc]⟩
  | d :: front => by
    obtain ⟨before, piece, hpieces⟩ := splitAt_concat hc front
    rw [List.cons_append, splitAt, hpieces]
    by_cases hd : d = sep
    · exact ⟨[] :: before, piece, by rw [if_pos hd, List.cons_append]⟩
    · rw [if_neg hd]
      cases before with
      | nil => exact ⟨[], d :: piece, rfl⟩
      | cons first before => exact ⟨(d :: first) :: before, piece, rfl⟩

/-- The lines of a text that does not end in a blank are the pieces between its line feeds, but for
blanks at their ends. -/
theorem map_dropBlankEnd_lineChars {cs : List Char} {c : Char} (hlast : cs.getLast? = some c)
    (hc : isBlank c = false) :
    (lineChars cs).map dropBlankEnd = (splitAt '\n' cs).map dropBlankEnd := by
  have hfeed : c ≠ '\n' := by
    rintro rfl
    exact absurd hc (by decide)
  unfold lineChars
  rw [splitFeeds_eq]
  split
  · next hnil => exact (splitAt_ne_nil _ _ (List.reverse_eq_nil_iff.1 hnil)).elim
  next last before heq =>
  have hpieces : splitAt '\n' cs = before.reverse ++ [last] := by
    rw [← List.reverse_reverse (splitAt '\n' cs), heq, List.reverse_cons]
  have hne : last ≠ [] := by
    obtain ⟨front, rfl⟩ := List.getLast?_eq_some_iff.1 hlast
    obtain ⟨before', piece, hpieces'⟩ := splitAt_concat hfeed front
    have hend : last = piece ++ [c] := by
      simpa using (List.append_inj' (hpieces.symm.trans hpieces') rfl).2
    simp [hend]
  rw [hpieces, if_neg (by simpa using hne)]
  simp [dropBlankEnd_dropReturn]

end Text

namespace Lowering

open Text Emission

/-! ## Lines behind marks -/

/-- A line of a comment behind its mark; the mark alone for an empty line. -/
def markedLine (core : List Char) : List Char :=
  "///".toList ++ if core.isEmpty then [] else ' ' :: core

/-- A line of a comment without its mark. -/
def unmarked : List Char → List Char
  | '/' :: '/' :: '/' :: ' ' :: core => core
  | '/' :: '/' :: '/' :: core => core
  | line => line

theorem unmarked_markedLine (core : List Char) : unmarked (markedLine core) = core := by
  unfold markedLine
  cases core <;> rfl

theorem toList_docLine (line : String) :
    (docLine line).toList = markedLine (dropBlankEnd line.toList) ++ ['\n'] := by
  unfold docLine markedLine
  by_cases h : dropBlankEnd line.toList = []
  · simp [trimEnd, h]
  · simp [trimEnd, h, String.ofList_eq_empty_iff]

theorem toList_docText (blurb : String) :
    (docText blurb).toList =
      ((lineChars blurb.toList).map dropBlankEnd).flatMap
        fun core => markedLine core ++ ['\n'] := by
  rw [docText, String.toList_join, List.flatMap_map, List.flatMap_map, Text.lines, List.flatMap_map]
  simp only [toList_docLine, String.toList_ofList]

/-- A comment that says what a source says: the trimmed source, piece by piece between its line
feeds, each piece without the blanks at its end on a line of its own behind a mark. -/
def IsCommentOf (source text : List Char) : Prop :=
  ∃ blurb pieces lines, Trims source blurb ∧
    blurb = ['\n'].intercalate pieces ∧ (∀ piece ∈ pieces, '\n' ∉ piece) ∧
    text = lines.flatMap (· ++ ['\n']) ∧
    (∀ line ∈ lines, '\n' ∉ line ∧ "///".toList <+: line) ∧
    List.Forall₂ (fun piece line => TrimsEnd piece (unmarked line)) pieces lines

/-- What is written of a text that is not blank is a comment that says it. -/
theorem isCommentOf_docText {source : String} (h : dropBlankEnds source.toList ≠ []) :
    IsCommentOf source.toList (docText (trim source)).toList := by
  have htrims := trims_dropBlankEnds source.toList
  have hlast := List.getLast?_eq_some_getLast h
  have hblurb : (trim source).toList = dropBlankEnds source.toList := String.toList_ofList
  rw [toList_docText, hblurb]
  generalize dropBlankEnds source.toList = blurb at *
  refine ⟨blurb, splitAt '\n' blurb, (splitAt '\n' blurb).map fun p => markedLine (dropBlankEnd p),
    htrims, (intercalate_splitAt '\n' blurb).symm, fun _ => not_mem_of_mem_splitAt, ?_, ?_, ?_⟩
  · rw [map_dropBlankEnd_lineChars hlast (htrims.last _ hlast), List.flatMap_map, List.flatMap_map]
  · simp only [List.forall_mem_map]
    refine fun p hp => ⟨?_, List.prefix_append ..⟩
    have hpiece : '\n' ∉ dropBlankEnd p := fun hc =>
      not_mem_of_mem_splitAt hp (dropBlankEnd_subset p hc)
    unfold markedLine
    split <;> simp [hpiece]
  · rw [List.forall₂_map_right_iff, List.forall₂_same]
    intro p _
    rw [unmarked_markedLine]
    exact trimsEnd_dropBlankEnd p

/-- A comment that is empty says nothing but blanks. -/
theorem IsCommentOf.isBlank_of_nil {source : List Char} (h : IsCommentOf source []) :
    ∀ c ∈ source, isBlank c = true := by
  obtain ⟨blurb, pieces, lines, ⟨⟨front, back, rfl, hblank⟩, -, -⟩, rfl, -, hlines, -, hpieces⟩ := h
  have hnil : lines = [] := List.eq_nil_iff_forall_not_mem.2 fun line hline =>
    absurd (List.flatMap_eq_nil_iff.1 hlines.symm line hline) (by simp)
  obtain rfl : pieces = [] := by
    cases hpieces with
    | nil => rfl
    | cons _ _ => cases hnil
  simpa using hblank

end Lowering

open Lowering Emission Text

/-- The whole text of the comment of a declaration, empty if there is none. -/
def Declaration.commentText (d : Declaration) : String :=
  (d.comment.map fun c => c.shortText.getD (String.join c.summary)).getD ""

namespace Lowering

/-- A comment is trimmed before it is written, and not written if nothing is left. -/
theorem comment_eq (d : Declaration) :
    comment d = if dropBlankEnds d.commentText.toList = [] then "" else
      docText (trim d.commentText) := by
  unfold comment Declaration.doc Declaration.commentText
  cases d.comment with
  | none => simp [dropBlankEnds, dropBlankEnd]
  | some c =>
    simp only [Option.bind_some, Option.map_some, Option.getD_some, Comment.blurb]
    generalize c.shortText.getD (String.join c.summary) = source
    have hempty : (trim source).isEmpty = true ↔ dropBlankEnds source.toList = [] := by
      rw [String.isEmpty_iff, trim, String.ofList_eq_empty_iff]
    by_cases h : dropBlankEnds source.toList = []
    · rw [if_pos (hempty.2 h), if_pos h, Option.map_none, Option.getD_none]
    · rw [if_neg (mt hempty.1 h), if_neg h, Option.map_some, Option.getD_some]

/-- What is written in front of a declaration is empty if its comment is blank or absent, and a
comment that says the same otherwise. -/
theorem doc_comment_faithful (d : Declaration) (e : Emitter) :
    ∃ text : String, (doc d).on e = (.ok (), { e with text := e.text ++ text }) ∧
      (text = "" ↔ ∀ c ∈ d.commentText.toList, isBlank c = true) ∧
      (text ≠ "" → IsCommentOf d.commentText.toList text.toList) := by
  refine ⟨comment d, on_doc d e, ?_⟩
  rw [comment_eq, ← dropBlankEnds_eq_nil_iff]
  split
  · next hblank => simp [hblank]
  · next hblank =>
    have hcomment := isCommentOf_docText hblank
    refine ⟨⟨fun hempty => ?_, fun h => (hblank h).elim⟩, fun _ => hcomment⟩
    rw [hempty] at hcomment
    exact (dropBlankEnds_eq_nil_iff _).2 hcomment.isBlank_of_nil

end Lowering

end ZigReflect
