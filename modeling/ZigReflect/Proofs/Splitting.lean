import ZigReflect.Text.Find

/-!
# Splitting and joining

A text that is split at a character and joined by it again is the same text
(`intercalate_splitAt`), and so are pieces that do not hold the character when they are joined
and split again (`splitAt_intercalate`).
-/

namespace ZigReflect.Text

theorem splitAt_ne_nil (sep : Char) (cs : List Char) : splitAt sep cs ≠ [] := by
  cases cs with
  | nil => simp [splitAt]
  | cons c rest =>
    rw [splitAt]
    split
    · simp
    · split <;> simp

theorem not_mem_of_mem_splitAt {sep : Char} : ∀ {cs piece : List Char},
    piece ∈ splitAt sep cs → sep ∉ piece
  | [], piece, h => by simp_all [splitAt]
  | c :: rest, piece, h => by
    rw [splitAt] at h
    split at h
    · rcases List.mem_cons.1 h with rfl | h
      · simp
      · exact not_mem_of_mem_splitAt h
    next hc =>
    split at h
    · next hnil => exact (splitAt_ne_nil sep rest hnil).elim
    · next first pieces heq =>
      have ih := fun {piece} => @not_mem_of_mem_splitAt sep rest piece
      rw [heq] at ih
      rcases List.mem_cons.1 h with rfl | h
      · simp [Ne.symm hc, ih (List.mem_cons_self ..)]
      · exact ih (List.mem_cons_of_mem _ h)

theorem splitAt_of_not_mem {sep : Char} : ∀ {piece : List Char}, sep ∉ piece →
    splitAt sep piece = [piece]
  | [], _ => rfl
  | c :: rest, h => by
    obtain ⟨hc, hrest⟩ := not_or.1 (mt List.mem_cons.2 h)
    rw [splitAt, if_neg (Ne.symm hc), splitAt_of_not_mem hrest]

theorem splitAt_append_cons {sep : Char} (cs : List Char) : ∀ {piece : List Char}, sep ∉ piece →
    splitAt sep (piece ++ sep :: cs) = piece :: splitAt sep cs
  | [], _ => by simp [splitAt]
  | c :: rest, h => by
    obtain ⟨hc, hrest⟩ := not_or.1 (mt List.mem_cons.2 h)
    rw [List.cons_append, splitAt, if_neg (Ne.symm hc), splitAt_append_cons cs hrest]

/-- Characters that do not separate go to the last piece. -/
theorem splitAt_append_of_not_mem {sep : Char} {more : List Char} (h : sep ∉ more) :
    ∀ cs : List Char, ∃ before last, splitAt sep (cs ++ more) = before ++ [last ++ more]
  | [] => ⟨[], [], by simpa using splitAt_of_not_mem h⟩
  | c :: rest => by
    obtain ⟨before, last, heq⟩ := splitAt_append_of_not_mem h rest
    rw [List.cons_append, splitAt, heq]
    split
    · exact ⟨[] :: before, last, rfl⟩
    · cases before with
      | nil => exact ⟨[], c :: last, rfl⟩
      | cons piece before => exact ⟨(c :: piece) :: before, last, rfl⟩

/-- Pieces that are joined are split again. -/
theorem splitAt_intercalate {sep : Char} : ∀ {pieces : List (List Char)}, pieces ≠ [] →
    (∀ piece ∈ pieces, sep ∉ piece) → splitAt sep ([sep].intercalate pieces) = pieces
  | [], h, _ => (h rfl).elim
  | [piece], _, hsep => by simpa using splitAt_of_not_mem (hsep piece (by simp))
  | piece :: next :: pieces, _, hsep => by
    rw [List.intercalate_cons_cons, List.append_assoc, List.singleton_append,
      splitAt_append_cons _ (hsep piece (by simp)),
      splitAt_intercalate (by simp) fun p hp => hsep p (List.mem_cons_of_mem _ hp)]

/-- A character that does not separate stands in a piece. -/
theorem mem_splitAt {sep c : Char} : ∀ {cs : List Char}, c ∈ cs → c ≠ sep →
    ∃ piece ∈ splitAt sep cs, c ∈ piece
  | d :: cs, hc, hsep => by
    unfold splitAt
    rcases List.mem_cons.1 hc with rfl | hc
    · rw [if_neg hsep]
      split
      · exact ⟨[c], by simp, by simp⟩
      · next piece pieces _ => exact ⟨c :: piece, by simp, by simp⟩
    · obtain ⟨piece, hp, hc⟩ := mem_splitAt hc hsep
      split
      · exact ⟨piece, List.mem_cons_of_mem _ hp, hc⟩
      · split
        · next heq => simp [heq] at hp
        · next first pieces heq =>
          rw [heq] at hp
          rcases List.mem_cons.1 hp with rfl | hp
          · exact ⟨d :: piece, by simp, List.mem_cons_of_mem d hc⟩
          · exact ⟨piece, List.mem_cons_of_mem _ hp, hc⟩

/-- The pieces of a text are joined again to the text. -/
theorem intercalate_splitAt (sep : Char) : ∀ cs : List Char,
    [sep].intercalate (splitAt sep cs) = cs
  | [] => by simp [splitAt]
  | c :: rest => by
    have ih := intercalate_splitAt sep rest
    rw [splitAt]
    split
    · next hc =>
      obtain ⟨piece, pieces, heq⟩ := List.exists_cons_of_ne_nil (splitAt_ne_nil sep rest)
      rw [heq, List.intercalate_cons_cons, ← heq, ih, hc]
      rfl
    · split
      · next hnil => exact (splitAt_ne_nil sep rest hnil).elim
      · next piece pieces heq =>
        rw [heq] at ih
        cases pieces with
        | nil => simpa using ih
        | cons next pieces =>
          rw [List.intercalate_cons_cons] at ih ⊢
          rw [← ih]
          simp

end ZigReflect.Text
