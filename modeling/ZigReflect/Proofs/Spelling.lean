import ZigReflect.Zig.Name

/-!
# Different names are spelled differently

What is written of a character inside quotes can be read back whatever follows it
(`unquoteChar_quoteChar`), so no two texts have the same quoted form. A bare name
has no `@` in front, so it is not the quoted form of any other name, and different
names have different identifiers (`identifier_injective`).
-/

namespace ZigReflect.Zig

open ZigReflect.Text

/-- Reads the first character of a text inside quotes, and gives the rest. -/
def unquoteChar : List Char → Option (Char × List Char)
  | '\\' :: 'x' :: hi :: lo :: rest => (hexValue? [hi, lo]).map fun n => (Char.ofNat n, rest)
  | '\\' :: 'n' :: rest => some ('\n', rest)
  | '\\' :: 'r' :: rest => some ('\r', rest)
  | '\\' :: 't' :: rest => some ('\t', rest)
  | '\\' :: c :: rest => some (c, rest)
  | c :: rest => some (c, rest)
  | [] => none

theorem hexValue?_hexChar : ∀ hi < 16, ∀ lo < 16,
    hexValue? [hexChar hi, hexChar lo] = some (16 * hi + lo) := by
  decide

/-- A control character is given by its two digits. -/
theorem hexValue?_of_isControl {c : Char} (h : isControl c = true) :
    hexValue? [hexChar (c.toNat / 16), hexChar (c.toNat % 16)] = some c.toNat := by
  simp only [isControl, Bool.or_eq_true, Bool.and_eq_true, decide_eq_true_eq] at h
  rw [hexValue?_hexChar _ (by omega) _ (by omega)]
  congr 1
  omega

/-- What is written of a character inside quotes is read back, whatever follows. -/
theorem unquoteChar_quoteChar (c : Char) (rest : List Char) :
    unquoteChar (quoteChar c ++ rest) = some (c, rest) := by
  unfold quoteChar
  split
  · next h => simp [h, unquoteChar]
  split
  · next h => simp [h, unquoteChar]
  split
  · next h => simp [h, unquoteChar]
  split
  · next h => simp [h, unquoteChar]
  split
  · next h => simp [h, unquoteChar]
  split
  · next hc => simp [unquoteChar, hexValue?_of_isControl hc, Char.ofNat_toNat]
  · next hbackslash _ _ _ _ => simp [unquoteChar, hbackslash]

theorem quoteBody_cons (c : Char) (cs : List Char) :
    quoteBody (c :: cs) = quoteChar c ++ quoteBody cs := rfl

theorem quoteBody_injective : Function.Injective quoteBody := by
  intro cs
  induction cs with
  | nil =>
    rintro (_ | ⟨d, ds⟩) h
    · rfl
    · have hread := unquoteChar_quoteChar d (quoteBody ds)
      rw [← quoteBody_cons, ← h] at hread
      cases hread
  | cons c cs ih =>
    have hread := unquoteChar_quoteChar c (quoteBody cs)
    rintro (_ | ⟨d, ds⟩) h
    · rw [← quoteBody_cons, h] at hread
      cases hread
    · rw [← quoteBody_cons, h, quoteBody_cons, unquoteChar_quoteChar] at hread
      obtain ⟨rfl, hrest⟩ := Prod.mk.inj (Option.some.inj hread)
      rw [ih hrest.symm]

theorem stringLiteral_injective : Function.Injective stringLiteral := by
  intro a b h
  have hchars := congrArg String.toList h
  simp only [stringLiteral, String.toList_append, String.toList_ofList] at hchars
  have hbody := List.append_cancel_left (List.append_cancel_right hchars)
  exact String.toList_inj.1 (quoteBody_injective hbody)

theorem isBareWord_of_not_needsQuotes {name : String} (h : ¬needsQuotes name = true) :
    isBareWord name.toList = true := by
  simp only [needsQuotes, Bool.or_eq_true, not_or, Bool.not_eq_true'] at h
  simpa using h.2

theorem isWordAscii_of_isBareWord {word : List Char} (h : isBareWord word = true) {c : Char}
    (hc : c ∈ word) : isWordAscii c = true := by
  cases word with
  | nil => cases h
  | cons first rest =>
    rw [isBareWord, Bool.and_eq_true, List.all_eq_true] at h
    exact h.2 c hc

/-- A name that is written bare does not look like one that is quoted. -/
theorem quoted_ne_of_bare {a b : String} (hb : needsQuotes b = false) :
    "@" ++ stringLiteral a ≠ b := by
  rintro rfl
  simp [needsQuotes, isBareWord, stringLiteral, isDigit, isWordAscii, isLetter] at hb

theorem identifier_injective : Function.Injective identifier := by
  intro a b h
  unfold identifier at h
  split at h
  · split at h
    · exact stringLiteral_injective (String.append_right_inj _ |>.1 h)
    · next hb => exact (quoted_ne_of_bare (Bool.eq_false_iff.2 hb) h).elim
  · next ha =>
    split at h
    · exact (quoted_ne_of_bare (Bool.eq_false_iff.2 ha) h.symm).elim
    · exact h

end ZigReflect.Zig
