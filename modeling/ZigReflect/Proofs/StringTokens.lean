import ZigReflect.Proofs.Scan
import ZigReflect.Proofs.StringValues

/-!
# Where string tokens end

A lexer finds the end of a string token without reading what the string holds (`stringToken?`): a
backslash takes the next character with it, a bare quote ends the token, and a raw line feed is an
error. In what is written of a text inside quotes every quote has a backslash in front, every
backslash has its character behind it, and there is no line feed. So the lexer stops at the end of
a string literal, whatever follows, and at the end of a quoted name
(`escapes_injective_and_delimited`). A name that is not quoted is a bare word.
-/

namespace ZigReflect.Zig

open ZigReflect.Text

/-- A string token from behind its opening quote, with what follows it. -/
def insideToken? : List Char → Option (List Char × List Char)
  | [] => none
  | '"' :: rest => some (['"'], rest)
  | '\\' :: c :: rest =>
    if c = '\n' then none
    else (insideToken? rest).map fun x => ('\\' :: c :: x.1, x.2)
  | c :: rest =>
    if c = '\n' then none
    else (insideToken? rest).map fun x => (c :: x.1, x.2)

/-- The string token at the front, with what follows it. -/
def stringToken? : List Char → Option (List Char × List Char)
  | '"' :: rest => (insideToken? rest).map fun x => ('"' :: x.1, x.2)
  | _ => none

/-- The quoted name at the front, with what follows it. -/
def quotedNameToken? : List Char → Option (List Char × List Char)
  | '@' :: rest => (stringToken? rest).map fun x => ('@' :: x.1, x.2)
  | _ => none

example : stringToken? "\"a\\\"b\" ++ c".toList = some ("\"a\\\"b\"".toList, " ++ c".toList) := by
  decide

example : stringToken? "\"a\\\"".toList = none := by decide

theorem insideToken?_of_plain {c : Char} (hquote : c ≠ '"') (hescape : c ≠ '\\') (hfeed : c ≠ '\n')
    (rest : List Char) :
    insideToken? (c :: rest) = (insideToken? rest).map fun x => (c :: x.1, x.2) := by
  rw [insideToken?]
  · rw [if_neg hfeed]
  · exact hquote
  · exact fun _ _ hc => (hescape hc).elim

theorem insideToken?_of_escape {c : Char} (hfeed : c ≠ '\n') (rest : List Char) :
    insideToken? ('\\' :: c :: rest) =
      (insideToken? rest).map fun x => ('\\' :: c :: x.1, x.2) := by
  rw [insideToken?, if_neg hfeed]

/-- What is written of a character inside quotes is passed over. The digits behind an `x` are plain
characters. -/
theorem insideToken?_quoteChar (c : Char) (rest : List Char) :
    insideToken? (quoteChar c ++ rest) =
      (insideToken? rest).map fun x => (quoteChar c ++ x.1, x.2) := by
  unfold quoteChar
  split_ifs with hquote hescape hfeed hreturn htab hcontrol
  · exact insideToken?_of_escape (by decide) rest
  · exact insideToken?_of_escape (by decide) rest
  · exact insideToken?_of_escape (by decide) rest
  · exact insideToken?_of_escape (by decide) rest
  · exact insideToken?_of_escape (by decide) rest
  · have hsmall : c.toNat < 256 := by
      simp only [isControl, Bool.or_eq_true, Bool.and_eq_true, decide_eq_true_eq] at hcontrol
      omega
    obtain ⟨hhigh, hhigh', hhigh''⟩ := hexChar_inString (c.toNat / 16) (by omega)
    obtain ⟨hlow, hlow', hlow''⟩ := hexChar_inString (c.toNat % 16) (by omega)
    simp only [List.cons_append, List.nil_append]
    rw [insideToken?_of_escape (by decide), insideToken?_of_plain hhigh hhigh' hhigh'',
      insideToken?_of_plain hlow hlow' hlow'']
    simp only [Option.map_map, Function.comp_def]
  · exact insideToken?_of_plain hquote hescape hfeed rest

/-- What is written of a text inside quotes is passed over up to the closing quote. -/
theorem insideToken?_quoteBody (rest : List Char) : ∀ cs : List Char,
    insideToken? (quoteBody cs ++ '"' :: rest) = some (quoteBody cs ++ ['"'], rest)
  | [] => rfl
  | c :: cs => by
    rw [quoteBody_cons, List.append_assoc, insideToken?_quoteChar, insideToken?_quoteBody rest cs,
      Option.map_some, List.append_assoc]

/-- The lexer stops at the end of a string literal, whatever follows. -/
theorem stringToken?_stringLiteral (text : String) (rest : List Char) :
    stringToken? ((stringLiteral text).toList ++ rest) =
      some ((stringLiteral text).toList, rest) := by
  rw [toList_stringLiteral, List.cons_append, List.append_assoc, List.singleton_append,
    stringToken?, insideToken?_quoteBody, Option.map_some]

/-- The lexer stops at the end of a quoted name, whatever follows. -/
theorem quotedNameToken?_quoted (name : String) (rest : List Char) :
    quotedNameToken? (("@" ++ stringLiteral name).toList ++ rest) =
      some (("@" ++ stringLiteral name).toList, rest) := by
  have hchars : ("@" ++ stringLiteral name).toList = '@' :: (stringLiteral name).toList := by
    simp
  rw [hchars, List.cons_append, quotedNameToken?, stringToken?_stringLiteral, Option.map_some]

theorem isDigit_head_of_isBareWord {word : List Char} (h : isBareWord word = true) {c : Char}
    (hc : word.head? = some c) : isDigit c = false := by
  cases word with
  | nil => cases hc
  | cons first rest =>
    obtain rfl : first = c := Option.some.inj hc
    rw [isBareWord, Bool.and_eq_true] at h
    simpa using h.1

/-- Different names have different identifiers, and different texts have different string
literals. The lexer of string tokens stops at the end of a string literal, whatever follows. An
identifier is the quoted form of its name, at the end of which the lexer stops as well, or it is
the name itself: ASCII letters, digits and underscores, and no digit at the start. -/
theorem escapes_injective_and_delimited :
    (∀ a b : String, identifier a = identifier b → a = b) ∧
      (∀ a b : String, stringLiteral a = stringLiteral b → a = b) ∧
      (∀ (text : String) (rest : List Char),
        stringToken? ((stringLiteral text).toList ++ rest) =
          some ((stringLiteral text).toList, rest)) ∧
      ∀ name : String,
        (identifier name = "@" ++ stringLiteral name ∧
          ∀ rest : List Char, quotedNameToken? ((identifier name).toList ++ rest) =
            some ((identifier name).toList, rest)) ∨
        (identifier name = name ∧ name ≠ "" ∧ (∀ c ∈ name.toList, isWordAscii c = true) ∧
          ∀ c, name.toList.head? = some c → isDigit c = false) := by
  refine ⟨fun _ _ h => identifier_injective h, fun _ _ h => stringLiteral_injective h,
    stringToken?_stringLiteral, fun name => ?_⟩
  cases hquotes : needsQuotes name with
  | true =>
    have hquoted : identifier name = "@" ++ stringLiteral name := by
      rw [identifier, if_pos hquotes]
    refine .inl ⟨hquoted, fun rest => ?_⟩
    rw [hquoted]
    exact quotedNameToken?_quoted name rest
  | false =>
    have hbare : isBareWord name.toList = true :=
      isBareWord_of_not_needsQuotes (by simp [hquotes])
    refine .inr ⟨by simp [identifier, hquotes], ?_, fun c hc => isWordAscii_of_isBareWord hbare hc,
      fun c hc => isDigit_head_of_isBareWord hbare hc⟩
    rintro rfl
    cases hbare

end ZigReflect.Zig
