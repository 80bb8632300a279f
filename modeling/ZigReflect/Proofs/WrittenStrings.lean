import Mathlib.Data.List.TakeWhile
import Mathlib.Tactic.Common
import ZigReflect.Toml.Scalar
import ZigReflect.Toml.Write

/-!
# Strings that are written are read back

A string is written in one of four forms, and in each of them it is read back whatever follows it
but a quote (`string?_stringChars`). With one quote on each side the string ends at the first
quote that is neither escaped nor part of the string. With three of them it ends at the first run
of three, and up to two quotes in front of the last three belong to the string: there are never
three in a row inside of it (`closing_append`), because the writer picks another form or escapes
the third.
-/

namespace ZigReflect.Toml

open ZigReflect.Text

/-! ## Characters -/

theorem isRaw_iff {c : Char} : isRaw c = true ↔ c = '\t' ∨ isControl c = false := by
  unfold isRaw isControl
  simp only [Bool.or_eq_true, Bool.and_eq_true, beq_iff_eq, decide_eq_true_eq,
    Bool.or_eq_false_iff, decide_eq_false_iff_not, beq_eq_false_iff_ne]
  refine or_congr_right (and_congr_left' ?_)
  omega

theorem isLined_iff {cs : List Char} :
    isLined cs = true ↔ ∀ c ∈ cs, c = '\n' ∨ isRaw c = true := by
  simp only [isLined, Bool.not_eq_true', List.any_eq_false, Bool.and_eq_true, bne_iff_ne,
    isRaw_iff]
  refine forall₂_congr fun c _ => ?_
  cases isControl c <;> simp [or_comm, ← or_iff_not_imp_left]

theorem isPlain_iff {cs : List Char} : isPlain cs = true ↔ ∀ c ∈ cs, isRaw c = true := by
  simp only [isPlain, Bool.and_eq_true, isLined_iff, Bool.not_eq_true', List.contains_eq_mem,
    decide_eq_false_iff_not]
  refine ⟨fun ⟨hlined, hfeed⟩ c hc => ?_, fun h => ⟨fun c hc => .inr (h c hc), fun hfeed => ?_⟩⟩
  · exact (hlined c hc).resolve_left fun heq => hfeed (heq ▸ hc)
  · exact absurd (h '\n' hfeed) (by decide)

theorem hexValue?_upperHex : ∀ hi < 16, ∀ lo < 16,
    hexValue? ['0', '0', upperHex hi, upperHex lo] = some (16 * hi + lo) := by
  decide

/-- A control character is given by the digits of its code point. -/
theorem codePoint?_of_isControl {c : Char} (h : isControl c = true) (rest : List Char) :
    codePoint? 4 ('0' :: '0' :: upperHex (c.toNat / 16) :: upperHex (c.toNat % 16) :: rest) =
      some (c, rest) := by
  have hsmall : c.toNat < 256 := by
    simp only [isControl, Bool.or_eq_true, decide_eq_true_eq, beq_iff_eq] at h
    omega
  have hvalue : hexValue? ['0', '0', upperHex (c.toNat / 16), upperHex (c.toNat % 16)] =
      some c.toNat := by
    rw [hexValue?_upperHex _ (by omega) _ (by omega)]
    congr 1
    omega
  have hvalid : c.toNat.isValidChar := .inl (by omega)
  simp [codePoint?, hvalue, hvalid]

/-- An escape is a backslash with what is read back as the character. It does not continue the
line. -/
theorem escape?_of_escapeOf? {c : Char} {e : List Char} (h : escapeOf? c = some e)
    (rest : List Char) :
    ∃ code, e = '\\' :: code ∧ escape? (code ++ rest) = some (c, rest) ∧
      continues (code ++ rest) = false := by
  unfold escapeOf? at h
  split_ifs at h with hb ht hn hf hr hs hcontrol <;> cases h
  · exact ⟨['b'], rfl, by rw [hb]; rfl, rfl⟩
  · exact ⟨['t'], rfl, by rw [ht]; rfl, rfl⟩
  · exact ⟨['n'], rfl, by rw [hn]; rfl, rfl⟩
  · exact ⟨['f'], rfl, by rw [hf]; rfl, rfl⟩
  · exact ⟨['r'], rfl, by rw [hr]; rfl, rfl⟩
  · exact ⟨['\\'], rfl, by rw [hs]; rfl, rfl⟩
  · exact ⟨_, rfl, codePoint?_of_isControl hcontrol rest, rfl⟩

/-- A character that is not escaped can stand raw. -/
theorem isRaw_of_escapeOf?_eq_none {c : Char} (h : escapeOf? c = none) :
    isRaw c = true ∧ c ≠ '\\' ∧ c ≠ '\n' ∧ c ≠ '\r' := by
  unfold escapeOf? at h
  split_ifs at h with _ _ hn _ hr hs hcontrol
  exact ⟨isRaw_iff.2 (.inr (Bool.eq_false_iff.2 hcontrol)), hs, hn, hr⟩

/-! ## One quote on each side -/

theorem basic_of_raw {c : Char} (hraw : isRaw c = true) (hquote : c ≠ '"') (hescape : c ≠ '\\')
    (fuel : Nat) (seen rest : List Char) :
    basic (fuel + 1) seen (c :: rest) = basic fuel (c :: seen) rest := by
  rw [basic]
  · rw [if_pos hraw]
  · exact fun hc => hquote hc
  · exact fun hc => hescape hc

theorem basic_of_escape (code : List Char) {rest : List Char} {c : Char}
    (h : escape? (code ++ rest) = some (c, rest)) (fuel : Nat) (seen : List Char) :
    basic (fuel + 1) seen ('\\' :: (code ++ rest)) = basic fuel (c :: seen) rest := by
  rw [basic, h]

/-- A string in double quotes is read up to the closing one, with a step for each character. -/
theorem basic_escaped (rest : List Char) : ∀ (cs : List Char) (quotes fuel : Nat)
    (seen : List Char), cs.length < fuel →
      basic fuel seen (escaped false quotes cs ++ '"' :: rest) = some (seen.reverse ++ cs, rest)
  | [], _, fuel + 1, seen, _ => by simp [escaped, basic]
  | c :: cs, quotes, fuel + 1, seen, h => by
    have ih := fun quotes =>
      basic_escaped rest cs quotes fuel (c :: seen) (Nat.lt_of_succ_lt_succ h)
    rw [List.reverse_cons, List.append_assoc] at ih
    simp only [escaped, Bool.false_and, Bool.false_eq_true, if_false]
    split_ifs with hquote
    · rw [hquote] at ih ⊢
      exact (basic_of_escape ['"'] rfl fuel seen).trans (ih 0)
    · split
      · next e he =>
        obtain ⟨code, rfl, hread, -⟩ :=
          escape?_of_escapeOf? he (escaped false 0 cs ++ '"' :: rest)
        rw [List.append_assoc, List.cons_append, basic_of_escape code hread]
        exact ih 0
      · next he =>
        obtain ⟨hraw, hescape, -⟩ := isRaw_of_escapeOf?_eq_none he
        rw [List.cons_append, basic_of_raw hraw hquote hescape]
        exact ih 0

theorem literal_append {cs : List Char} (hraw : ∀ c ∈ cs, isRaw c = true) (hquote : '\'' ∉ cs)
    (rest : List Char) : literal (cs ++ '\'' :: rest) = some (cs, rest) := by
  have hall : ∀ c ∈ cs, (isRaw c && c != '\'') = true := fun c hc => by
    simpa [hraw c hc] using fun heq : c = '\'' => hquote (heq ▸ hc)
  rw [literal, List.takeWhile_append_of_pos hall, List.dropWhile_append_of_pos hall]
  simp

/-! ## Three quotes on each side -/

/-- What the closing quotes are read as behind a text that has two quotes at its front at most: the
string ends there if the text is nothing but quotes, which belong to the string. -/
theorem closing_append {q : Char} (body : List Char) {rest : List Char}
    (h : (body.takeWhile (· == q)).length ≤ 2) (hrest : rest.head? ≠ some q) :
    closing q (body ++ q :: q :: q :: rest) =
      if body.all (· == q) then some (body, rest) else none := by
  split_ifs with hall
  · rw [List.all_eq_true] at hall
    rw [List.takeWhile_eq_self_iff.2 hall] at h
    have hend : (q :: q :: q :: rest).takeWhile (· == q) = [q, q, q] := by
      cases rest with
      | nil => simp
      | cons c rest =>
        have hc : (c == q) = false := by simpa using hrest
        simp [hc]
    have hsame : List.replicate body.length q = body :=
      (List.eq_replicate_iff.2 ⟨rfl, fun c hc => by simpa using hall c hc⟩).symm
    have hextra : Nat.min (body.length + 3 - 3) 2 = body.length := by
      rw [Nat.add_sub_cancel]
      exact Nat.min_eq_left h
    rw [closing, List.takeWhile_append_of_pos hall, hend, List.length_append, if_neg (by simp)]
    dsimp only [List.length_cons, List.length_nil]
    rw [hextra, hsame, Nat.add_comm, ← List.drop_drop, List.drop_left]
    rfl
  · have hrun : (body ++ q :: q :: q :: rest).takeWhile (· == q) = body.takeWhile (· == q) := by
      rw [List.takeWhile_append, if_neg]
      intro hlength
      refine hall (List.all_eq_true.2 (List.takeWhile_eq_self_iff.1 ?_))
      exact (List.takeWhile_prefix _).eq_of_length hlength
    rw [closing, hrun, if_pos (by omega)]

theorem dropNewline?_eq_none {cs : List Char}
    (h : ∀ c, cs.head? = some c → c ≠ '\n' ∧ c ≠ '\r') : dropNewline? cs = none := by
  unfold dropNewline?
  split
  · exact ((h '\n' rfl).1 rfl).elim
  · exact ((h '\r' rfl).2 rfl).elim
  · rfl

/-- The line feed behind the opening quotes is dropped, and without one nothing is. -/
theorem dropFirstNewline_opening {cs text : List Char}
    (h : '\n' ∉ cs → ∀ c, text.head? = some c → c ≠ '\n' ∧ c ≠ '\r') :
    dropFirstNewline (opening cs ++ text) = text := by
  unfold opening dropFirstNewline
  split_ifs with hfeed
  · rfl
  · rw [List.nil_append, dropNewline?_eq_none (h (by simpa using hfeed))]
    rfl

/-! ### With escapes -/

theorem multiBasic_of_closing {body rest behind : List Char} {fuel : Nat} {seen : List Char}
    (h : closing '"' ('"' :: rest) = some (body, behind)) :
    multiBasic (fuel + 1) seen ('"' :: rest) = some (seen.reverse ++ body, behind) := by
  rw [multiBasic, h]

theorem multiBasic_of_quote {rest : List Char} (h : closing '"' ('"' :: rest) = none) (fuel : Nat)
    (seen : List Char) :
    multiBasic (fuel + 1) seen ('"' :: rest) = multiBasic fuel ('"' :: seen) rest := by
  rw [multiBasic, h]

theorem multiBasic_of_escape (code : List Char) {rest : List Char} {c : Char}
    (h : escape? (code ++ rest) = some (c, rest)) (hline : continues (code ++ rest) = false)
    (fuel : Nat) (seen : List Char) :
    multiBasic (fuel + 1) seen ('\\' :: (code ++ rest)) = multiBasic fuel (c :: seen) rest := by
  rw [multiBasic, hline, h]
  simp

theorem multiBasic_of_feed (fuel : Nat) (seen rest : List Char) :
    multiBasic (fuel + 1) seen ('\n' :: rest) = multiBasic fuel ('\n' :: seen) rest := by
  rw [multiBasic] <;> simp [dropNewline?]

theorem multiBasic_of_raw {c : Char} (hraw : isRaw c = true) (hquote : c ≠ '"')
    (hescape : c ≠ '\\') (hline : c ≠ '\n' ∧ c ≠ '\r') (fuel : Nat) (seen rest : List Char) :
    multiBasic (fuel + 1) seen (c :: rest) = multiBasic fuel (c :: seen) rest := by
  have hnone : dropNewline? (c :: rest) = none :=
    dropNewline?_eq_none fun d hd => Option.some.inj hd ▸ hline
  rw [multiBasic]
  · rw [hnone, if_pos hraw]
  · exact fun hc => hquote hc
  · exact fun hc => hescape hc

/-- Behind two quotes the next one is escaped. -/
theorem length_takeWhile_escaped : ∀ (cs : List Char), ∀ quotes ≤ 2,
    quotes + ((escaped true quotes cs).takeWhile (· == '"')).length ≤ 2
  | [], quotes, h => h
  | c :: cs, quotes, h => by
    rw [escaped]
    split_ifs with hquote hfew hfeed
    · simp only [Bool.true_and, decide_eq_true_eq] at hfew
      have ih := length_takeWhile_escaped cs (quotes + 1) hfew
      simp only [List.takeWhile_cons, beq_self_eq_true, if_true, List.length_cons]
      omega
    · simpa using h
    · simpa using h
    · split
      · next e he =>
        obtain ⟨code, rfl, -⟩ := escape?_of_escapeOf? he []
        simpa using h
      · simpa [hquote] using h

/-- A string of nothing but quotes that are not escaped is written as it is. -/
theorem escaped_eq_of_all : ∀ {cs : List Char} {quotes : Nat},
    (escaped true quotes cs).all (· == '"') = true → escaped true quotes cs = cs
  | [], _, _ => rfl
  | c :: cs, quotes, h => by
    rw [escaped] at h ⊢
    split_ifs at h ⊢ with hquote hfew hfeed
    · rw [List.all_cons, Bool.and_eq_true] at h
      rw [escaped_eq_of_all h.2, hquote]
    · simp at h
    · simp at h
    · split at h
      · next e he =>
        obtain ⟨code, rfl, -⟩ := escape?_of_escapeOf? he []
        simp at h
      · simp [hquote] at h

/-- A string in three double quotes is read up to the closing ones. A quote in it is one of the
last, or others than quotes follow it inside the string. -/
theorem multiBasic_escaped {rest : List Char} (hrest : rest.head? ≠ some '"') :
    ∀ (cs : List Char) (quotes fuel : Nat) (seen : List Char), quotes ≤ 2 → cs.length < fuel →
      multiBasic fuel seen (escaped true quotes cs ++ '"' :: '"' :: '"' :: rest) =
        some (seen.reverse ++ cs, rest)
  | [], _, fuel + 1, seen, _, _ =>
    multiBasic_of_closing (closing_append [] (by simp) hrest)
  | c :: cs, quotes, fuel + 1, seen, hquotes, h => by
    have ih := fun quotes hquotes =>
      multiBasic_escaped hrest cs quotes fuel (c :: seen) hquotes (Nat.lt_of_succ_lt_succ h)
    rw [List.reverse_cons, List.append_assoc, List.singleton_append] at ih
    have hrow := length_takeWhile_escaped (c :: cs) quotes hquotes
    have hall := @escaped_eq_of_all (c :: cs) quotes
    rw [escaped] at hrow hall ⊢
    split_ifs at hrow hall ⊢ with hquote hfew hfeed
    · have hclosing := closing_append _ (Nat.le_trans (Nat.le_add_left ..) hrow) hrest
      split_ifs at hclosing with hlast
      · rw [← hall hlast]
        exact multiBasic_of_closing hclosing
      · rw [hquote] at ih ⊢
        simp only [Bool.true_and, decide_eq_true_eq] at hfew
        exact (multiBasic_of_quote hclosing fuel seen).trans (ih _ hfew)
    · rw [hquote] at ih ⊢
      exact (multiBasic_of_escape ['"'] rfl rfl fuel seen).trans (ih 0 (by decide))
    · simp only [Bool.true_and, decide_eq_true_eq] at hfeed
      rw [hfeed] at ih ⊢
      exact (multiBasic_of_feed fuel seen _).trans (ih 0 (by decide))
    · split
      · next e he =>
        obtain ⟨code, rfl, hread, hline⟩ :=
          escape?_of_escapeOf? he (escaped true 0 cs ++ '"' :: '"' :: '"' :: rest)
        rw [List.append_assoc, List.cons_append, multiBasic_of_escape code hread hline]
        exact ih 0 (by decide)
      · next he =>
        obtain ⟨hraw, hescape, hline⟩ := isRaw_of_escapeOf?_eq_none he
        rw [List.cons_append, multiBasic_of_raw hraw hquote hescape hline]
        exact ih 0 (by decide)

/-! ### Without escapes -/

theorem hasTriple_of_cons {q c : Char} {cs : List Char} (h : hasTriple q (c :: cs) = false) :
    hasTriple q cs = false := by
  match cs with
  | [] => rfl
  | [_] => rfl
  | _ :: _ :: _ =>
    rw [hasTriple, Bool.or_eq_false_iff] at h
    exact h.2

theorem length_takeWhile_of_hasTriple {q : Char} {cs : List Char} (h : hasTriple q cs = false) :
    (cs.takeWhile (· == q)).length ≤ 2 := by
  match cs with
  | [] => simp
  | [a] => cases ha : a == q <;> simp [ha]
  | [a, b] => cases ha : a == q <;> cases hb : b == q <;> simp [ha, hb]
  | a :: b :: c :: cs =>
    rw [hasTriple, Bool.or_eq_false_iff] at h
    cases ha : a == q <;> cases hb : b == q <;> cases hc : c == q <;> simp_all

theorem multiLiteral_of_closing {body rest behind : List Char} {fuel : Nat} {seen : List Char}
    (h : closing '\'' ('\'' :: rest) = some (body, behind)) :
    multiLiteral (fuel + 1) seen ('\'' :: rest) = some (seen.reverse ++ body, behind) := by
  rw [multiLiteral, h]

theorem multiLiteral_of_quote {rest : List Char} (h : closing '\'' ('\'' :: rest) = none)
    (fuel : Nat) (seen : List Char) :
    multiLiteral (fuel + 1) seen ('\'' :: rest) = multiLiteral fuel ('\'' :: seen) rest := by
  rw [multiLiteral, h]

theorem multiLiteral_of_lined {c : Char} (h : c = '\n' ∨ isRaw c = true) (hquote : c ≠ '\'')
    (fuel : Nat) (seen rest : List Char) :
    multiLiteral (fuel + 1) seen (c :: rest) = multiLiteral fuel (c :: seen) rest := by
  by_cases hfeed : c = '\n'
  · subst hfeed
    rw [multiLiteral] <;> simp [dropNewline?]
  · have hraw := h.resolve_left hfeed
    have hreturn : c ≠ '\r' := by
      rintro rfl
      exact absurd hraw (by decide)
    have hnone : dropNewline? (c :: rest) = none :=
      dropNewline?_eq_none fun d hd => Option.some.inj hd ▸ ⟨hfeed, hreturn⟩
    rw [multiLiteral]
    · rw [hnone, if_pos hraw]
    · exact fun hc => hquote hc

/-- A string in three single quotes is read up to the closing ones. -/
theorem multiLiteral_lined {rest : List Char} (hrest : rest.head? ≠ some '\'') :
    ∀ (cs : List Char) (fuel : Nat) (seen : List Char), (∀ c ∈ cs, c = '\n' ∨ isRaw c = true) →
      hasTriple '\'' cs = false → cs.length < fuel →
      multiLiteral fuel seen (cs ++ '\'' :: '\'' :: '\'' :: rest) = some (seen.reverse ++ cs, rest)
  | [], fuel + 1, seen, _, _, _ =>
    multiLiteral_of_closing (closing_append [] (by simp) hrest)
  | c :: cs, fuel + 1, seen, hlined, htriple, h => by
    rw [List.forall_mem_cons] at hlined
    have ih := multiLiteral_lined hrest cs fuel (c :: seen) hlined.2 (hasTriple_of_cons htriple)
      (Nat.lt_of_succ_lt_succ h)
    rw [List.reverse_cons, List.append_assoc, List.singleton_append] at ih
    by_cases hquote : c = '\''
    · have hclosing := closing_append _ (length_takeWhile_of_hasTriple htriple) hrest
      rw [hquote] at ih hclosing ⊢
      split_ifs at hclosing with hlast
      · exact multiLiteral_of_closing hclosing
      · exact (multiLiteral_of_quote hclosing fuel seen).trans ih
    · exact (multiLiteral_of_lined hlined.1 hquote fuel seen _).trans ih

/-! ## The four forms -/

/-- No quote stands at the front. -/
structure StartsUnquoted (rest : List Char) : Prop where
  double : rest.head? ≠ some '"'
  single : rest.head? ≠ some '\''

theorem length_le_escaped (lines : Bool) : ∀ (cs : List Char) (quotes : Nat),
    cs.length ≤ (escaped lines quotes cs).length
  | [], _ => Nat.le_refl 0
  | c :: cs, quotes => by
    have ih := length_le_escaped lines cs
    rw [escaped]
    split_ifs
    · simpa using ih (quotes + 1)
    · simpa using Nat.le_succ_of_le (ih 0)
    · simpa using ih 0
    · split
      · next e he =>
        obtain ⟨code, rfl, -⟩ := escape?_of_escapeOf? he []
        simpa using Nat.le_trans (ih 0) (Nat.le_add_left ..)
      · simpa using ih 0

/-- What is written of a text starts with a backslash or with the first character. -/
theorem escaped_head (lines : Bool) (quotes : Nat) (c : Char) (cs : List Char) :
    ∃ d tail, escaped lines quotes (c :: cs) = d :: tail ∧ (d = '\\' ∨ d = c) ∧
      (lines = false → d ≠ '"') ∧ d ≠ '\r' := by
  rw [escaped]
  split_ifs with hquote hfew hfeed
  · exact ⟨'"', _, rfl, .inr hquote.symm, by simp_all, by decide⟩
  · exact ⟨'\\', _, rfl, .inl rfl, fun _ => by decide, by decide⟩
  · exact ⟨'\n', _, rfl, .inr (by simp_all), fun _ => by decide, by decide⟩
  · split
    · next e he =>
      obtain ⟨code, rfl, -⟩ := escape?_of_escapeOf? he []
      exact ⟨'\\', _, rfl, .inl rfl, fun _ => by decide, by decide⟩
    · next he =>
      exact ⟨c, _, rfl, .inr rfl, fun _ => hquote, (isRaw_of_escapeOf?_eq_none he).2.2.2⟩

/-- Behind one double quote that is not three, a string is read to the next one. -/
theorem string?_double {text : List Char} (h : ∀ tail, text ≠ '"' :: '"' :: tail) :
    string? ('"' :: text) =
      (basic (text.length + 2) [] text).map fun x => (String.ofList x.1, x.2) := by
  unfold string?
  split
  · next hcs => exact absurd (List.cons.inj hcs).2 (h _)
  · next hcs => cases hcs
  · next hcs =>
    cases hcs
    rfl
  · next hcs => cases hcs
  · next hcs _ => exact (hcs text rfl).elim

theorem string?_single {text : List Char} (h : ∀ tail, text ≠ '\'' :: '\'' :: tail) :
    string? ('\'' :: text) = (literal text).map fun x => (String.ofList x.1, x.2) := by
  unfold string?
  split
  · next hcs => cases hcs
  · next hcs => exact absurd (List.cons.inj hcs).2 (h _)
  · next hcs => cases hcs
  · next hcs =>
    cases hcs
    rfl
  · next hcs => exact (hcs text rfl).elim

theorem of_formOf_literal {cs : List Char} (h : formOf cs = .literal) :
    (∀ c ∈ cs, isRaw c = true) ∧ '\'' ∉ cs := by
  unfold formOf at h
  split_ifs at h with _ hliteral
  simpa [isPlain_iff] using hliteral

theorem of_formOf_literalLines {cs : List Char} (h : formOf cs = .literalLines) :
    (∀ c ∈ cs, c = '\n' ∨ isRaw c = true) ∧ hasTriple '\'' cs = false := by
  unfold formOf at h
  split_ifs at h with _ _ _ hlines
  simpa [isLined_iff] using hlines

/-- A string is read back in the form that it is written in, whatever follows it but a quote. -/
theorem string?_stringChars (cs : List Char) {rest : List Char} (h : StartsUnquoted rest) :
    string? (stringChars cs ++ rest) = some (String.ofList cs, rest) := by
  unfold stringChars
  cases hform : formOf cs with
  | basic =>
    have hquotes : ∀ tail, escaped false 0 cs ++ '"' :: rest ≠ '"' :: '"' :: tail := by
      intro tail htail
      cases cs with
      | nil => exact h.double (by simp [(List.cons.inj htail).2])
      | cons c cs =>
        obtain ⟨d, behind, hd, -, hquote, -⟩ := escaped_head false 0 c cs
        rw [hd] at htail
        exact hquote rfl (List.cons.inj htail).1
    have hlength := length_le_escaped false cs 0
    have hread := basic_escaped rest cs 0 ((escaped false 0 cs ++ '"' :: rest).length + 2) [] (by
      rw [List.length_append]
      omega)
    simp only [List.cons_append, List.append_assoc, List.nil_append]
    rw [string?_double hquotes, hread]
    rfl
  | literal =>
    obtain ⟨hraw, hquote⟩ := of_formOf_literal hform
    have hquotes : ∀ tail, cs ++ '\'' :: rest ≠ '\'' :: '\'' :: tail := by
      intro tail htail
      cases cs with
      | nil => exact h.single (by simp [(List.cons.inj htail).2])
      | cons c cs => exact hquote (by simp [(List.cons.inj htail).1])
    simp only [List.cons_append, List.append_assoc, List.nil_append]
    rw [string?_single hquotes, literal_append hraw hquote]
    rfl
  | basicLines =>
    have hlength := length_le_escaped true cs 0
    have hread := multiBasic_escaped h.double cs 0
      (('"' :: '"' :: '"' ::
        (opening cs ++ (escaped true 0 cs ++ '"' :: '"' :: '"' :: rest))).length + 1) []
      (by decide) (by
          simp only [List.length_cons, List.length_append]
          omega)
    simp only [List.cons_append, List.append_assoc, List.nil_append]
    rw [string?, dropFirstNewline_opening, hread]
    · rfl
    · intro hfeed c hc
      cases cs with
      | nil =>
        obtain rfl : '"' = c := by simpa [escaped] using hc
        decide
      | cons d cs =>
        obtain ⟨first, behind, hfirst, hcase, -, hreturn⟩ := escaped_head true 0 d cs
        obtain rfl : first = c := by simpa [hfirst] using hc
        rw [List.mem_cons, not_or] at hfeed
        refine ⟨?_, hreturn⟩
        rintro rfl
        exact hcase.elim (by decide) hfeed.1
  | literalLines =>
    obtain ⟨hlined, htriple⟩ := of_formOf_literalLines hform
    have hread := multiLiteral_lined h.single cs
      (('\'' :: '\'' :: '\'' :: (opening cs ++ (cs ++ '\'' :: '\'' :: '\'' :: rest))).length + 1) []
      hlined htriple (by
        simp only [List.length_cons, List.length_append]
        omega)
    simp only [List.cons_append, List.append_assoc, List.nil_append]
    rw [string?, dropFirstNewline_opening, hread]
    · rfl
    · intro hfeed c hc
      cases cs with
      | nil =>
        obtain rfl : '\'' = c := by simpa using hc
        decide
      | cons d cs =>
        obtain rfl : d = c := by simpa using hc
        rw [List.forall_mem_cons] at hlined
        rw [List.mem_cons, not_or] at hfeed
        refine ⟨Ne.symm hfeed.1, ?_⟩
        rintro rfl
        exact absurd hlined.1 (by decide)

end ZigReflect.Toml
