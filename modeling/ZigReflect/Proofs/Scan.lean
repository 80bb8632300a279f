import Mathlib.Tactic.Common
import ZigReflect.Lowering.Basic
import ZigReflect.Proofs.Splitting

/-!
# Scanning Zig text

A scanner reads Zig text by characters: code, string tokens with backslash
escapes, and comments to the end of the line. It keeps the brackets that are
open, innermost first, and stops at a bracket that closes another one than the
innermost, and at a line feed in a string.

A text passes (`Passes`) from one state to another. It is balanced (`Balanced`)
if it passes from code to code with no bracket open, and so it does with any
brackets open around it (`IsClosed`). Names, strings, numbers and comments are
closed whatever they hold: what is written of a name or a string has no bare
quote and no line feed.
-/

namespace ZigReflect.Zig

open ZigReflect.Text

/-- What the scanner is reading. -/
inductive Mode where
  | code
  /-- Code after one slash. -/
  | slash
  | string
  /-- A string after a backslash. -/
  | escape
  | comment
deriving DecidableEq

/-- What the scanner is reading, and the brackets that have to be closed. -/
structure Scan where
  mode : Mode
  closers : List Char
deriving DecidableEq

/-- The scanner in code. -/
abbrev Scan.inCode (closers : List Char) : Scan := ⟨.code, closers⟩

/-- The bracket that closes an opening one. -/
def closer? (c : Char) : Option Char :=
  if c = '\x7b' then some '\x7d'
  else if c = '(' then some ')'
  else if c = '[' then some ']'
  else none

/-- One character of code. -/
def Scan.codeStep (closers : List Char) (c : Char) : Option Scan :=
  if c = '"' then some ⟨.string, closers⟩
  else if c = '/' then some ⟨.slash, closers⟩
  else
    match closer? c with
    | some closer => some (.inCode (closer :: closers))
    | none =>
      if c = '\x7d' ∨ c = ')' ∨ c = ']' then
        match closers with
        | innermost :: rest => if innermost = c then some (.inCode rest) else none
        | [] => none
      else some (.inCode closers)

/-- One character. -/
def Scan.step (s : Scan) (c : Char) : Option Scan :=
  match s.mode with
  | .code => codeStep s.closers c
  | .slash => if c = '/' then some ⟨.comment, s.closers⟩ else codeStep s.closers c
  | .string =>
    if c = '"' then some (.inCode s.closers)
    else if c = '\\' then some ⟨.escape, s.closers⟩
    else if c = '\n' then none
    else some s
  | .escape => if c = '\n' then none else some ⟨.string, s.closers⟩
  | .comment => if c = '\n' then some (.inCode s.closers) else some s

/-- A list of characters. -/
def scan (s : Scan) (cs : List Char) : Option Scan :=
  cs.foldlM Scan.step s

@[simp] theorem scan_nil (s : Scan) : scan s [] = some s := rfl

theorem scan_cons (s : Scan) (c : Char) (cs : List Char) :
    scan s (c :: cs) = (s.step c).bind fun t => scan t cs := by
  simp [scan, List.foldlM_cons]

/-- A text after another one is scanned from where that one ends. -/
theorem scan_append (s : Scan) (xs ys : List Char) :
    scan s (xs ++ ys) = (scan s xs).bind fun t => scan t ys := by
  simp [scan, List.foldlM_append]

/-- Characters that each leave the scanner where it is. -/
theorem scan_eq_self {s : Scan} : ∀ {cs : List Char}, (∀ c ∈ cs, s.step c = some s) →
    scan s cs = some s
  | [], _ => rfl
  | c :: cs, h => by
    rw [scan_cons, h c (by simp), Option.bind_some]
    exact scan_eq_self fun d hd => h d (List.mem_cons_of_mem c hd)

/-! ## Texts between two states -/

/-- The text takes the scanner from one state to another. -/
def Passes (text : String) (s t : Scan) : Prop :=
  scan s text.toList = some t

/-- Passing one text after the other. -/
theorem Passes.append {a b : String} {s t u : Scan} (ha : Passes a s t) (hb : Passes b t u) :
    Passes (a ++ b) s u := by
  unfold Passes at *
  rw [String.toList_append, scan_append, ha]
  exact hb

instance (text : String) (s t : Scan) : Decidable (Passes text s t) :=
  inferInstanceAs (Decidable (_ = _))

/-- The brackets around a text do not matter to it: only a closing bracket looks at what is open,
and it needs one of the text's own. -/
theorem Scan.step_around {s t : Scan} {c : Char} (h : s.step c = some t) (around : List Char) :
    Scan.step ⟨s.mode, s.closers ++ around⟩ c = some ⟨t.mode, t.closers ++ around⟩ := by
  have hcode : ∀ {closers : List Char}, codeStep closers c = some t →
      codeStep (closers ++ around) c = some ⟨t.mode, t.closers ++ around⟩ := by
    intro closers h
    unfold codeStep at h ⊢
    by_cases hq : c = '"'
    · simp only [hq, if_true, Option.some.injEq] at h ⊢
      subst h
      rfl
    by_cases hs : c = '/'
    · simp only [hs, if_true, if_neg (show ¬ '/' = '"' by decide), Option.some.injEq] at h ⊢
      subst h
      rfl
    simp only [if_neg hq, if_neg hs] at h ⊢
    cases hc : closer? c with
    | some closer =>
      simp only [hc, Option.some.injEq] at h ⊢
      subst h
      rfl
    | none =>
      simp only [hc] at h ⊢
      split
      · next hb =>
        rw [if_pos hb] at h
        cases closers with
        | nil => simp at h
        | cons innermost rest =>
          simp only [List.cons_append] at h ⊢
          split_ifs at h ⊢
          cases h
          rfl
      · next hb =>
        rw [if_neg hb] at h
        cases h
        rfl
  obtain ⟨mode, closers⟩ := s
  cases mode with
  | code => exact hcode h
  | slash =>
    simp only [step] at h ⊢
    split_ifs at h ⊢
    · cases h
      rfl
    · exact hcode h
  | string | escape | comment =>
    simp only [step] at h ⊢
    split_ifs at h ⊢ <;> cases h <;> rfl

/-- A text passes inside other brackets as it does alone. -/
theorem Passes.around {text : String} {s t : Scan} (h : Passes text s t) (around : List Char) :
    Passes text ⟨s.mode, s.closers ++ around⟩ ⟨t.mode, t.closers ++ around⟩ := by
  unfold Passes at *
  generalize text.toList = cs at h
  induction cs generalizing s with
  | nil =>
    obtain rfl : s = t := by simpa using h
    rfl
  | cons c cs ih =>
    rw [scan_cons] at h
    obtain ⟨u, hu, h⟩ := Option.bind_eq_some_iff.1 h
    rw [scan_cons, Scan.step_around hu, Option.bind_some]
    exact ih h

/-- By itself, the text ends in code with no bracket open. -/
def Balanced (text : String) : Prop :=
  Passes text (.inCode []) (.inCode [])

instance (text : String) : Decidable (Balanced text) :=
  inferInstanceAs (Decidable (Passes _ _ _))

/-- What the text opens it closes: brackets in order, strings and comments. -/
def IsClosed (text : String) : Prop :=
  ∀ closers, Passes text (.inCode closers) (.inCode closers)

/-- A balanced text is closed inside all brackets. -/
theorem Balanced.isClosed {text : String} (h : Balanced text) : IsClosed text :=
  h.around

theorem IsClosed.append {a b : String} (ha : IsClosed a) (hb : IsClosed b) : IsClosed (a ++ b) :=
  fun closers => (ha closers).append (hb closers)

/-- Closed texts in a row are closed. -/
theorem isClosed_join : ∀ {texts : List String}, (∀ text ∈ texts, IsClosed text) →
    IsClosed (String.join texts)
  | [], _ => Balanced.isClosed (by decide)
  | text :: texts, h => by
    rw [String.join_cons]
    exact (h text (by simp)).append (isClosed_join fun t ht => h t (by simp [ht]))

/-- Closed texts with a closed text between them are closed. -/
theorem isClosed_intercalate {separator : String} (hs : IsClosed separator) :
    ∀ {texts : List String}, (∀ text ∈ texts, IsClosed text) →
      IsClosed (separator.intercalate texts)
  | [], _ => by
    rw [String.intercalate_nil]
    exact Balanced.isClosed (by decide)
  | [text], h => by simpa using h text (by simp)
  | text :: next :: texts, h => by
    rw [String.intercalate_cons_cons]
    exact ((h text (by simp)).append hs).append
      (isClosed_intercalate hs fun t ht => h t (List.mem_cons_of_mem text ht))

/-! ## Plain characters -/

/-- Characters that mean nothing to the scanner in code. -/
def isPlain (c : Char) : Bool :=
  !(['"', '/', '\x7b', '\x7d', '(', ')', '[', ']'].contains c)

/-- A plain character changes nothing. -/
theorem step_of_isPlain {c : Char} (h : isPlain c = true) (closers : List Char) :
    (Scan.inCode closers).step c = some (.inCode closers) := by
  simp only [isPlain, List.contains_cons, List.contains_nil, Bool.or_false, Bool.not_eq_true',
    Bool.or_eq_false_iff, beq_eq_false_iff_ne] at h
  obtain ⟨h1, h2, h3, h4, h5, h6, h7, h8⟩ := h
  simp [Scan.step, Scan.codeStep, closer?, h1, h2, h3, h4, h5, h6, h7, h8]

/-- A text of plain characters is closed. -/
theorem isClosed_of_isPlain {text : String} (h : ∀ c ∈ text.toList, isPlain c = true) :
    IsClosed text :=
  fun closers => scan_eq_self fun c hc => step_of_isPlain (h c hc) closers

theorem isClosed_ofList {cs : List Char} (h : ∀ c ∈ cs, isPlain c = true) :
    IsClosed (String.ofList cs) :=
  isClosed_of_isPlain (by simpa using h)

theorem isPlain_of_isWordAscii {c : Char} (h : isWordAscii c = true) : isPlain c = true := by
  by_contra hp
  simp only [isPlain, Bool.not_eq_true', Bool.not_eq_false, List.contains_eq_mem,
    decide_eq_true_eq, List.mem_cons, List.not_mem_nil, or_false] at hp
  rcases hp with rfl | rfl | rfl | rfl | rfl | rfl | rfl | rfl <;> revert h <;> decide

theorem isPlain_of_isDigit {c : Char} (h : isDigit c = true) : isPlain c = true :=
  isPlain_of_isWordAscii (by simp [isWordAscii, h])

/-! ## Strings and names -/

/-- A hexadecimal digit neither ends a string nor escapes anything in it. -/
theorem hexChar_inString : ∀ n < 16, hexChar n ≠ '"' ∧ hexChar n ≠ '\\' ∧ hexChar n ≠ '\n' := by
  decide

/-- Inside quotes every character is written so that the string goes on. -/
theorem scan_quoteChar (c : Char) (closers : List Char) :
    scan ⟨.string, closers⟩ (quoteChar c) = some ⟨.string, closers⟩ := by
  unfold quoteChar
  split_ifs with h1 h2 h3 h4 h5 h6
  · rfl
  · rfl
  · rfl
  · rfl
  · rfl
  · have hc : c.toNat < 256 := by
      simp only [isControl, Bool.or_eq_true, Bool.and_eq_true, decide_eq_true_eq] at h6
      omega
    have hi := hexChar_inString (c.toNat / 16) (by omega)
    have lo := hexChar_inString (c.toNat % 16) (by omega)
    simp [scan_cons, Scan.step, hi, lo]
  · simp [scan_cons, Scan.step, h1, h2, h3]

/-- What is written of a text inside quotes stays inside them. -/
theorem scan_quoteBody (closers : List Char) : ∀ cs : List Char,
    scan ⟨.string, closers⟩ (quoteBody cs) = some ⟨.string, closers⟩
  | [] => rfl
  | c :: cs => by
    rw [quoteBody, List.flatMap_cons, scan_append, scan_quoteChar]
    exact scan_quoteBody closers cs

/-- A string literal ends with its closing quote. -/
theorem isClosed_stringLiteral (s : String) : IsClosed (stringLiteral s) := by
  intro closers
  have hopen : Passes "\"" (.inCode closers) ⟨.string, closers⟩ := rfl
  have hbody : Passes (String.ofList (quoteBody s.toList)) ⟨.string, closers⟩
      ⟨.string, closers⟩ := by
    rw [Passes, String.toList_ofList]
    exact scan_quoteBody closers s.toList
  have hclose : Passes "\"" ⟨.string, closers⟩ (.inCode closers) := rfl
  exact (hopen.append hbody).append hclose

theorem isClosed_of_isBareWord {name : String} (h : isBareWord name.toList = true) :
    IsClosed name := by
  refine isClosed_of_isPlain fun c hc => isPlain_of_isWordAscii ?_
  cases hn : name.toList with
  | nil => simp [hn] at hc
  | cons first rest =>
    rw [hn] at h hc
    simp only [isBareWord, Bool.and_eq_true, List.all_eq_true] at h
    exact h.2 c hc

/-- An identifier is closed, bare or quoted. -/
theorem isClosed_identifier (name : String) : IsClosed (identifier name) := by
  unfold identifier
  split
  · exact IsClosed.append (Balanced.isClosed (by decide)) (isClosed_stringLiteral name)
  · next h =>
    refine isClosed_of_isBareWord ?_
    simp only [needsQuotes, Bool.or_eq_true, Bool.not_eq_true', not_or, Bool.not_eq_false] at h
    exact h.2

/-- A primitive type is written as a closed text if its name is a bare word. -/
theorem isClosed_primitive {name : String} (h : isBareWord name.toList = true) :
    IsClosed (primitive name) := by
  unfold primitive
  split <;> first | exact Balanced.isClosed (by decide) | exact isClosed_of_isBareWord h

/-! ## Numbers and literals -/

theorem isPlain_toDigits {n : Nat} {c : Char} (h : c ∈ Nat.toDigits 10 n) : isPlain c = true := by
  have hd : c.isDigit = true := Nat.isDigit_of_mem_toDigits (by decide) (by decide) h
  exact isPlain_of_isDigit (by simpa [isDigit, Char.isDigit, Char.le_def] using hd)

theorem isPlain_replicate {n : Nat} {c : Char} (h : c ∈ List.replicate n '0') :
    isPlain c = true := by
  rw [List.eq_of_mem_replicate h]
  rfl

theorem isClosed_natRepr (n : Nat) : IsClosed n.repr :=
  isClosed_of_isPlain fun c hc => isPlain_toDigits (by simpa using hc)

theorem isClosed_toString (i : Int) : IsClosed (toString i) := by
  rw [Int.toString_eq_repr, Int.repr_eq_if]
  split
  · exact isClosed_natRepr _
  · exact (Balanced.isClosed (by decide)).append (isClosed_natRepr _)

/-- A decimal is closed in every layout whose own texts are. -/
theorem isClosed_renderDecimal {l : Layout} (hw : IsClosed l.whole) (hp : IsClosed l.plus)
    (d : Decimal) : IsClosed (l.renderDecimal d) := by
  have hds : ∀ c ∈ Nat.toDigits 10 d.digits, isPlain c = true := fun c hc => isPlain_toDigits hc
  have hdot : IsClosed "." := Balanced.isClosed (by decide)
  have he : IsClosed "e" := Balanced.isClosed (by decide)
  unfold Layout.renderDecimal
  generalize Nat.toDigits 10 d.digits = ds at hds
  dsimp only
  split
  · split
    · refine (isClosed_ofList fun c hc => ?_).append hw
      rcases List.mem_append.1 hc with hc | hc
      · exact hds c hc
      · exact isPlain_replicate hc
    · split
      · exact ((isClosed_ofList fun c hc => hds c (List.mem_of_mem_take hc)).append hdot).append
          (isClosed_ofList fun c hc => hds c (List.mem_of_mem_drop hc))
      · refine (Balanced.isClosed (by decide)).append (isClosed_ofList fun c hc => ?_)
        rcases List.mem_append.1 hc with hc | hc
        · exact isPlain_replicate hc
        · exact hds c hc
  · have hpower : ∀ k : Int, IsClosed ((if 0 < k then l.plus else "") ++ toString (k - 1)) := by
      intro k
      refine IsClosed.append ?_ (isClosed_toString _)
      split
      · exact hp
      · exact Balanced.isClosed (by decide)
    split
    · exact ((isClosed_ofList hds).append he).append (hpower _)
    · next first more _ =>
      exact ((((isClosed_ofList fun c hc => hds c (by simp_all)).append hdot).append
        (isClosed_ofList fun c hc => hds c (by simp_all))).append he).append (hpower _)
    · exact Balanced.isClosed (by decide)

/-- A number is closed in every layout whose marks are. -/
theorem isClosed_renderDouble {l : Layout} (hw : IsClosed l.whole) (hp : IsClosed l.plus)
    (d : Double) : IsClosed (l.render d) := by
  unfold Layout.render
  split
  · exact Balanced.isClosed (by decide)
  · split <;> exact Balanced.isClosed (by decide)
  · next negative m e =>
    have hbody : IsClosed (if m = 0 then "0" ++ l.whole
        else l.renderDecimal (Shortest.digits l.tie m e)) := by
      split
      · exact (Balanced.isClosed (by decide)).append hw
      · exact isClosed_renderDecimal hw hp _
    dsimp only
    split
    · exact (Balanced.isClosed (by decide)).append hbody
    · exact hbody

/-- The value of a literal is closed. -/
theorem isClosed_render (value : Literal) : IsClosed value.render := by
  unfold Literal.render
  split
  · exact Balanced.isClosed (by decide)
  · split <;> exact Balanced.isClosed (by decide)
  · exact isClosed_toString _
  · exact isClosed_renderDouble (Balanced.isClosed (by decide)) (Balanced.isClosed (by decide)) _
  · exact isClosed_stringLiteral _

theorem isClosed_zigType (value : Literal) : IsClosed value.zigType := by
  unfold Literal.zigType
  split <;> exact Balanced.isClosed (by decide)

/-! ## Initializers -/

theorem isPlain_of_isExponent {cs : List Char} (h : isExponent cs = true) :
    ∀ c ∈ cs, isPlain c = true := by
  unfold isExponent at h
  split at h
  all_goals
    simp only [Bool.and_eq_true, List.all_eq_true] at h
    intro c hc
  · rcases List.mem_cons.1 hc with rfl | hc
    · rfl
    · exact isPlain_of_isDigit (h.2 c hc)
  · rcases List.mem_cons.1 hc with rfl | hc
    · rfl
    · exact isPlain_of_isDigit (h.2 c hc)
  · exact isPlain_of_isDigit (h.2 c hc)

theorem isPlain_of_isNumberEnd {cs : List Char} (h : isNumberEnd cs = true) :
    ∀ c ∈ cs, isPlain c = true := by
  unfold isNumberEnd at h
  split at h
  · simp
  · next e rest =>
    simp only [Bool.and_eq_true, Bool.or_eq_true, beq_iff_eq] at h
    intro c hc
    rcases List.mem_cons.1 hc with rfl | hc
    · rcases h.1 with rfl | rfl <;> rfl
    · exact isPlain_of_isExponent h.2 c hc

/-- Digits in front of plain characters are plain too. -/
theorem isPlain_of_dropWhile_isDigit {cs : List Char}
    (h : ∀ c ∈ cs.dropWhile isDigit, isPlain c = true) : ∀ c ∈ cs, isPlain c = true := by
  intro c hc
  rw [← List.takeWhile_append_dropWhile (p := isDigit) (l := cs)] at hc
  rcases List.mem_append.1 hc with hc | hc
  · exact isPlain_of_isDigit (List.all_eq_true.1 List.all_takeWhile c hc)
  · exact h c hc

theorem isPlain_of_isUnsignedNumber {cs : List Char} (h : isUnsignedNumber cs = true) :
    ∀ c ∈ cs, isPlain c = true := by
  refine isPlain_of_dropWhile_isDigit fun c hc => ?_
  simp only [isUnsignedNumber, Bool.and_eq_true] at h
  replace h := h.2
  split at h
  · next rest heq =>
    rw [heq] at hc
    rcases List.mem_cons.1 hc with rfl | hc
    · rfl
    · exact isPlain_of_dropWhile_isDigit (isPlain_of_isNumberEnd h) c hc
  · exact isPlain_of_isNumberEnd h c hc

/-- A number that carries over is made of plain characters. -/
theorem isPlain_of_isNumber {cs : List Char} (h : isNumber cs = true) :
    ∀ c ∈ cs, isPlain c = true := by
  unfold isNumber at h
  split at h
  · intro c hc
    rcases List.mem_cons.1 hc with rfl | hc
    · rfl
    · exact isPlain_of_isUnsignedNumber h c hc
  · exact isPlain_of_isUnsignedNumber h

theorem isWordAscii_of_isPathPart {piece : List Char} (h : isPathPart piece = true) :
    ∀ c ∈ piece, isWordAscii c = true := by
  cases piece with
  | nil => simp
  | cons first rest =>
    simp only [isPathPart, Bool.and_eq_true, Bool.or_eq_true, List.all_eq_true] at h
    intro c hc
    rcases List.mem_cons.1 hc with rfl | hc
    · rcases h.1 with hl | hu
      · simp [isWordAscii, hl]
      · simp [isWordAscii, hu]
    · exact h.2 c hc

/-- A dotted name that carries over is made of plain characters. -/
theorem isPlain_of_isPath {cs : List Char} (h : isPath cs = true) : ∀ c ∈ cs, isPlain c = true := by
  intro c hc
  by_cases hdot : c = '.'
  · rw [hdot]
    rfl
  · obtain ⟨piece, hp, hc⟩ := mem_splitAt hc hdot
    exact isPlain_of_isWordAscii (isWordAscii_of_isPathPart (List.all_eq_true.1 h piece hp) c hc)

/-- Whatever carries over of an initializer is closed. -/
theorem isClosed_of_initializer {source value : String} (h : initializer? source = some value) :
    IsClosed value := by
  unfold initializer? at h
  dsimp only at h
  split at h
  · cases h
    exact isClosed_stringLiteral _
  · split at h
    · next hcs =>
      cases h
      rcases Bool.or_eq_true_iff.1 hcs with hn | hp
      · exact isClosed_ofList (isPlain_of_isNumber hn)
      · exact isClosed_ofList (isPlain_of_isPath hp)
    · cases h

end ZigReflect.Zig

namespace ZigReflect.Lowering

open Zig Text

/-! ## Comments -/

/-- Splitting at line feeds leaves none of them. -/
theorem feed_not_mem_splitFeeds : ∀ (cs : List Char) {piece : List Char},
    piece ∈ splitFeeds cs → '\n' ∉ piece
  | [], piece, h => by simp_all [splitFeeds]
  | c :: cs, piece, h => by
    unfold splitFeeds at h
    split at h
    · cases ‹_ = _›
    · next heq =>
      cases heq
      rcases List.mem_cons.1 h with rfl | h
      · simp
      · exact feed_not_mem_splitFeeds _ h
    · next hfeed heq =>
      cases heq
      split at h
      · obtain rfl : piece = [c] := by simpa using h
        simpa using fun hc => hfeed hc.symm
      · next first pieces heq =>
        rcases List.mem_cons.1 h with rfl | h
        · have hfirst : '\n' ∉ first := feed_not_mem_splitFeeds cs (by simp [heq])
          simp only [List.mem_cons, not_or]
          exact ⟨fun hc => hfeed hc.symm, hfirst⟩
        · exact feed_not_mem_splitFeeds cs (by simp [heq, h])

theorem dropReturn_subset (cs : List Char) : dropReturn cs ⊆ cs := by
  unfold dropReturn
  split
  · exact (List.dropLast_sublist cs).subset
  · exact List.Subset.refl cs

theorem dropBlankEnd_subset (cs : List Char) : dropBlankEnd cs ⊆ cs := by
  intro c hc
  have hrev := (List.dropWhile_sublist _).subset (List.mem_reverse.1 hc)
  exact List.mem_reverse.1 hrev

/-- A line has no line feed in it, so it cannot end the comment it stands in. -/
theorem feed_not_mem_lineChars {cs line : List Char} (h : line ∈ lineChars cs) : '\n' ∉ line := by
  unfold lineChars at h
  split at h
  · simp at h
  · next last before heq =>
    have hpiece : ∀ piece ∈ last :: before, '\n' ∉ piece := fun piece hp =>
      feed_not_mem_splitFeeds cs (by rwa [← List.mem_reverse, heq])
    have hfed : ∀ line ∈ before.reverse.map dropReturn, '\n' ∉ line := by
      intro line hl
      obtain ⟨piece, hp, rfl⟩ := List.mem_map.1 hl
      have hp : piece ∈ last :: before := List.mem_cons_of_mem _ (List.mem_reverse.1 hp)
      exact fun hc => hpiece piece hp (dropReturn_subset piece hc)
    dsimp only at h
    split at h
    · exact hfed line h
    · rcases List.mem_append.1 h with h | h
      · exact hfed line h
      · obtain rfl : line = last := by simpa using h
        exact hpiece line (by simp)

/-- A line of a comment holds no line feed, so the comment ends with the line. -/
theorem isClosed_docLine {line : String} (h : '\n' ∉ line.toList) : IsClosed (docLine line) := by
  unfold docLine
  dsimp only
  split
  · exact Balanced.isClosed (by decide)
  · intro closers
    have hopen : Passes "/// " (.inCode []) ⟨.comment, []⟩ := by decide
    have hbody : Passes (trimEnd line) ⟨.comment, closers⟩ ⟨.comment, closers⟩ := by
      refine scan_eq_self fun c hc => ?_
      have hc : c ∈ line.toList := dropBlankEnd_subset _ (by simpa [trimEnd] using hc)
      have hfeed : c ≠ '\n' := fun hn => h (hn ▸ hc)
      simp [Scan.step, hfeed]
    have hclose : Passes "\n" ⟨.comment, []⟩ (.inCode []) := by decide
    exact ((hopen.around closers).append hbody).append (hclose.around closers)

/-- A comment is closed, whatever its text says. -/
theorem isClosed_docText (blurb : String) : IsClosed (docText blurb) := by
  refine isClosed_join fun text ht => ?_
  obtain ⟨line, hl, rfl⟩ := List.mem_map.1 ht
  obtain ⟨cs, hcs, rfl⟩ := List.mem_map.1 hl
  exact isClosed_docLine (by simpa using feed_not_mem_lineChars hcs)

end ZigReflect.Lowering
