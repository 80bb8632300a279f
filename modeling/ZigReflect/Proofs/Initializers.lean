import ZigReflect.Proofs.Flattening
import ZigReflect.Proofs.Splitting
import ZigReflect.Proofs.StringValues

/-!
# Initializers that carry over

The initializer of a constant is an expression of the source language. Three forms of it have a
counterpart: a string in single quotes (`Initializer.Inside`), a decimal number
(`Initializer.IsDecimal`) and a path of names (`Initializer.IsNamePath`).

A text between single quotes carries over with what stands between them as its value. Escapes are
not read, so the value of a string is kept if and only if it has none, and no control character
above ASCII either. That the text is one string is not looked at: what begins and ends with a
quote carries over, and nothing else does that has none of the three forms
(`initializer_carries_over_iff`).
-/

namespace ZigReflect

namespace Initializer

open Text Zig

/-! ## Strings of the source -/

/-- The code units of a code point in UTF-16. -/
def codeUnits (n : Nat) : List Nat :=
  if n < 0x10000 then [n]
  else [0xD800 + (n - 0x10000) / 0x400, 0xDC00 + (n - 0x10000) % 0x400]

/-- The code units of characters. -/
def unitsOf (cs : List Char) : List Nat :=
  cs.flatMap fun c => codeUnits c.toNat

/-- The control character that a letter stands for behind a backslash. -/
def letterUnit? (c : Char) : Option Nat :=
  if c = 'b' then some 0x08
  else if c = 't' then some 0x09
  else if c = 'n' then some 0x0A
  else if c = 'v' then some 0x0B
  else if c = 'f' then some 0x0C
  else if c = 'r' then some 0x0D
  else none

/-- The ends of a line that a backslash continues. -/
def lineEnds : List (List Char) :=
  [['\n'], ['\r'], ['\r', '\n'], ['\u2028'], ['\u2029']]

/-- What may stand behind a backslash, with the code units that it stands for. -/
inductive Escape : List Char → List Nat → Prop
  /-- A letter for a control character. -/
  | letter {c : Char} {n : Nat} (known : letterUnit? c = some n) : Escape [c] [n]
  /-- A code unit in two digits. -/
  | short {hi lo : Char} {n : Nat} (digits : hexValue? [hi, lo] = some n) : Escape ['x', hi, lo] [n]
  /-- A code unit in four digits. -/
  | unit {a b c d : Char} {n : Nat} (digits : hexValue? [a, b, c, d] = some n) :
    Escape ['u', a, b, c, d] [n]
  /-- A code point in braces. -/
  | point {ds : List Char} {n : Nat} (nonempty : ds ≠ []) (digits : hexValue? ds = some n)
      (bound : n < 0x110000) : Escape ('u' :: '\x7b' :: (ds ++ ['\x7d'])) (codeUnits n)
  /-- The end of a line, which is left out. -/
  | lineEnd {ending : List Char} (known : ending ∈ lineEnds) : Escape ending []
  /-- Any other character, which stands for itself. -/
  | self {c : Char} (letter : letterUnit? c = none) (digit : isDigit c = false)
      (mark : c ≠ 'x' ∧ c ≠ 'u') (line : [c] ∉ lineEnds) : Escape [c] (codeUnits c.toNat)

/-- The inside of a string in single quotes, with the code units of its value. -/
inductive Inside : List Char → List Nat → Prop
  | nil : Inside [] []
  | plain {c : Char} {cs : List Char} {us : List Nat} (quote : c ≠ '\'') (backslash : c ≠ '\\')
      (line : c ≠ '\n' ∧ c ≠ '\r') (rest : Inside cs us) :
    Inside (c :: cs) (codeUnits c.toNat ++ us)
  /-- A zero is an escape if no digit follows it. -/
  | zero {cs : List Char} {us : List Nat} (follows : ∀ c ∈ cs.head?, isDigit c = false)
      (rest : Inside cs us) : Inside ('\\' :: '0' :: cs) (0 :: us)
  | escape {e cs : List Char} {meant us : List Nat} (known : Escape e meant) (rest : Inside cs us) :
    Inside ('\\' :: (e ++ cs)) (meant ++ us)

/-- The text between single quotes. -/
def singleQuoted (inside : List Char) : List Char :=
  '\'' :: (inside ++ ['\''])

/-- A string in single quotes. -/
def IsString (cs : List Char) : Prop :=
  ∃ inside us, cs = singleQuoted inside ∧ Inside inside us

/-- The bytes encode a text of these code units. -/
def Encodes (value : List UInt8) (us : List Nat) : Prop :=
  ∃ text : String, bytes text = value ∧ unitsOf text.toList = us

theorem length_codeUnits (n : Nat) : (codeUnits n).length = 1 ∨ (codeUnits n).length = 2 := by
  unfold codeUnits
  split
  · exact .inl rfl
  · exact .inr rfl

theorem unitsOf_cons (c : Char) (cs : List Char) :
    unitsOf (c :: cs) = codeUnits c.toNat ++ unitsOf cs := rfl

theorem unitsOf_append (cs ds : List Char) : unitsOf (cs ++ ds) = unitsOf cs ++ unitsOf ds :=
  List.flatMap_append

theorem length_le_unitsOf (cs : List Char) : cs.length ≤ (unitsOf cs).length := by
  induction cs with
  | nil => exact Nat.le_refl 0
  | cons c cs ih =>
    rw [unitsOf_cons, List.length_append, List.length_cons]
    rcases length_codeUnits c.toNat with h | h <;> omega

/-- An escape is not shorter than what it stands for. -/
theorem Escape.length_le {e : List Char} {us : List Nat} (h : Escape e us) :
    us.length ≤ (unitsOf e).length := by
  have hlength := length_le_unitsOf e
  cases h with
  | letter => exact hlength
  | short => exact Nat.le_trans (by simp) hlength
  | unit => exact Nat.le_trans (by simp) hlength
  | @point ds n =>
    have htwo : (codeUnits n).length ≤ 2 := by
      rcases length_codeUnits n with h | h <;> omega
    exact Nat.le_trans htwo (Nat.le_trans (by simp) hlength)
  | lineEnd => exact Nat.zero_le _
  | self => simp [unitsOf]

/-- With an escape in it, a string is longer than its value. -/
theorem Inside.length_le {cs : List Char} {us : List Nat} (h : Inside cs us) :
    us.length ≤ (unitsOf cs).length ∧ ('\\' ∈ cs → us.length < (unitsOf cs).length) := by
  induction h with
  | nil => simp
  | @plain c cs us _ hbackslash _ _ ih =>
    rw [unitsOf_cons, List.length_append, List.length_append, List.mem_cons]
    refine ⟨by omega, fun h => ?_⟩
    have hrest := ih.2 (h.resolve_left (Ne.symm hbackslash))
    omega
  | @zero cs us _ _ ih =>
    have hlt : (0 :: us).length < (unitsOf ('\\' :: '0' :: cs)).length := by
      rw [unitsOf_cons, unitsOf_cons, List.length_append, List.length_append, List.length_cons]
      rcases length_codeUnits '0'.toNat with h | h <;>
        rcases length_codeUnits '\\'.toNat with h' | h' <;> omega
    exact ⟨Nat.le_of_lt hlt, fun _ => hlt⟩
  | @escape e cs meant us known _ ih =>
    have hlt : (meant ++ us).length < (unitsOf ('\\' :: (e ++ cs))).length := by
      have hescape := known.length_le
      rw [unitsOf_cons, unitsOf_append, List.length_append, List.length_append, List.length_append]
      rcases length_codeUnits '\\'.toNat with h | h <;> omega
    exact ⟨Nat.le_of_lt hlt, fun _ => hlt⟩

/-- Without an escape a string has its characters as its value. -/
theorem Inside.eq_unitsOf {cs : List Char} {us : List Nat} (h : Inside cs us) (hplain : '\\' ∉ cs) :
    us = unitsOf cs := by
  induction h with
  | nil => rfl
  | plain _ _ _ _ ih => rw [unitsOf_cons, ih (fun h => hplain (List.mem_cons_of_mem _ h))]
  | zero => simp at hplain
  | escape => simp at hplain

/-! ## Numbers and paths -/

/-- One digit or more. -/
def IsDigits (ds : List Char) : Prop :=
  ds ≠ [] ∧ ∀ c ∈ ds, isDigit c = true

/-- Nothing, or a point with digits behind it or none. -/
inductive IsFraction : List Char → Prop
  | none : IsFraction []
  | point {ds : List Char} (digits : ∀ c ∈ ds, isDigit c = true) : IsFraction ('.' :: ds)

/-- Nothing, or the letter `e` and digits, with a sign or without. -/
inductive IsExponentPart : List Char → Prop
  | none : IsExponentPart []
  | power {letter : Char} {sign ds : List Char} (mark : letter = 'e' ∨ letter = 'E')
      (signed : sign = [] ∨ sign = ['+'] ∨ sign = ['-']) (digits : IsDigits ds) :
    IsExponentPart (letter :: (sign ++ ds))

/-- A decimal number, negated or not. -/
inductive IsDecimal : List Char → Prop
  | mk {sign whole fraction exponent : List Char} (signed : sign = [] ∨ sign = ['-'])
      (digits : IsDigits whole) (fractional : IsFraction fraction)
      (scaled : IsExponentPart exponent) : IsDecimal (sign ++ (whole ++ (fraction ++ exponent)))

/-- Names with dots between them. -/
def IsNamePath (cs : List Char) : Prop :=
  ∃ names, names ≠ [] ∧ (∀ name ∈ names, isBareWord name = true) ∧ cs = ['.'].intercalate names

/-- Digits are told from what follows them if that does not begin with a digit. -/
theorem span_isDigit {ds rest : List Char} (hds : ∀ c ∈ ds, isDigit c = true)
    (hrest : ∀ c ∈ rest.head?, isDigit c = false) :
    (ds ++ rest).takeWhile isDigit = ds ∧ (ds ++ rest).dropWhile isDigit = rest := by
  rw [List.takeWhile_append_of_pos hds, List.dropWhile_append_of_pos hds]
  cases rest with
  | nil => simp
  | cons c rest =>
    have hc := hrest c rfl
    simp [hc]

theorem IsExponentPart.head {cs : List Char} (h : IsExponentPart cs) :
    ∀ c ∈ cs.head?, isDigit c = false := by
  cases h with
  | none => simp
  | power mark =>
    rintro _ ⟨⟩
    rcases mark with rfl | rfl <;> decide

theorem IsFraction.head_append {cs exponent : List Char} (h : IsFraction cs)
    (hexponent : IsExponentPart exponent) : ∀ c ∈ (cs ++ exponent).head?, isDigit c = false := by
  cases h with
  | none => exact hexponent.head
  | point =>
    rintro _ ⟨⟩
    decide

theorem isDigits_iff {ds : List Char} : (!ds.isEmpty && ds.all isDigit) = true ↔ IsDigits ds := by
  simp [IsDigits]

/-- An exponent is digits behind a sign, if it has one. -/
theorem isExponent_iff {cs : List Char} :
    isExponent cs = true ↔
      ∃ sign ds, (sign = [] ∨ sign = ['+'] ∨ sign = ['-']) ∧ IsDigits ds ∧ cs = sign ++ ds := by
  constructor
  · intro h
    unfold isExponent at h
    split at h
    · exact ⟨['+'], _, by simp, isDigits_iff.1 h, rfl⟩
    · exact ⟨['-'], _, by simp, isDigits_iff.1 h, rfl⟩
    · exact ⟨[], _, by simp, isDigits_iff.1 h, rfl⟩
  · rintro ⟨sign, ds, hsign, hds, rfl⟩
    rcases hsign with rfl | rfl | rfl
    · rw [List.nil_append]
      unfold isExponent
      split
      · exact absurd (hds.2 '+' List.mem_cons_self) (by decide)
      · exact absurd (hds.2 '-' List.mem_cons_self) (by decide)
      · exact isDigits_iff.2 hds
    · exact isDigits_iff.2 hds
    · exact isDigits_iff.2 hds

theorem isNumberEnd_iff {cs : List Char} : isNumberEnd cs = true ↔ IsExponentPart cs := by
  constructor
  · intro h
    unfold isNumberEnd at h
    split at h
    · exact .none
    · next letter rest =>
      simp only [Bool.and_eq_true, Bool.or_eq_true, beq_iff_eq] at h
      obtain ⟨sign, ds, hsign, hds, rfl⟩ := isExponent_iff.1 h.2
      exact .power h.1 hsign hds
  · rintro (_ | ⟨mark, signed, digits⟩)
    · rfl
    · rw [isNumberEnd, isExponent_iff.2 ⟨_, _, signed, digits, rfl⟩]
      rcases mark with rfl | rfl <;> rfl

/-- A number without a sign is digits, then a fraction and an exponent, neither of which begins as
the other one does. -/
theorem isUnsignedNumber_iff {cs : List Char} :
    isUnsignedNumber cs = true ↔ ∃ whole fraction exponent, IsDigits whole ∧ IsFraction fraction ∧
      IsExponentPart exponent ∧ cs = whole ++ (fraction ++ exponent) := by
  constructor
  · intro h
    have hcs := List.takeWhile_append_dropWhile (p := isDigit) (l := cs)
    simp only [isUnsignedNumber, Bool.and_eq_true] at h
    have hwhole : IsDigits (cs.takeWhile isDigit) := isDigits_iff.1 (by simpa using h.1)
    replace h := h.2
    split at h
    · next rest heq =>
      rw [heq] at hcs
      refine ⟨_, '.' :: rest.takeWhile isDigit, rest.dropWhile isDigit, hwhole,
        .point (List.all_eq_true.1 List.all_takeWhile), isNumberEnd_iff.1 h, ?_⟩
      rw [List.cons_append, List.takeWhile_append_dropWhile, hcs]
    · exact ⟨_, [], _, hwhole, .none, isNumberEnd_iff.1 h, hcs.symm⟩
  · rintro ⟨whole, fraction, exponent, hwhole, hfraction, hexponent, rfl⟩
    obtain ⟨htake, hdrop⟩ := span_isDigit hwhole.2 (hfraction.head_append hexponent)
    have hnonempty : (!whole.isEmpty) = true := by simpa using hwhole.1
    simp only [isUnsignedNumber, htake, hdrop, hnonempty, Bool.true_and]
    cases hfraction with
    | none =>
      rw [List.nil_append]
      split
      · rcases hexponent with _ | ⟨h | h, -, -⟩ <;> cases h
      · exact isNumberEnd_iff.2 hexponent
    | point hds =>
      show isNumberEnd (List.dropWhile isDigit (_ ++ exponent)) = true
      rw [(span_isDigit hds hexponent.head).2]
      exact isNumberEnd_iff.2 hexponent

/-- A number is a decimal: the part behind a sign begins with a digit. -/
theorem isNumber_iff {cs : List Char} : isNumber cs = true ↔ IsDecimal cs := by
  constructor
  · intro h
    unfold isNumber at h
    split at h
    all_goals obtain ⟨whole, fraction, exponent, hwhole, hfraction, hexponent, rfl⟩ :=
      isUnsignedNumber_iff.1 h
    · exact .mk (.inr rfl) hwhole hfraction hexponent
    · exact .mk (.inl rfl) hwhole hfraction hexponent
  · rintro ⟨rfl | rfl, hwhole, hfraction, hexponent⟩
    all_goals have hunsigned := isUnsignedNumber_iff.2 ⟨_, _, _, hwhole, hfraction, hexponent, rfl⟩
    · rw [List.nil_append]
      unfold isNumber
      split
      · next heq =>
        obtain ⟨c, rest, rfl⟩ := List.exists_cons_of_ne_nil hwhole.1
        obtain ⟨rfl, -⟩ := List.cons.inj heq
        exact absurd (hwhole.2 '-' List.mem_cons_self) (by decide)
      · exact hunsigned
    · exact hunsigned

theorem isDigit_of_isLetter {c : Char} (h : isLetter c = true) : isDigit c = false := by
  simp only [isLetter, isDigit, Bool.or_eq_true, Bool.and_eq_true, Bool.and_eq_false_iff,
    decide_eq_true_eq, decide_eq_false_iff_not, Char.le_def, UInt32.le_iff_toNat_le] at h ⊢
  have hnine : '9'.val.toNat = 57 := rfl
  have hlower : 'a'.val.toNat = 97 := rfl
  have hupper : 'A'.val.toNat = 65 := rfl
  omega

/-- A name in a path is a bare word. -/
theorem isPathPart_eq (word : List Char) : isPathPart word = isBareWord word := by
  cases word with
  | nil => rfl
  | cons c rest =>
    rw [isPathPart, isBareWord, List.all_cons, isWordAscii, ← Bool.and_assoc]
    congr 1
    cases hletter : isLetter c with
    | true => simp [isDigit_of_isLetter hletter]
    | false =>
      cases hdigit : isDigit c with
      | true =>
        have hc : c ≠ '_' := by
          rintro rfl
          cases hdigit
        simp [hc]
      | false => simp

theorem isPath_iff {cs : List Char} : isPath cs = true ↔ IsNamePath cs := by
  unfold isPath
  rw [List.all_eq_true]
  constructor
  · intro h
    exact ⟨_, splitAt_ne_nil '.' cs, fun name hname => isPathPart_eq name ▸ h name hname,
      (intercalate_splitAt '.' cs).symm⟩
  · rintro ⟨names, hne, hnames, rfl⟩
    rw [splitAt_intercalate hne]
    · exact fun name hname => (isPathPart_eq name).trans (hnames name hname)
    · exact fun name hname hdot =>
        absurd (isWordAscii_of_isBareWord (hnames name hname) hdot) (by decide)

theorem betweenQuotes?_eq_some_iff {cs inner : List Char} :
    betweenQuotes? cs = some inner ↔ cs = singleQuoted inner := by
  constructor
  · intro h
    unfold betweenQuotes? at h
    split at h
    · split at h
      · next hlast =>
        obtain rfl := Option.some.inj h
        rw [singleQuoted, List.dropLast_append_getLast? _ hlast]
      · cases h
    · cases h
  · rintro rfl
    simp [betweenQuotes?, singleQuoted]

/-- What stands between the quotes denotes the value of the string if and only if there is no
escape in it, and no control character above ASCII. -/
theorem encodes_inside_iff {inside : List Char} {us : List Nat} (h : Inside inside us) :
    Encodes (inside.flatMap denotedBytes) us ↔
      ∀ c ∈ inside, c ≠ '\\' ∧ isHighControl c = false := by
  constructor
  · rintro ⟨text, hbytes, hunits⟩
    rw [bytes_eq_flatMap] at hbytes
    obtain ⟨rfl, hcontrol⟩ := eq_of_denotedBytes_eq hbytes.symm
    have hbackslash : '\\' ∉ text.toList := fun hmem =>
      absurd (congrArg List.length hunits) (Nat.ne_of_gt (h.length_le.2 hmem))
    exact fun c hc => ⟨fun heq => hbackslash (heq ▸ hc), hcontrol c hc⟩
  · intro hplain
    have hbackslash : '\\' ∉ inside := fun hmem => (hplain _ hmem).1 rfl
    refine ⟨String.ofList inside, ?_, ?_⟩
    · rw [bytes_eq_flatMap, String.toList_ofList,
        flatMap_denotedBytes_of_not_isHighControl fun c hc => (hplain c hc).2]
    · rw [String.toList_ofList, h.eq_unitsOf hbackslash]

/-! ## The constant -/

theorem toList_trim (source : String) : (trim source).toList = dropBlankEnds source.toList :=
  String.toList_ofList

/-- A text between single quotes becomes the string literal of what stands between them. -/
theorem initializer?_of_singleQuoted {source : String} {inner : List Char}
    (h : (trim source).toList = singleQuoted inner) :
    initializer? source = some (stringLiteral (String.ofList inner)) := by
  rw [toList_trim] at h
  rw [initializer?, betweenQuotes?_eq_some_iff.2 h]

/-- Any other text is kept if it is a number or a path. -/
theorem initializer?_of_not_singleQuoted {source : String}
    (h : ∀ inner, (trim source).toList ≠ singleQuoted inner) :
    initializer? source =
      if isNumber (trim source).toList || isPath (trim source).toList then some (trim source)
      else none := by
  have hnone : betweenQuotes? (dropBlankEnds source.toList) = none := by
    rw [Option.eq_none_iff_forall_ne_some]
    exact fun inner hinner =>
      h inner ((toList_trim source).trans (betweenQuotes?_eq_some_iff.1 hinner))
  rw [initializer?, hnone, toList_trim]
  rfl

theorem not_isDecimal_singleQuoted (inner : List Char) : ¬IsDecimal (singleQuoted inner) := by
  rw [← isNumber_iff]
  simp [singleQuoted, isNumber, isUnsignedNumber, isDigit]

theorem not_isNamePath_singleQuoted (inner : List Char) : ¬IsNamePath (singleQuoted inner) := by
  rw [← isPath_iff]
  intro h
  obtain ⟨name, hname, hquote⟩ : ∃ name ∈ splitAt '.' (singleQuoted inner), '\'' ∈ name :=
    mem_splitAt List.mem_cons_self (by decide)
  have hbare : isBareWord name = true := isPathPart_eq name ▸ List.all_eq_true.1 h name hname
  exact absurd (isWordAscii_of_isBareWord hbare hquote) (by decide)

/-- A number or a path is kept. -/
theorem initializer?_of_isDecimal_or_isNamePath {source : String}
    (h : IsDecimal (trim source).toList ∨ IsNamePath (trim source).toList) :
    initializer? source = some (trim source) := by
  have hquotes : ∀ inner, (trim source).toList ≠ singleQuoted inner := fun inner heq =>
    (heq ▸ h).elim (not_isDecimal_singleQuoted inner) (not_isNamePath_singleQuoted inner)
  rw [initializer?_of_not_singleQuoted hquotes, if_pos]
  rwa [Bool.or_eq_true, isNumber_iff, isPath_iff]

/-- A text that is neither carries over if and only if it begins and ends with a quote. -/
theorem initializer?_eq_none_iff {source : String} (hdecimal : ¬IsDecimal (trim source).toList)
    (hpath : ¬IsNamePath (trim source).toList) :
    initializer? source = none ↔ ∀ inner, (trim source).toList ≠ singleQuoted inner := by
  constructor
  · intro h inner heq
    rw [initializer?_of_singleQuoted heq] at h
    cases h
  · intro hquotes
    rw [initializer?_of_not_singleQuoted hquotes, if_neg]
    rw [Bool.or_eq_true, isNumber_iff, isPath_iff]
    exact not_or.2 ⟨hdecimal, hpath⟩

/-- The declarations that are written with the value of an initializer. -/
def TakesInitializer (d : Declaration) : Prop :=
  d.name ≠ Declaration.internalName ∧ d.literalType = none ∧
    (d.kind = .binding ∧ d.isCallable = false ∨ d.kind = .enumerationMember)

open Lowering Emission

/-- A constant is written with the value of its initializer, or with the placeholder if the
initializer does not carry over. -/
theorem yields_of_takesInitializer {pair : Pair} {d : Declaration} {source : String} {s : Schema}
    (h : TakesInitializer d) (hdefault : d.defaultValue = some source) {written : Bool}
    {text : String} :
    (pair.emitDeclaration d).Yields s written text ↔ written = true ∧ text = comment d ++
      (constHead d ++ (initializer? source).getD manualPlaceholder ++ ";\n") := by
  obtain ⟨hname, hliteral, hkind⟩ := h
  rw [Pair.emitDeclaration_eq_byKind, byKind, if_neg (by simpa using hname)]
  rcases hkind with ⟨hkind, hcallable⟩ | hkind
  · rw [hkind]
    dsimp only
    rw [binding]
    simp only [hcallable, hliteral, hdefault]
    cases initializer? source with
    | some value => exact yields_doc_write_iff
    | none => exact (yields_note_bind_iff (framed_documented d _)).trans yields_doc_write_iff
  · rw [hkind]
    dsimp only
    rw [enumerationMember, memberValue?, hliteral, hdefault]
    dsimp only [Option.bind_some]
    cases initializer? source with
    | some value => exact yields_doc_write_iff
    | none => exact (yields_note_bind_iff (framed_documented d _)).trans yields_doc_write_iff

/-- A string in quotes becomes a literal, which denotes the value of the string if and only if
there is no escape in it and no control character above ASCII. A number or a path is kept. Any
other text carries over if and only if it begins and ends with a quote, be it a string or not. What
an initializer becomes, or the placeholder, is the value of the constant that is written. -/
theorem initializer_carries_over_iff (source : String) :
    (∀ inside us, (trim source).toList = singleQuoted inside → Inside inside us →
      ∃ literal value, initializer? source = some literal ∧
        stringValue? literal.toList = some value ∧
        (Encodes value us ↔ ∀ c ∈ inside, c ≠ '\\' ∧ isHighControl c = false)) ∧
    (IsDecimal (trim source).toList ∨ IsNamePath (trim source).toList →
      initializer? source = some (trim source)) ∧
    (¬IsDecimal (trim source).toList → ¬IsNamePath (trim source).toList →
      (initializer? source = none ↔ ∀ inner, (trim source).toList ≠ singleQuoted inner)) ∧
    ∀ (pair : Pair) (e : Emitter) (d : Declaration), TakesInitializer d →
      d.defaultValue = some source →
        ((pair.emitDeclaration d).on e).1 = .ok true ∧
          ((pair.emitDeclaration d).on e).2.text = e.text ++ (comment d ++
            (constHead d ++ (initializer? source).getD manualPlaceholder ++ ";\n")) := by
  refine ⟨fun inside us hquoted hinside => ?_, initializer?_of_isDecimal_or_isNamePath,
    initializer?_eq_none_iff, fun pair e d htakes hdefault => ?_⟩
  · have hvalue := stringValue?_stringLiteral (String.ofList inside)
    rw [String.toList_ofList] at hvalue
    exact ⟨_, _, initializer?_of_singleQuoted hquoted, hvalue, encodes_inside_iff hinside⟩
  · rw [← yields_iff_on (pair.framed_emitDeclaration d)]
    exact (yields_of_takesInitializer htakes hdefault).2 ⟨rfl, rfl⟩

/-- A string without an escape keeps its value, a negated number is kept, and a constructor call
has the placeholder as its constant. -/
theorem initializer_carries_over_iff_full :
    (∃ literal value, initializer? " 'full' " = some literal ∧
      stringValue? literal.toList = some value ∧ Encodes value (unitsOf "full".toList)) ∧
    initializer? "-1.5e3" = some "-1.5e3" ∧
    initializer? "new X()" = none ∧
    ∀ pair : Pair,
      let d : Declaration :=
        { id := 1, name := "X", kind := .binding, defaultValue := some "new X()" }
      ((pair.emitDeclaration d).on (.fresh .types)).2.text =
        "pub const X = @compileError(\"manual translation required\");\n" := by
  have hinside : Inside "full".toList (unitsOf "full".toList) :=
    .plain (by decide) (by decide) (by decide) <| .plain (by decide) (by decide) (by decide) <|
      .plain (by decide) (by decide) (by decide) <| .plain (by decide) (by decide) (by decide) .nil
  have hnone : initializer? "new X()" = none := by
    refine ((initializer_carries_over_iff "new X()").2.2.1 ?_ ?_).2 fun inner => ?_
    · rw [← isNumber_iff]
      decide
    · rw [← isPath_iff]
      decide
    · have hquotes : betweenQuotes? (trim "new X()").toList = none := by decide
      rw [Ne, ← betweenQuotes?_eq_some_iff, hquotes]
      exact Option.some_ne_none inner ∘ Eq.symm
  refine ⟨?_, ?_, hnone, fun pair => ?_⟩
  · obtain ⟨literal, value, hliteral, hvalue, hencodes⟩ :=
      (initializer_carries_over_iff " 'full' ").1 _ _ (by decide +kernel) hinside
    exact ⟨literal, value, hliteral, hvalue, hencodes.2 (by simp [isHighControl])⟩
  · have htrim : trim "-1.5e3" = "-1.5e3" := by decide +kernel
    have hdecimal : IsDecimal (trim "-1.5e3").toList := isNumber_iff.1 (by decide +kernel)
    rw [(initializer_carries_over_iff "-1.5e3").2.1 (.inl hdecimal), htrim]
  · have hwritten := (initializer_carries_over_iff "new X()").2.2.2 pair (.fresh .types)
      { id := 1, name := "X", kind := .binding, defaultValue := some "new X()" }
      ⟨by decide, rfl, .inl ⟨rfl, rfl⟩⟩ rfl
    rw [hnone] at hwritten
    exact hwritten.2

/-- An escaped quote keeps its backslash, and a sum of two strings becomes one. -/
theorem quotes_inside_carry_over :
    (IsString "'it\\'s'".toList ∧ Inside "it\\'s".toList (unitsOf "it's".toList) ∧
      initializer? "'it\\'s'" = some "\"it\\\\'s\"" ∧
      stringValue? "\"it\\\\'s\"".toList = some (bytes "it\\'s") ∧
      ¬Encodes (bytes "it\\'s") (unitsOf "it's".toList)) ∧
    ¬IsString "'a' + 'b'".toList ∧ ¬IsDecimal "'a' + 'b'".toList ∧
      ¬IsNamePath "'a' + 'b'".toList ∧
      initializer? "'a' + 'b'" = some "\"a' + 'b\"" := by
  have hinside : Inside "it\\'s".toList (unitsOf "it's".toList) :=
    .plain (by decide) (by decide) (by decide) <| .plain (by decide) (by decide) (by decide) <|
      .escape (.self (by decide) (by decide) (by decide) (by decide)) <|
        .plain (by decide) (by decide) (by decide) .nil
  have hbytes : bytes "it\\'s" = "it\\'s".toList.flatMap denotedBytes := by decide +kernel
  refine ⟨⟨⟨_, _, by decide, hinside⟩, hinside, by decide, by decide +kernel, ?_⟩, ?_, ?_, ?_,
    by decide⟩
  · rw [hbytes, encodes_inside_iff hinside]
    exact fun hplain => (hplain '\\' (by decide)).1 rfl
  · rintro ⟨inside, us, heq, hstring⟩
    have hinside : inside = "a' + 'b".toList :=
      (List.append_cancel_right (List.cons.inj heq).2).symm
    rw [hinside] at hstring
    cases hstring with
    | plain _ _ _ hrest =>
      cases hrest with
      | plain hquote => exact hquote rfl
  · exact not_isDecimal_singleQuoted "a' + 'b".toList
  · exact not_isNamePath_singleQuoted "a' + 'b".toList

end Initializer

end ZigReflect
