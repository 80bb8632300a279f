import ZigReflect.Proofs.ByteOrder
import ZigReflect.Proofs.Spelling

/-!
# What string literals denote

A string literal denotes bytes (`stringValue?`): an escape stands for one byte, and any other
character for its bytes in UTF-8. A control character is written by its code point in two
digits, which is one byte whatever the character. Below U+0080 this is the encoding of the
character; from U+0080 to U+009F the encoding has two bytes.

So a literal denotes the text that it holds if and only if no control character above ASCII
is in the text (`string_denotes_text_iff`). No text at all is denoted otherwise
(`eq_of_denotedBytes_eq`): a byte from 0x80 to 0x9F begins no encoded character.
-/

namespace ZigReflect.Zig

open Text

/-! ## Reading a string -/

/-- The byte that a character stands for behind a backslash. -/
def escapedByte? (c : Char) : Option UInt8 :=
  if c = 'n' then some 0x0A
  else if c = 'r' then some 0x0D
  else if c = 't' then some 0x09
  else if c = '\\' then some 0x5C
  else if c = '"' then some 0x22
  else none

/-- The bytes of a string, read from behind its opening quote, and the text behind the closing
quote. There is no line feed inside a string. -/
def readString? : List Char → Option (List UInt8 × List Char)
  | [] => none
  | '"' :: rest => some ([], rest)
  | ['\\'] => none
  | '\\' :: 'x' :: hi :: lo :: rest => do
    let byte ← hexValue? [hi, lo]
    let (bytes, behind) ← readString? rest
    return (UInt8.ofNat byte :: bytes, behind)
  | '\\' :: c :: rest => do
    let byte ← escapedByte? c
    let (bytes, behind) ← readString? rest
    return (byte :: bytes, behind)
  | c :: rest =>
    if c = '\n' then none
    else do
      let (bytes, behind) ← readString? rest
      return (String.utf8EncodeChar c ++ bytes, behind)

/-- The bytes that a string literal denotes, if the text is one literal. -/
def stringValue? : List Char → Option (List UInt8)
  | '"' :: rest =>
    match readString? rest with
    | some (bytes, []) => some bytes
    | _ => none
  | _ => none

/-- The bytes of the name that an identifier denotes, quoted or bare. -/
def nameValue? : List Char → Option (List UInt8)
  | '@' :: token => stringValue? token
  | word => if isBareWord word then some (word.flatMap String.utf8EncodeChar) else none

/-- The control characters above ASCII. -/
def isHighControl (c : Char) : Bool :=
  0x80 ≤ c.toNat && c.toNat < 0xA0

/-- The bytes that a character denotes the way it is written inside quotes. -/
def denotedBytes (c : Char) : List UInt8 :=
  if isHighControl c then [UInt8.ofNat c.toNat] else String.utf8EncodeChar c

theorem utf8EncodeChar_of_ascii {c : Char} (h : c.toNat < 0x80) :
    String.utf8EncodeChar c = [UInt8.ofNat c.toNat] := by
  have hle : c.val.toNat ≤ 127 := Nat.le_of_lt_succ h
  unfold String.utf8EncodeChar
  exact if_pos hle

/-- A control character denotes the byte of its code point. -/
theorem denotedBytes_of_isControl {c : Char} (h : isControl c = true) :
    denotedBytes c = [UInt8.ofNat c.toNat] := by
  simp only [isControl, Bool.or_eq_true, Bool.and_eq_true, decide_eq_true_eq] at h
  unfold denotedBytes isHighControl
  split
  · rfl
  · next hlow =>
    simp only [Bool.and_eq_true, decide_eq_true_eq] at hlow
    exact utf8EncodeChar_of_ascii (by omega)

/-- Any other character denotes its encoding. -/
theorem denotedBytes_of_not_isControl {c : Char} (h : isControl c = false) :
    denotedBytes c = String.utf8EncodeChar c := by
  simp only [isControl, Bool.or_eq_false_iff, Bool.and_eq_false_iff, decide_eq_false_iff_not] at h
  unfold denotedBytes isHighControl
  rw [if_neg]
  simp only [Bool.and_eq_true, decide_eq_true_eq]
  omega

/-- An escape of two characters is read as its byte. -/
theorem readString?_escape {c : Char} {byte : UInt8} (h : escapedByte? c = some byte)
    (rest : List Char) :
    readString? ('\\' :: c :: rest) = (readString? rest).map fun r => (byte :: r.1, r.2) := by
  have hx : c ≠ 'x' := by
    rintro rfl
    cases h
  cases hr : readString? rest <;> simp [readString?, hx, h, hr]

/-- A character is read as what it denotes, whatever follows. -/
theorem readString?_quoteChar (c : Char) (rest : List Char) :
    readString? (quoteChar c ++ rest) =
      (readString? rest).map fun r => (denotedBytes c ++ r.1, r.2) := by
  unfold quoteChar
  split
  · next h =>
    subst h
    exact readString?_escape rfl rest
  split
  · next h =>
    subst h
    exact readString?_escape rfl rest
  split
  · next h =>
    subst h
    exact readString?_escape rfl rest
  split
  · next h =>
    subst h
    exact readString?_escape rfl rest
  split
  · next h =>
    subst h
    exact readString?_escape rfl rest
  split
  · next hc =>
    rw [denotedBytes_of_isControl hc]
    cases hr : readString? rest <;> simp [readString?, hexValue?_of_isControl hc, hr]
  · next _ hbackslash hfeed _ _ hc =>
    rw [denotedBytes_of_not_isControl (Bool.eq_false_iff.2 hc)]
    cases hr : readString? rest <;> simp [readString?, hbackslash, hfeed, hr]

/-- What is written of a text inside quotes is read up to the closing quote, whatever follows. -/
theorem readString?_quoteBody (rest : List Char) : ∀ cs : List Char,
    readString? (quoteBody cs ++ '"' :: rest) = some (cs.flatMap denotedBytes, rest)
  | [] => rfl
  | c :: cs => by
    rw [quoteBody_cons, List.append_assoc, readString?_quoteChar, readString?_quoteBody rest cs]
    rfl

theorem toList_stringLiteral (s : String) :
    (stringLiteral s).toList = '"' :: (quoteBody s.toList ++ ['"']) := by
  simp [stringLiteral]

/-- A string literal denotes what its characters denote. -/
theorem stringValue?_stringLiteral (s : String) :
    stringValue? (stringLiteral s).toList = some (s.toList.flatMap denotedBytes) := by
  rw [toList_stringLiteral, stringValue?, readString?_quoteBody]

/-! ## Which texts are denoted -/

/-- The encoding of a character begins with a byte of ASCII, or with one from 0xC0 on. -/
theorem utf8EncodeChar_head (c : Char) :
    ∃ byte bytes, String.utf8EncodeChar c = byte :: bytes ∧
      (byte.toNat < 0x80 ∨ 0xC0 ≤ byte.toNat) := by
  have hc : c.val.toNat < 0x110000 := by
    rcases c.valid with h | h <;> omega
  unfold String.utf8EncodeChar
  generalize c.val.toNat = v at hc
  dsimp only
  split_ifs
  all_goals
    refine ⟨_, _, rfl, ?_⟩
    simp only [UInt8.toNat_ofNat']
    omega

/-- No character is encoded as the beginning of another one. -/
theorem eq_of_utf8EncodeChar_append_eq {c d : Char} {xs ys : List UInt8}
    (h : String.utf8EncodeChar c ++ xs = String.utf8EncodeChar d ++ ys) : c = d := by
  rcases lt_trichotomy c d with hlt | heq | hlt
  · exact (List.lt_irrefl _ (h ▸ utf8EncodeChar_append_lt hlt xs ys)).elim
  · exact heq
  · exact (List.lt_irrefl _ (h ▸ utf8EncodeChar_append_lt hlt ys xs)).elim

theorem denotedBytes_ne_of_isHighControl {c : Char} (hc : isHighControl c = true) (d : Char)
    (xs ys : List UInt8) : denotedBytes c ++ xs ≠ String.utf8EncodeChar d ++ ys := by
  obtain ⟨byte, bytes, hencoded, hbyte⟩ := utf8EncodeChar_head d
  rw [denotedBytes, if_pos hc, hencoded]
  intro h
  obtain ⟨rfl, -⟩ := List.cons.inj h
  simp only [isHighControl, Bool.and_eq_true, decide_eq_true_eq] at hc
  simp only [UInt8.toNat_ofNat'] at hbyte
  omega

/-- If what characters denote is the encoding of a text, no control character above ASCII is
among them, and the text is theirs. -/
theorem eq_of_denotedBytes_eq : ∀ {cs ds : List Char},
    cs.flatMap denotedBytes = ds.flatMap String.utf8EncodeChar →
      cs = ds ∧ ∀ c ∈ cs, isHighControl c = false
  | [], [], _ => ⟨rfl, by simp⟩
  | [], d :: ds, h => by
    obtain ⟨byte, bytes, hencoded, -⟩ := utf8EncodeChar_head d
    simp [hencoded] at h
  | c :: cs, [], h => by
    obtain ⟨byte, bytes, hencoded, -⟩ := utf8EncodeChar_head c
    rw [List.flatMap_cons, denotedBytes] at h
    split at h
    · simp at h
    · simp [hencoded] at h
  | c :: cs, d :: ds, h => by
    rw [List.flatMap_cons, List.flatMap_cons] at h
    cases hc : isHighControl c with
    | true => exact (denotedBytes_ne_of_isHighControl hc d _ _ h).elim
    | false =>
      rw [denotedBytes, hc] at h
      obtain rfl : c = d := eq_of_utf8EncodeChar_append_eq h
      obtain ⟨rfl, hcs⟩ := eq_of_denotedBytes_eq (List.append_cancel_left h)
      exact ⟨rfl, List.forall_mem_cons.2 ⟨hc, hcs⟩⟩

theorem flatMap_denotedBytes_of_not_isHighControl {cs : List Char}
    (h : ∀ c ∈ cs, isHighControl c = false) :
    cs.flatMap denotedBytes = cs.flatMap String.utf8EncodeChar := by
  simp only [List.flatMap_def]
  congr 1
  exact List.map_congr_left fun c hc => by simp [denotedBytes, h c hc]

theorem flatMap_denotedBytes_eq_bytes_iff {s : String} :
    s.toList.flatMap denotedBytes = bytes s ↔ ∀ c ∈ s.toList, isHighControl c = false := by
  rw [bytes_eq_flatMap]
  exact ⟨fun h => (eq_of_denotedBytes_eq h).2, flatMap_denotedBytes_of_not_isHighControl⟩

/-! ## Names -/

theorem isHighControl_of_isWordAscii {c : Char} (h : isWordAscii c = true) :
    isHighControl c = false := by
  simp only [isWordAscii, isLetter, isDigit, Bool.or_eq_true, Bool.and_eq_true, decide_eq_true_eq,
    beq_iff_eq, Char.le_def, UInt32.le_iff_toNat_le] at h
  have hc : c.toNat < 0x80 := by
    show c.val.toNat < 0x80
    rcases h with ((⟨-, h⟩ | ⟨-, h⟩) | ⟨-, h⟩) | rfl
    · exact Nat.lt_of_le_of_lt h (by decide)
    · exact Nat.lt_of_le_of_lt h (by decide)
    · exact Nat.lt_of_le_of_lt h (by decide)
    · decide
  simp only [isHighControl, Bool.and_eq_false_iff, decide_eq_false_iff_not]
  omega

theorem isHighControl_of_isBareWord {word : List Char} (h : isBareWord word = true) :
    ∀ c ∈ word, isHighControl c = false := fun _ hc =>
  isHighControl_of_isWordAscii (isWordAscii_of_isBareWord h hc)

theorem nameValue?_of_isBareWord {word : List Char} (h : isBareWord word = true) :
    nameValue? word = some (word.flatMap denotedBytes) := by
  rw [flatMap_denotedBytes_of_not_isHighControl (isHighControl_of_isBareWord h)]
  unfold nameValue?
  split
  · simp [isBareWord, isDigit, isWordAscii, isLetter] at h
  · rw [if_pos h]

/-- An identifier denotes what the characters of its name denote. -/
theorem nameValue?_identifier (name : String) :
    nameValue? (identifier name).toList = some (name.toList.flatMap denotedBytes) := by
  unfold identifier
  split
  · rw [String.toList_append]
    exact stringValue?_stringLiteral name
  · next h => exact nameValue?_of_isBareWord (isBareWord_of_not_needsQuotes h)

/-- A string literal is read to its end, and so is an identifier, quoted or bare. Both denote what
their characters denote, which is the encoding of the text if and only if there is no control
character above ASCII in it. -/
theorem string_denotes_text_iff (s : String) :
    stringValue? (stringLiteral s).toList = some (s.toList.flatMap denotedBytes) ∧
      nameValue? (identifier s).toList = some (s.toList.flatMap denotedBytes) ∧
      (s.toList.flatMap denotedBytes = bytes s ↔ ∀ c ∈ s.toList, isHighControl c = false) :=
  ⟨stringValue?_stringLiteral s, nameValue?_identifier s, flatMap_denotedBytes_eq_bytes_iff⟩

/-- U+0080 is written as one byte and encoded in two, as a string and as a name. -/
theorem high_control_loses_byte :
    stringLiteral "\u0080" = "\"\\x80\"" ∧
      stringValue? (stringLiteral "\u0080").toList = some [0x80] ∧
      nameValue? (identifier "\u0080").toList = some [0x80] ∧
      bytes "\u0080" = [0xC2, 0x80] := by
  decide +kernel

end ZigReflect.Zig
