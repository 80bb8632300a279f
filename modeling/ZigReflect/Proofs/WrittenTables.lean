import Mathlib.Tactic.Common
import ZigReflect.Proofs.WrittenStrings
import ZigReflect.Toml.Parse

/-!
# Tables that are written are read back

A text of sections is read line by line. A line takes the reader from one state to the next
whatever follows it, and so does a text of several lines (`Reads`). The header of a section opens
a table, and every line of the section enters the value that its text is read as (`Spells`), so a
text of sections with different names, each with different keys, is read as the table of their
values (`parse?_sections`).
-/

namespace ZigReflect

namespace Keyed

variable {κ α : Type} [BEq κ] [LawfulBEq κ]

/-- A new key goes to the end. -/
theorem set_of_not_mem {xs : List (κ × α)} {key : κ} (h : key ∉ xs.map (·.1)) (a : α) :
    set xs key a = xs ++ [(key, a)] := by
  induction xs with
  | nil => rfl
  | cons x rest ih =>
    obtain ⟨other, b⟩ := x
    rw [List.map_cons, List.mem_cons, not_or] at h
    rw [set, if_neg (by simpa using h.1), ih h.2, List.cons_append]

theorem lookup_eq_none {xs : List (κ × α)} {key : κ} (h : key ∉ xs.map (·.1)) :
    xs.lookup key = none := by
  rw [List.lookup_eq_none_iff]
  intro x hx
  simpa using fun heq : key = x.1 => h (heq ▸ List.mem_map_of_mem hx)

theorem lookup_concat {xs : List (κ × α)} {key : κ} (h : key ∉ xs.map (·.1)) (a : α) :
    (xs ++ [(key, a)]).lookup key = some a := by
  rw [← set_of_not_mem h, lookup_set_self]

/-- The last key keeps its place. -/
theorem set_concat {xs : List (κ × α)} {key : κ} (h : key ∉ xs.map (·.1)) (a b : α) :
    set (xs ++ [(key, a)]) key b = xs ++ [(key, b)] := by
  induction xs with
  | nil => simp [set]
  | cons x rest ih =>
    obtain ⟨other, c⟩ := x
    rw [List.map_cons, List.mem_cons, not_or] at h
    rw [List.cons_append, set, if_neg (by simpa using h.1), ih h.2, List.cons_append]

end Keyed

namespace Toml

open ZigReflect.Text

/-! ## Values -/

/-- The text is read as the value when a line feed follows, and starts with no blank. -/
structure Spells (text : String) (v : Toml) : Prop where
  unspaced : ∀ c, text.toList.head? = some c → isSpace c = false
  value : ∀ {fuel : Nat} (rest : List Char), text.toList.length < fuel →
    value? fuel nesting (text.toList ++ '\n' :: rest) = some (v, '\n' :: rest)

theorem stringChars_head (cs : List Char) :
    ∃ q text, stringChars cs = q :: text ∧ (q = '"' ∨ q = '\'') := by
  unfold stringChars
  cases formOf cs with
  | basic => exact ⟨_, _, rfl, .inl rfl⟩
  | literal => exact ⟨_, _, rfl, .inr rfl⟩
  | basicLines => exact ⟨_, _, rfl, .inl rfl⟩
  | literalLines => exact ⟨_, _, rfl, .inr rfl⟩

theorem value?_stringText (s : String) (fuel room : Nat) {rest : List Char}
    (h : StartsUnquoted rest) :
    value? fuel room ((stringText s).toList ++ rest) = some (.string s, rest) := by
  obtain ⟨q, text, htext, hq⟩ := stringChars_head s.toList
  have hread := string?_stringChars s.toList h
  rw [stringText, String.toList_ofList]
  rw [htext, List.cons_append] at hread ⊢
  rw [String.ofList_toList] at hread
  have hvalue : value? fuel room (q :: (text ++ rest)) =
      (string? (q :: (text ++ rest))).map fun x => (.string x.1, x.2) := by
    rcases hq with rfl | rfl <;> cases room <;> rw [value?]
  rw [hvalue, hread]
  rfl

theorem startsUnquoted_of_head {c : Char} (hdouble : c ≠ '"') (hsingle : c ≠ '\'')
    (rest : List Char) : StartsUnquoted (c :: rest) :=
  ⟨by simpa using hdouble, by simpa using hsingle⟩

theorem spells_string (s : String) : Spells (stringText s) (.string s) := by
  refine ⟨fun c hc => ?_, fun {fuel} rest _ =>
    value?_stringText s fuel nesting (startsUnquoted_of_head (by decide) (by decide) rest)⟩
  obtain ⟨q, text, htext, hq⟩ := stringChars_head s.toList
  obtain rfl : q = c := by simpa [stringText, htext] using hc
  rcases hq with rfl | rfl <;> rfl

theorem spells_bool (b : Bool) : Spells (boolText b) (.bool b) := by
  cases b with
  | true =>
    refine ⟨by simp [boolText, isSpace], fun {fuel} rest _ => ?_⟩
    show value? fuel (78 + 1) ('t' :: 'r' :: 'u' :: 'e' :: '\n' :: rest) = _
    rw [value?]
    · rfl
    all_goals simp
  | false =>
    refine ⟨by simp [boolText, isSpace], fun {fuel} rest _ => ?_⟩
    show value? fuel (78 + 1) ('f' :: 'a' :: 'l' :: 's' :: 'e' :: '\n' :: rest) = _
    rw [value?]
    · rfl
    all_goals simp

/-! ## Lists -/

/-- A character that ends blanks, line ends and comments. -/
def IsSolid (c : Char) : Prop :=
  isSpace c = false ∧ c ≠ '#' ∧ c ≠ '\n' ∧ c ≠ '\r'

theorem dropGaps_of_isSolid {c : Char} (h : IsSolid c) (fuel : Nat) (rest : List Char) :
    dropGaps fuel (c :: rest) = some (c :: rest) := by
  cases fuel with
  | zero => rfl
  | succ fuel =>
    have hspace : dropSpace (c :: rest) = c :: rest := by simp [dropSpace, h.1]
    have hcomment : dropComment? (c :: rest) = some (c :: rest) := by
      rw [dropComment?]
      exact fun _ hc => h.2.1 (List.cons.inj hc).1
    have hline : dropNewline? (c :: rest) = none :=
      dropNewline?_eq_none fun d hd => Option.some.inj hd ▸ h.2.2
    simp only [dropGaps, hspace, hcomment, hline]

/-- The gap between two items: a line end and four blanks. -/
theorem dropGaps_indent {c : Char} (h : IsSolid c) (fuel : Nat) (rest : List Char) :
    dropGaps (fuel + 2) ('\n' :: ' ' :: ' ' :: ' ' :: ' ' :: c :: rest) = some (c :: rest) := by
  have hsame : dropGaps (fuel + 2) ('\n' :: ' ' :: ' ' :: ' ' :: ' ' :: c :: rest) =
      dropGaps (fuel + 1) (c :: rest) := rfl
  rw [hsame, dropGaps_of_isSolid h]

theorem isSolid_of_quote {q : Char} (h : q = '"' ∨ q = '\'') : IsSolid q := by
  rcases h with rfl | rfl <;> exact ⟨by decide, by decide, by decide, by decide⟩

theorem arrayItems?_end (fuel room steps : Nat) (gap rest : List Char) (seen : List Toml)
    (hgap : dropGaps fuel (gap ++ ']' :: rest) = some (']' :: rest)) :
    arrayItems? fuel room (steps + 1) (gap ++ ']' :: rest) seen =
      some (.array seen.reverse, rest) := by
  rw [arrayItems?, hgap]
  rfl

/-- A line of a list with several items. -/
def itemLine (s : String) : String :=
  "    " ++ stringText s ++ ",\n"

theorem length_le_itemLines : ∀ items : List String,
    items.length ≤ (String.join (items.map itemLine)).toList.length
  | [] => Nat.zero_le _
  | s :: items => by
    have ih := length_le_itemLines items
    have hline : 0 < (itemLine s).toList.length := by simp [itemLine]
    rw [List.map_cons, String.join_cons, String.toList_append, List.length_append,
      List.length_cons]
    omega

/-- An item that is behind a gap is read. A comma leads to the next item, and a bracket ends the
list. -/
theorem arrayItems?_item {s : String} {fuel : Nat} {text rest : List Char}
    (hgap : dropGaps fuel text = some ((stringText s).toList ++ rest))
    (h : StartsUnquoted rest) (room steps : Nat) (seen : List Toml) :
    (∀ behind, dropGaps fuel rest = some (',' :: behind) →
      arrayItems? fuel room (steps + 1) text seen =
        arrayItems? fuel room steps behind (.string s :: seen)) ∧
    ∀ behind, dropGaps fuel rest = some (']' :: behind) →
      arrayItems? fuel room (steps + 1) text seen =
        some (.array (.string s :: seen).reverse, behind) := by
  obtain ⟨q, inside, htext, hq⟩ := stringChars_head s.toList
  have hread := value?_stringText s fuel room h
  rw [stringText, String.toList_ofList, htext, List.cons_append] at hread hgap
  rcases hq with rfl | rfl <;>
    exact ⟨fun behind hafter => by simp [arrayItems?, hgap, hread, hafter],
      fun behind hafter => by simp [arrayItems?, hgap, hread, hafter]⟩

theorem arrayItems?_lines (fuel room : Nat) (rest : List Char) :
    ∀ (items : List String) (steps : Nat) (seen : List Toml), items.length < steps →
      arrayItems? (fuel + 2) room steps
          ('\n' :: ((String.join (items.map itemLine)).toList ++ ']' :: rest)) seen =
        some (.array (seen.reverse ++ items.map .string), rest)
  | [], steps + 1, seen, _ => by
    have hgap : dropGaps (fuel + 2) (['\n'] ++ ']' :: rest) = some (']' :: rest) := rfl
    simpa using arrayItems?_end (fuel + 2) room steps ['\n'] rest seen hgap
  | s :: items, steps + 1, seen, h => by
    have ih := arrayItems?_lines fuel room rest items steps (.string s :: seen)
      (Nat.lt_of_succ_lt_succ h)
    generalize hmore : (String.join (items.map itemLine)).toList ++ ']' :: rest = more at ih
    have htext : '\n' :: ((String.join ((s :: items).map itemLine)).toList ++ ']' :: rest) =
        '\n' :: ' ' :: ' ' :: ' ' :: ' ' :: ((stringText s).toList ++ ',' :: '\n' :: more) := by
      simp [String.join_cons, itemLine, ← hmore]
    obtain ⟨q, inside, hq, hquote⟩ := stringChars_head s.toList
    have hgap : dropGaps (fuel + 2)
        ('\n' :: ' ' :: ' ' :: ' ' :: ' ' :: ((stringText s).toList ++ ',' :: '\n' :: more)) =
          some ((stringText s).toList ++ ',' :: '\n' :: more) := by
      rw [stringText, String.toList_ofList, hq]
      exact dropGaps_indent (isSolid_of_quote hquote) fuel _
    have hcomma : dropGaps (fuel + 2) (',' :: '\n' :: more) = some (',' :: '\n' :: more) :=
      dropGaps_of_isSolid ⟨by decide, by decide, by decide, by decide⟩ _ _
    have hunquoted : StartsUnquoted (',' :: '\n' :: more) :=
      startsUnquoted_of_head (by decide) (by decide) _
    rw [htext, (arrayItems?_item hgap hunquoted room steps seen).1 _ hcomma, ih]
    simp

theorem value?_list (fuel : Nat) (text : List Char) :
    value? fuel nesting ('[' :: text) = arrayItems? fuel 78 fuel text [] := by
  show value? fuel (78 + 1) ('[' :: text) = _
  rw [value?]

theorem isSolid_bracket : IsSolid ']' :=
  ⟨by decide, by decide, by decide, by decide⟩

theorem spells_list_nil : Spells (listText []) (.array []) := by
  refine ⟨by simp [listText, isSpace], fun {fuel} rest h => ?_⟩
  obtain ⟨fuel, rfl⟩ := Nat.exists_eq_succ_of_ne_zero (Nat.ne_zero_of_lt h)
  exact (value?_list _ _).trans
    (arrayItems?_end _ _ _ [] _ [] (dropGaps_of_isSolid isSolid_bracket _ _))

theorem spells_list_singleton (s : String) : Spells (listText [s]) (.array [.string s]) := by
  refine ⟨by simp [listText, isSpace], fun {fuel} rest h => ?_⟩
  obtain ⟨fuel, rfl⟩ := Nat.exists_eq_succ_of_ne_zero (Nat.ne_zero_of_lt h)
  have htext : (listText [s]).toList ++ '\n' :: rest =
      '[' :: ((stringText s).toList ++ ']' :: '\n' :: rest) := by simp [listText]
  obtain ⟨q, inside, hq, hquote⟩ := stringChars_head s.toList
  have hgap : dropGaps (fuel + 1) ((stringText s).toList ++ ']' :: '\n' :: rest) =
      some ((stringText s).toList ++ ']' :: '\n' :: rest) := by
    rw [stringText, String.toList_ofList, hq]
    exact dropGaps_of_isSolid (isSolid_of_quote hquote) _ _
  have hunquoted : StartsUnquoted (']' :: '\n' :: rest) :=
    startsUnquoted_of_head (by decide) (by decide) _
  rw [htext, value?_list]
  exact (arrayItems?_item hgap hunquoted _ _ _).2 _ (dropGaps_of_isSolid isSolid_bracket _ _)

/-- A list with a line for each item. -/
theorem spells_list_lines {items : List String}
    (h : listText items = "[\n" ++ String.join (items.map itemLine) ++ "]") :
    Spells (listText items) (.array (items.map .string)) := by
  refine ⟨by simp [h, isSpace], fun {fuel} rest hfuel => ?_⟩
  have htext : (listText items).toList ++ '\n' :: rest =
      '[' :: '\n' :: ((String.join (items.map itemLine)).toList ++ ']' :: '\n' :: rest) := by
    simp [h]
  have hlength := length_le_itemLines items
  rw [h, String.toList_append, String.toList_append, List.length_append, List.length_append,
    show "[\n".toList.length = 2 from rfl] at hfuel
  obtain ⟨fuel, rfl⟩ := Nat.exists_eq_add_of_le' (show 2 ≤ fuel by omega)
  rw [htext, value?_list, arrayItems?_lines fuel 78 _ _ _ _ (by omega)]
  simp

theorem spells_list (items : List String) :
    Spells (listText items) (.array (items.map .string)) := by
  rcases items with _ | ⟨s, _ | ⟨next, items⟩⟩
  · exact spells_list_nil
  · exact spells_list_singleton s
  · exact spells_list_lines rfl

/-! ## Lines -/

/-- The characters of the key can all stand in a bare key. -/
def IsBareKey (key : String) : Prop :=
  key.toList ≠ [] ∧ ∀ c ∈ key.toList, isKeyChar c = true

instance (key : String) : Decidable (IsBareKey key) :=
  @instDecidableAnd _ _ _ (List.decidableBAll _ _)

/-- A character of a bare key is no mark and no blank. -/
theorem of_isKeyChar {c : Char} (h : isKeyChar c = true) :
    IsSolid c ∧ c ≠ '"' ∧ c ≠ '\'' ∧ c ≠ '[' := by
  refine ⟨⟨?_, ?_, ?_, ?_⟩, ?_, ?_, ?_⟩
  · by_contra hspace
    simp only [isSpace, Bool.not_eq_false, Bool.or_eq_true, beq_iff_eq] at hspace
    rcases hspace with rfl | rfl <;> exact absurd h (by decide)
  all_goals
    rintro rfl
    exact absurd h (by decide)

theorem exists_cons_of_isBareKey {key : String} (h : IsBareKey key) :
    ∃ c cs, key.toList = c :: cs ∧ isKeyChar c = true := by
  obtain ⟨c, cs, hkey⟩ := List.exists_cons_of_ne_nil h.1
  exact ⟨c, cs, hkey, h.2 c (by simp [hkey])⟩

/-- A bare key is read up to the mark behind it. -/
theorem key?_of_isBareKey {key : String} (h : IsBareKey key) {gap rest : List Char} {mark : Char}
    (hgap : ∀ c ∈ gap, isSpace c = true) (hsolid : IsSolid mark) (hkey : isKeyChar mark = false)
    (hdot : mark ≠ '.') :
    key? (key.toList ++ (gap ++ mark :: rest)) = some ([key], mark :: rest) := by
  have hspace : dropSpace (gap ++ mark :: rest) = mark :: rest := by
    rw [dropSpace, List.dropWhile_append_of_pos hgap]
    simp [hsolid.1]
  have hend : (gap ++ mark :: rest).takeWhile isKeyChar = [] ∧
      (gap ++ mark :: rest).dropWhile isKeyChar = gap ++ mark :: rest := by
    cases gap with
    | nil => simp [hkey]
    | cons c gap =>
      have hc : isKeyChar c = false := by
        by_contra hc
        rw [Bool.not_eq_false] at hc
        simpa [(of_isKeyChar hc).1.1] using hgap c (by simp)
      simp [hc]
  obtain ⟨c, cs, hchars, hc⟩ := exists_cons_of_isBareKey h
  have hsimple : simpleKey? (key.toList ++ (gap ++ mark :: rest)) =
      some (key, gap ++ mark :: rest) := by
    obtain ⟨-, hdouble, hsingle, -⟩ := of_isKeyChar hc
    have hplain : simpleKey? (key.toList ++ (gap ++ mark :: rest)) =
        let name := (key.toList ++ (gap ++ mark :: rest)).takeWhile isKeyChar
        if name.isEmpty then none
        else some (String.ofList name,
          (key.toList ++ (gap ++ mark :: rest)).dropWhile isKeyChar) := by
      rw [hchars, List.cons_append, simpleKey?]
      all_goals simp [hdouble, hsingle]
    rw [hplain, List.takeWhile_append_of_pos h.2, List.dropWhile_append_of_pos h.2, hend.1,
      hend.2]
    simp [h.1]
  have hstart : dropSpace (key.toList ++ (gap ++ mark :: rest)) =
      key.toList ++ (gap ++ mark :: rest) := by
    rw [hchars, List.cons_append, dropSpace, List.dropWhile_cons_of_neg]
    simp [(of_isKeyChar hc).1.1]
  show keyParts? (78 + 1) _ = _
  rw [keyParts?, hstart, hsimple]
  dsimp only
  rw [hspace]
  split
  · next heq => exact absurd (List.cons.inj heq).1 hdot
  · rfl

theorem lineEnd?_feed (rest : List Char) : lineEnd? ('\n' :: rest) = some rest := rfl

theorem lineEnd?_of_isSolid {c : Char} (h : IsSolid c) (rest : List Char) :
    lineEnd? (c :: rest) = none := by
  have hspace : dropSpace (c :: rest) = c :: rest := by simp [dropSpace, h.1]
  have hcomment : dropComment? (c :: rest) = some (c :: rest) := by
    rw [dropComment?]
    exact fun _ hc => h.2.1 (List.cons.inj hc).1
  rw [lineEnd?, hspace, hcomment]
  exact dropNewline?_eq_none fun d hd => Option.some.inj hd ▸ h.2.2

/-- A line without anything. -/
theorem line_feed (r : Reader) (fuel : Nat) (rest : List Char) :
    r.line fuel ('\n' :: rest) = some (r, rest) := rfl

/-- The header of a section opens its table. -/
theorem line_header {r : Reader} {name : String} (h : IsBareKey name) {root : Draft}
    (hopen : Draft.openTable [] name r.root = some root) (fuel : Nat) (rest : List Char) :
    r.line fuel ('[' :: (name.toList ++ ']' :: '\n' :: rest)) = some (⟨root, [name]⟩, rest) := by
  obtain ⟨c, cs, hchars, hc⟩ := exists_cons_of_isBareKey h
  have hkey : key? (name.toList ++ ([] ++ ']' :: '\n' :: rest)) =
      some ([name], ']' :: '\n' :: rest) :=
    key?_of_isBareKey h (by simp) ⟨by decide, by decide, by decide, by decide⟩ (by decide)
      (by decide)
  rw [List.nil_append] at hkey
  have hspace : dropSpace ('[' :: (name.toList ++ ']' :: '\n' :: rest)) =
      '[' :: (name.toList ++ ']' :: '\n' :: rest) := rfl
  rw [Reader.line, hspace]
  split
  · next heq =>
    rw [hchars] at heq
    exact absurd (List.cons.inj (List.cons.inj heq).2).1 (of_isKeyChar hc).2.2.2
  · next heq =>
    obtain rfl := (List.cons.inj heq).2
    rw [hkey]
    simp [splitKey, hopen, lineEnd?_feed]
  · next heq => cases heq
  · next hne _ => exact absurd rfl (hne _)

/-- A line with a key and a value enters the value. -/
theorem line_field {r r' : Reader} {key text : String} {v : Toml} (h : IsBareKey key)
    (hspells : Spells text v) (henter : r.enter [key] v = some r') {fuel : Nat}
    (hfuel : text.toList.length < fuel) (rest : List Char) :
    r.line fuel (key.toList ++ ' ' :: '=' :: ' ' :: (text.toList ++ '\n' :: rest)) =
      some (r', rest) := by
  obtain ⟨c, cs, hchars, hc⟩ := exists_cons_of_isBareKey h
  obtain ⟨hsolid, -, -, hbracket⟩ := of_isKeyChar hc
  generalize hbehind : ' ' :: (text.toList ++ '\n' :: rest) = behind
  have hkey : key? (key.toList ++ ([' '] ++ '=' :: behind)) = some ([key], '=' :: behind) :=
    key?_of_isBareKey h (by simp [isSpace]) ⟨by decide, by decide, by decide, by decide⟩
      (by decide) (by decide)
  have hvalue : value? fuel nesting (dropSpace behind) = some (v, '\n' :: rest) := by
    have hspace : dropSpace behind = text.toList ++ '\n' :: rest := by
      rw [← hbehind, dropSpace, List.dropWhile_cons_of_pos rfl]
      cases htext : text.toList with
      | nil => simp [isSpace]
      | cons d ds => simp [hspells.unspaced d (by simp [htext])]
    rw [hspace]
    exact hspells.value rest hfuel
  rw [List.singleton_append] at hkey
  have hspace : dropSpace (key.toList ++ ' ' :: '=' :: behind) =
      key.toList ++ ' ' :: '=' :: behind := by
    rw [hchars, List.cons_append, dropSpace, List.dropWhile_cons_of_neg]
    simp [hsolid.1]
  have hend : lineEnd? (key.toList ++ ' ' :: '=' :: behind) = none := by
    rw [hchars]
    exact lineEnd?_of_isSolid hsolid _
  rw [Reader.line, hspace]
  split
  · next heq => exact absurd (by simpa [hchars] using (congrArg List.head? heq)) hbracket
  · next heq => exact absurd (by simpa [hchars] using (congrArg List.head? heq)) hbracket
  · next heq => simp at heq
  · rw [hend, hkey]
    simp [hvalue, henter, lineEnd?_feed]

/-! ## Texts of several lines -/

/-- The text takes the reader from one state to another, whatever follows it. -/
def Reads (text : String) (r r' : Reader) : Prop :=
  ∃ lines ≤ text.toList.length, ∀ (fuel : Nat) (rest : List Char),
    Reader.lines (fuel + lines) r (text.toList ++ rest) = Reader.lines fuel r' rest

theorem reads_empty (r : Reader) : Reads "" r r :=
  ⟨0, Nat.le_refl 0, fun _ _ => rfl⟩

theorem Reads.append {a b : String} {r r' r'' : Reader} (ha : Reads a r r') (hb : Reads b r' r'') :
    Reads (a ++ b) r r'' := by
  obtain ⟨m, hm, ha⟩ := ha
  obtain ⟨n, hn, hb⟩ := hb
  refine ⟨n + m, ?_, fun fuel rest => ?_⟩
  · rw [String.toList_append, List.length_append]
    omega
  · rw [String.toList_append, List.append_assoc, ← Nat.add_assoc, ha, hb]

theorem reads_line {text : String} {r r' : Reader} (hne : text.toList ≠ [])
    (h : ∀ (fuel : Nat) (rest : List Char), text.toList.length < fuel →
      r.line fuel (text.toList ++ rest) = some (r', rest)) : Reads text r r' := by
  refine ⟨1, List.length_pos_iff.2 hne, fun fuel rest => ?_⟩
  rw [Reader.lines, h _ rest (by rw [List.length_append]; omega)]
  simp [hne]

/-- A text that is read to its end holds the finished fields of the root. -/
theorem parse?_of_reads {text : String} {r : Reader}
    (hstart : ∀ c, text.toList.head? = some c → c.toNat ≠ 0xFEFF)
    (h : Reads text ⟨.empty, []⟩ r) : parse? text = some r.root.finish := by
  obtain ⟨lines, hlines, hread⟩ := h
  have hall : Reader.lines (text.toList.length + 1) ⟨.empty, []⟩ text.toList = some r := by
    have := hread (text.toList.length + 1 - lines) []
    rw [List.append_nil, Nat.sub_add_cancel (by omega)] at this
    rw [this]
    cases text.toList.length + 1 - lines <;> rfl
  unfold parse?
  cases htext : text.toList with
  | nil =>
    rw [htext] at hall
    simp only [hall, Option.map_some]
  | cons c rest =>
    rw [htext] at hall
    simp only [if_neg (hstart c (by simp [htext])), hall, Option.map_some]

/-! ## Sections -/

/-- A table with values. -/
def Draft.ofFields (fields : List (String × Toml)) : Draft :=
  .mk false false (fields.map fun x => (x.1, .value x.2))

/-- A root with tables of values. -/
def Draft.ofSections (sections : List (String × List (String × Toml))) : Draft :=
  .mk false false (sections.map fun x => (x.1, .table (.ofFields x.2)))

theorem Draft.finish_ofFields (fields : List (String × Toml)) :
    (Draft.ofFields fields).finish = fields := by
  unfold Draft.ofFields
  rw [Draft.finish]
  induction fields with
  | nil => rw [List.map_nil, Draft.finishItems]
  | cons x fields ih => rw [List.map_cons, Draft.finishItems, ih, Draft.finishItem]

theorem Draft.finish_ofSections (sections : List (String × List (String × Toml))) :
    (Draft.ofSections sections).finish = sections.map fun x => (x.1, .table x.2) := by
  unfold Draft.ofSections
  rw [Draft.finish]
  induction sections with
  | nil => rw [List.map_nil, Draft.finishItems, List.map_nil]
  | cons x sections ih =>
    rw [List.map_cons, Draft.finishItems, ih, Draft.finishItem, Draft.finish_ofFields,
      List.map_cons]

/-- A field as it is written: its key, the text of its value, and the value. -/
structure Entry where
  key : String
  text : String
  value : Toml

namespace Entry

/-- The line of the field. -/
def line (e : Entry) : String :=
  fieldText e.key e.text

/-- The field that is read. -/
def field (e : Entry) : String × Toml :=
  (e.key, e.value)

/-- The key can stand bare, and the text is read as the value. -/
structure IsWritten (e : Entry) : Prop where
  key : IsBareKey e.key
  value : Spells e.text e.value

end Entry

section

variable {done : List (String × List (String × Toml))} {name : String}

theorem keys_ofSections (done : List (String × List (String × Toml))) :
    (done.map fun x => (x.1, Item.table (.ofFields x.2))).map (·.1) = done.map (·.1) := by
  rw [List.map_map]
  rfl

/-- A section with a new name is opened at the end. -/
theorem openTable_ofSections (h : name ∉ done.map (·.1)) :
    Draft.openTable [] name (.ofSections done) = some (.ofSections (done ++ [(name, [])])) := by
  rw [← keys_ofSections] at h
  have hnone := Keyed.lookup_eq_none h
  rw [Draft.openTable, Draft.change]
  simp only [Draft.ofSections, Draft.items, hnone, Draft.set, Keyed.set_of_not_mem h]
  simp [Draft.ofFields, Draft.empty]

/-- A value with a new key is entered at the end of a table. -/
theorem enter_ofFields {fields : List (String × Toml)} {key : String}
    (h : key ∉ fields.map (·.1)) (v : Toml) :
    Draft.enter [] key v (.ofFields fields) = some (.ofFields (fields ++ [(key, v)])) := by
  have hkeys : key ∉ (fields.map fun x => (x.1, Item.value x.2)).map (·.1) := by
    rw [List.map_map]
    exact h
  rw [Draft.enter, Draft.change]
  simp [Draft.ofFields, Draft.items, Keyed.lookup_eq_none hkeys, Draft.set,
    Keyed.set_of_not_mem hkeys]

/-- A field with a new key is entered at the end of the open section. -/
theorem enter_ofSections (h : name ∉ done.map (·.1)) {fields : List (String × Toml)}
    {key : String} (hkey : key ∉ fields.map (·.1)) (v : Toml) :
    Reader.enter ⟨.ofSections (done ++ [(name, fields)]), [name]⟩ [key] v =
      some ⟨.ofSections (done ++ [(name, fields ++ [(key, v)])]), [name]⟩ := by
  rw [← keys_ofSections] at h
  have hitems : (Draft.ofSections (done ++ [(name, fields)])).items =
      (done.map fun x => (x.1, Item.table (.ofFields x.2))) ++
        [(name, .table (.ofFields fields))] := by
    simp [Draft.ofSections, Draft.items]
  have hset : (Draft.ofSections (done ++ [(name, fields)])).set name
      (.table (.ofFields (fields ++ [(key, v)]))) =
        .ofSections (done ++ [(name, fields ++ [(key, v)])]) := by
    simp only [Draft.ofSections, List.map_append, List.map_cons, List.map_nil, Draft.set,
      Keyed.set_concat h]
  have hlookup := Keyed.lookup_concat h (Item.table (.ofFields fields))
  rw [Reader.enter]
  simp only [splitKey, List.dropLast_singleton, List.getLastD_cons, List.getLastD_nil, Draft.change,
    hitems, hlookup, enter_ofFields hkey, Bool.false_and, Bool.false_eq_true, if_false,
    Option.map_some, hset]

/-- The lines of an open section enter its fields. -/
theorem reads_entries (h : name ∉ done.map (·.1)) : ∀ (entries : List Entry)
    (fields : List (String × Toml)), (∀ e ∈ entries, e.IsWritten) →
      (fields.map (·.1) ++ entries.map (·.key)).Nodup →
      Reads (String.join (entries.map Entry.line))
        ⟨.ofSections (done ++ [(name, fields)]), [name]⟩
        ⟨.ofSections (done ++ [(name, fields ++ entries.map Entry.field)]), [name]⟩
  | [], fields, _, _ => by simpa using reads_empty _
  | e :: entries, fields, hwritten, hkeys => by
    rw [List.forall_mem_cons] at hwritten
    have hnew : e.key ∉ fields.map (·.1) := fun hmem =>
      (List.nodup_append.1 hkeys).2.2 _ hmem _ (by simp) rfl
    have hline : Reads e.line ⟨.ofSections (done ++ [(name, fields)]), [name]⟩
        ⟨.ofSections (done ++ [(name, fields ++ [e.field])]), [name]⟩ := by
      have htext : e.line.toList =
          e.key.toList ++ ' ' :: '=' :: ' ' :: (e.text.toList ++ ['\n']) := by
        simp [Entry.line, fieldText]
      refine reads_line (by simp [htext]) fun fuel rest hfuel => ?_
      rw [htext] at hfuel ⊢
      have hshort : e.text.toList.length < fuel := by
        simp only [List.length_append, List.length_cons] at hfuel
        omega
      simpa [Entry.field] using line_field hwritten.1.key hwritten.1.value
        (enter_ofSections h hnew e.value) hshort rest
    have ih := reads_entries h entries (fields ++ [e.field]) hwritten.2 (by
      simpa [Entry.field] using hkeys)
    rw [List.append_assoc, List.singleton_append] at ih
    rw [List.map_cons, String.join_cons]
    exact hline.append ih

end

/-- A section as it is written. -/
structure Section where
  name : String
  entries : List Entry

namespace Section

/-- The header and the lines of the section. -/
def text (s : Section) : String :=
  sectionText s.name (s.entries.map Entry.line)

/-- The table that is read. -/
def fields (s : Section) : String × List (String × Toml) :=
  (s.name, s.entries.map Entry.field)

/-- The name can stand bare, and there are fields under different keys. -/
structure IsWritten (s : Section) : Prop where
  name : IsBareKey s.name
  keys : (s.entries.map (·.key)).Nodup
  entries : ∀ e ∈ s.entries, e.IsWritten

end Section

/-- A section with a new name is read to its end. -/
theorem reads_section {done : List (String × List (String × Toml))} {s : Section}
    (h : s.name ∉ done.map (·.1)) (hwritten : s.IsWritten) (path : List String) :
    Reads s.text ⟨.ofSections done, path⟩ ⟨.ofSections (done ++ [s.fields]), [s.name]⟩ := by
  have hheader : Reads ("[" ++ s.name ++ "]\n") ⟨.ofSections done, path⟩
      ⟨.ofSections (done ++ [(s.name, [])]), [s.name]⟩ := by
    refine reads_line (by simp) fun fuel rest _ => ?_
    simpa using line_header hwritten.name (openTable_ofSections h) fuel rest
  have hfields := reads_entries h s.entries [] hwritten.entries (by simpa using hwritten.keys)
  rw [List.nil_append] at hfields
  exact hheader.append hfields

/-- Sections with new names are read one after the other. -/
theorem reads_sections : ∀ (sections : List Section)
    (done : List (String × List (String × Toml))) (path : List String),
      (done.map (·.1) ++ sections.map (·.name)).Nodup → (∀ s ∈ sections, s.IsWritten) →
      ∃ path', Reads ("\n".intercalate (sections.map Section.text)) ⟨.ofSections done, path⟩
        ⟨.ofSections (done ++ sections.map Section.fields), path'⟩
  | [], done, path, _, _ => ⟨path, by simpa using reads_empty _⟩
  | s :: sections, done, path, hnames, hwritten => by
    rw [List.forall_mem_cons] at hwritten
    have hnew : s.name ∉ done.map (·.1) := fun hmem =>
      (List.nodup_append.1 hnames).2.2 _ hmem _ (by simp) rfl
    have hsection := reads_section hnew hwritten.1 path
    cases sections with
    | nil => exact ⟨[s.name], by simpa using hsection⟩
    | cons next sections =>
      obtain ⟨path', ih⟩ := reads_sections (next :: sections) (done ++ [s.fields]) [s.name]
        (by simpa [Section.fields] using hnames) hwritten.2
      rw [List.append_assoc, List.singleton_append] at ih
      have hblank : Reads "\n" ⟨.ofSections (done ++ [s.fields]), [s.name]⟩
          ⟨.ofSections (done ++ [s.fields]), [s.name]⟩ :=
        reads_line (by decide) fun fuel rest _ => line_feed _ fuel rest
      refine ⟨path', ?_⟩
      rw [List.map_cons, List.map_cons, String.intercalate_cons_cons]
      exact (hsection.append hblank).append ih

/-- A text of sections with different names is read as the table of their tables. -/
theorem parse?_sections {sections : List Section} (hnames : (sections.map (·.name)).Nodup)
    (hwritten : ∀ s ∈ sections, s.IsWritten) :
    parse? ("\n".intercalate (sections.map Section.text)) =
      some (sections.map fun s => (s.name, .table (s.entries.map Entry.field))) := by
  obtain ⟨path, hreads⟩ := reads_sections sections [] [] (by simpa using hnames) hwritten
  rw [parse?_of_reads ?_ hreads, List.nil_append, Draft.finish_ofSections, List.map_map]
  · rfl
  · intro c hc
    cases sections with
    | nil => simp at hc
    | cons s sections =>
      obtain rfl : '[' = c := by
        cases sections <;> simpa [Section.text, sectionText] using hc
      decide

end Toml

end ZigReflect
