import ZigReflect.Proofs.StringValues
import ZigReflect.Proofs.UnionMembers

/-!
# Identifiers and keywords

An identifier is a quoted name, or a bare word that is no keyword (`Zig.isLegalIdentifier`). A
few words are reserved and written in quotes, and most keywords are not among them
(`Zig.bareKeywords`). The identifier of a name is legal if and only if the name is none of these
(`Zig.isLegalIdentifier_identifier_iff`).

A case of a tagged union is named after its member. No keyword ends in a digit, so the label of a
repeat is always legal. The labels of a union are all legal if and only if no member has a keyword
that is written bare as its name, and none is a union: that shape is itself such a keyword
(`legal_identifiers_iff`).
-/

namespace ZigReflect

namespace Zig

open Text

/-- The words that may not stand bare as a name. -/
def keywords : List String :=
  ["addrspace", "align", "allowzero", "and", "anyframe", "anytype", "asm", "async", "await",
    "break", "callconv", "catch", "comptime", "const", "continue", "defer", "else", "enum",
    "errdefer", "error", "export", "extern", "fn", "for", "if", "inline", "linksection", "noalias",
    "noinline", "nosuspend", "opaque", "or", "orelse", "packed", "pub", "resume", "return",
    "struct", "suspend", "switch", "test", "threadlocal", "try", "union", "unreachable",
    "usingnamespace", "var", "volatile", "while"]

/-- Whether the text is an identifier: a quoted name, or a bare word that is no keyword. -/
def isLegalIdentifier (text : String) : Bool :=
  match text.toList with
  | '@' :: token => (stringValue? token).isSome
  | word => isBareWord word && !keywords.contains text

/-- The keywords that are not reserved, so that they are written bare. -/
def bareKeywords : List String :=
  keywords.filter fun word => !reserved.contains word

theorem needsQuotes_of_mem_bareKeywords :
    ∀ word ∈ bareKeywords, needsQuotes word = false := by
  decide +kernel

/-- A keyword ends in a letter. -/
theorem last_of_mem_keywords {word : String} (h : word ∈ keywords) :
    word.toList.getLast?.any isDigit = false := by
  have hall : keywords.all (fun word => !word.toList.getLast?.any isDigit) = true := by
    decide +kernel
  simpa using List.all_eq_true.1 hall word h

theorem isLegalIdentifier_of_isBareWord {word : String} (h : isBareWord word.toList = true) :
    isLegalIdentifier word = true ↔ word ∉ keywords := by
  unfold isLegalIdentifier
  split
  · next token htoken => simp [htoken, isBareWord, isDigit, isWordAscii, isLetter] at h
  · simp [h]

/-- The identifier of a name is legal if and only if the name is no keyword that is written
bare. -/
theorem isLegalIdentifier_identifier_iff {name : String} :
    isLegalIdentifier (identifier name) = true ↔ name ∉ bareKeywords := by
  cases hquotes : needsQuotes name with
  | true =>
    have hbare : name ∉ bareKeywords := fun h => by
      simp [needsQuotes_of_mem_bareKeywords name h] at hquotes
    have hlegal : isLegalIdentifier (identifier name) = true := by
      rw [identifier, if_pos hquotes, isLegalIdentifier, String.toList_append]
      exact Option.isSome_iff_exists.2 ⟨_, stringValue?_stringLiteral name⟩
    exact iff_of_true hlegal hbare
  | false =>
    rw [identifier, if_neg (by simp [hquotes])]
    simp only [needsQuotes, Bool.or_eq_false_iff, Bool.not_eq_false'] at hquotes
    rw [isLegalIdentifier_of_isBareWord hquotes.2, bareKeywords, List.mem_filter, hquotes.1]
    simp

end Zig

namespace Lowering

open Text Zig Emission

/-- A name with a number behind it is no keyword. -/
theorem numbered_not_mem_keywords (base : String) {n : Nat} (hn : n ≠ 0) :
    numbered base n ∉ keywords := by
  intro hmem
  have hdigits : Nat.toDigits 10 n ≠ [] := Nat.toDigits_ne_nil
  obtain ⟨last, hlast⟩ := Option.ne_none_iff_exists'.1 (List.getLast?_eq_none_iff.not.2 hdigits)
  have hdigit : isDigit last = true := by
    have h := Nat.isDigit_of_mem_toDigits (by decide) (by decide) (List.mem_of_getLast? hlast)
    simpa [isDigit, Char.isDigit, Char.le_def] using h
  have hend : (numbered base n).toList.getLast? = some last := by
    rw [numbered, if_neg hn, String.toList_append, toList_toString,
      List.getLast?_append_of_ne_nil _ hdigits, hlast]
  have hletter := last_of_mem_keywords hmem
  rw [hend, Option.any_some, hdigit] at hletter
  cases hletter

theorem isLegalIdentifier_numbered_iff {base : String} {n : Nat} :
    isLegalIdentifier (identifier (numbered base n)) = true ↔ (base ∈ bareKeywords → n ≠ 0) := by
  rw [isLegalIdentifier_identifier_iff]
  by_cases hn : n = 0
  · simp [numbered, hn]
  · have hkeyword := numbered_not_mem_keywords base hn
    exact iff_of_true (fun h => hkeyword (List.mem_filter.1 h).1) fun _ => hn

/-- The label of a case is legal unless its member is the first of its name, and that name is a
keyword that is written bare. -/
theorem isLegalIdentifier_caseLabel_iff {types : List TypeNode} {i : Nat} {t : TypeNode} :
    isLegalIdentifier (caseLabel types i t) = true ↔
      (baseName t ∈ bareKeywords → baseName t ∈ (types.take i).map baseName) := by
  rw [caseLabel, isLegalIdentifier_numbered_iff, ← Nat.pos_iff_ne_zero, List.count_pos_iff]

/-- The labels of all cases are legal if and only if no member has the name of a keyword that is
written bare: the first member of a name has no number behind it. -/
theorem isLegalIdentifier_labels_iff {types : List TypeNode} :
    (∀ label ∈ types.mapIdx (caseLabel types), isLegalIdentifier label = true) ↔
      ∀ t ∈ types, baseName t ∉ bareKeywords := by
  rw [← map_caseNames, caseNames, caseNamesAfter_eq, List.map_map]
  simp only [List.forall_mem_map, Function.comp_apply, isLegalIdentifier_numbered_iff]
  constructor
  · intro hlegal t ht hkeyword
    refine hlegal (baseName t, 0) (mem_occurrences.2 ?_) hkeyword rfl
    simpa [List.count_pos_iff] using ⟨t, ht, rfl⟩
  · rintro hbases ⟨base, n⟩ ho hkeyword
    have hcount := (mem_occurrences.1 ho).2
    rw [List.count_nil, Nat.zero_add] at hcount
    obtain ⟨t, ht, rfl⟩ := List.mem_map.1 (List.count_pos_iff.1 (Nat.zero_lt_of_lt hcount))
    exact (hbases t ht hkeyword).elim

/-- The only shape whose name is a keyword is that of a union. -/
theorem shapeName_mem_bareKeywords_iff {t : TypeNode} :
    t.shapeName ∈ bareKeywords ↔ ∃ members, t = .union members := by
  cases t with
  | union members =>
    have hunion : "union" ∈ bareKeywords := by decide +kernel
    exact iff_of_true hunion ⟨members, rfl⟩
  | _ =>
    refine iff_of_false ?_ (by rintro ⟨_, ⟨⟩⟩)
    rw [TypeNode.shapeName]
    decide +kernel

theorem baseName_mem_bareKeywords_iff {t : TypeNode} :
    baseName t ∈ bareKeywords ↔
      (∃ members, t = .union members) ∨ ∃ name, t.ownName = some name ∧ name ∈ bareKeywords := by
  rw [baseName]
  cases hname : t.ownName with
  | none => simp [shapeName_mem_bareKeywords_iff]
  | some name =>
    have hshape : ¬∃ members, t = .union members := by
      rintro ⟨_, rfl⟩
      cases hname
    simp [hshape]

end Lowering

namespace Pair

open Lowering Zig

/-- A union that is neither an enum nor one optional type is written with a label for each member
other than null. -/
theorem text_of_tagged {pair : Pair} {e : Emitter} {members : List TypeNode}
    (hmixed : ¬IsLiteralUnion members)
    (hseveral : HasNull members → 2 ≤ (withoutNull members).length)
    (hok : ((pair.emitType (.union members)).on e).1 = .ok ()) :
    ∃ payloads, payloads.length = (withoutNull members).length ∧
      ((pair.emitType (.union members)).on e).2.text = e.text ++ (optionalMarker members ++
        taggedUnionText ((withoutNull members).mapIdx (caseLabel (withoutNull members)))
          payloads) := by
  obtain ⟨text, htext, -⟩ := Emission.yields_of_ok (pair.framed_emitType _) hok
  rw [htext]
  cases (union_written_iff pair e members text).1 ⟨hok, htext⟩ with
  | enum literals => exact (hmixed (eq_map_literal_iff.1 literals).1).elim
  | void _ null nothing =>
    have htwo := hseveral null
    simp [nothing] at htwo
  | optional _ null single =>
    have htwo := hseveral null
    simp [single] at htwo
  | @tagged payloads _ _ written => exact ⟨payloads, written.length_eq.symm, rfl⟩

/-- The identifier of a name is a legal one if and only if the name is no keyword that is written
bare. So is the label of a case, except that a repeat of such a name has a number and is legal.
The labels of a tagged union are those of its members other than null, in their order. They are
all legal if and only if no such member is a union or has a keyword that is written bare as its
name. -/
theorem legal_identifiers_iff (pair : Pair) (e : Emitter) (members : List TypeNode) :
    (∀ name, isLegalIdentifier (identifier name) = true ↔ name ∉ bareKeywords) ∧
    (∀ types i t, isLegalIdentifier (caseLabel types i t) = true ↔
      (baseName t ∈ bareKeywords → baseName t ∈ (types.take i).map baseName)) ∧
    (¬IsLiteralUnion members → (HasNull members → 2 ≤ (withoutNull members).length) →
      ((pair.emitType (.union members)).on e).1 = .ok () →
      let types := withoutNull members
      let labels := types.mapIdx (caseLabel types)
      (∃ payloads, payloads.length = types.length ∧
        ((pair.emitType (.union members)).on e).2.text =
          e.text ++ (optionalMarker members ++ taggedUnionText labels payloads)) ∧
      ((∀ label ∈ labels, isLegalIdentifier label = true) ↔
        ∀ t ∈ types, (∀ inner, t ≠ .union inner) ∧
          ∀ name, t.ownName = some name → name ∉ bareKeywords)) := by
  refine ⟨fun _ => isLegalIdentifier_identifier_iff, fun _ _ _ => isLegalIdentifier_caseLabel_iff,
    fun hmixed hseveral hok => ⟨text_of_tagged hmixed hseveral hok, ?_⟩⟩
  rw [isLegalIdentifier_labels_iff]
  refine forall₂_congr fun t _ => ?_
  rw [baseName_mem_bareKeywords_iff, not_or, not_exists, not_exists]
  simp only [not_and]

/-- A reserved name, a repeat and the name of a shape are all legal. -/
theorem legal_identifiers_iff_repeat :
    let members : List TypeNode :=
      [.reference "error" [], .array (.reference "a" []), .intrinsic "null",
        .reference "error" []]
    let pair : Pair := ⟨.ofRoot { id := 0, name := "t" }, .ofRoot { id := 0, name := "p" }⟩
    let types := withoutNull members
    types.mapIdx (caseLabel types) = ["@\"error\"", "array", "error1"] ∧
      (∀ label ∈ types.mapIdx (caseLabel types), isLegalIdentifier label = true) ∧
      ∃ payloads, payloads.length = 3 ∧
        ((pair.emitType (.union members)).on (.fresh .types)).2.text =
          "" ++ ("?" ++ taggedUnionText (types.mapIdx (caseLabel types)) payloads) := by
  intro members pair types
  have hmixed : ¬IsLiteralUnion members := fun h => Bool.false_ne_true (h _ List.mem_cons_self)
  have htypes : types =
    [.reference "error" [], .array (.reference "a" []), .reference "error" []] := rfl
  have herror : "error" ∉ bareKeywords := by decide +kernel
  obtain ⟨hpayloads, hlegal⟩ := (legal_identifiers_iff pair (.fresh .types) members).2.2 hmixed
    (fun _ => by decide) rfl
  refine ⟨by decide +kernel, hlegal.2 ?_, hpayloads⟩
  rw [← show types = withoutNull members from rfl, htypes]
  simp [TypeNode.ownName, herror]

/-- The word `fn` is written bare, and a union in a union has a keyword as its label. -/
theorem keywords_written_bare :
    let inner := TypeNode.union [.reference "B" [], .reference "C" []]
    let pair : Pair := ⟨.ofRoot { id := 0, name := "t" }, .ofRoot { id := 0, name := "p" }⟩
    identifier "fn" = "fn" ∧ isLegalIdentifier (identifier "fn") = false ∧
      ((pair.emitType (.union [.reference "A" [], inner])).alone .types).text =
        "union(enum) \x7b A: A, union: union(enum) \x7b B: B, C: C \x7d \x7d" ∧
      isLegalIdentifier "union" = false := by
  decide +kernel

end Pair

end ZigReflect
