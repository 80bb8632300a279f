import Mathlib.Data.List.Induction
import Mathlib.Data.List.Nodup
import Std.Data.String.ToInt
import ZigReflect.Lowering.TypeRules
import ZigReflect.Proofs.Spelling

/-!
# When the labels of cases are distinct

A case of a tagged union is named after its member, and a name that has occurred before gets
the number of its earlier occurrences as suffix. `numbered` is that name, and the pairs of a
name and a number in one union are all different (`nodup_occurrences`). Two different pairs can
still have one spelling: `a` with the number 1 is spelled as the member `a1`. The labels of a
union are distinct if and only if no member is named so (`nodup_caseNames_iff`). Longer numbers
bring in nothing new: where `a11` has two readings, `a1` is the name of a member and of a repeat.

The case of an enum is named after the text of its literal, so literals of different types can
share a label (`case_labels_collide`).
-/

namespace ZigReflect

open Lowering

/-! ## Numbers at the end of a name -/

/-- The first digits of a number are those of a smaller number. -/
theorem exists_toDigits_of_append {first rest : List Char} (hfirst : first ≠ []) :
    ∀ {n : Nat}, 0 < n → Nat.toDigits 10 n = first ++ rest →
      ∃ q, 0 < q ∧ q ≤ n ∧ (rest ≠ [] → q < n) ∧ Nat.toDigits 10 q = first := by
  induction rest using List.reverseRecOn with
  | nil =>
    intro n hn hdigits
    exact ⟨n, hn, Nat.le_refl n, fun h => (h rfl).elim, by simpa using hdigits⟩
  | append_singleton rest last ih =>
    intro n hn hdigits
    rw [Nat.toDigits_eq_if (by omega)] at hdigits
    split at hdigits
    · have hlength := congrArg List.length hdigits
      have hpos := List.length_pos_iff.2 hfirst
      simp only [List.length_append, List.length_singleton] at hlength
      omega
    · next hge =>
      rw [← List.append_assoc] at hdigits
      obtain ⟨hinit, -⟩ := List.append_inj' hdigits rfl
      obtain ⟨q, hq, hle, -, hdigits⟩ := ih (by omega) hinit
      exact ⟨q, hq, by omega, fun _ => by omega, hdigits⟩

theorem toList_toString (n : Nat) : (toString n).toList = Nat.toDigits 10 n := by
  simp

/-- If a name with a number has a second reading with a longer name, that name is the first one
with a smaller number. -/
theorem numbers_at_end {a b : String} {n k : Nat} (hn : 0 < n)
    (h : a ++ toString n = b ++ toString k) (hlength : a.toList.length ≤ b.toList.length) :
    (a = b ∧ n = k) ∨ ∃ q, 0 < q ∧ q < n ∧ a ++ toString q = b := by
  have hchars := congrArg String.toList h
  rw [String.toList_append, String.toList_append] at hchars
  obtain ⟨middle, hb, hdigits⟩ : ∃ middle, b.toList = a.toList ++ middle ∧
      (toString n).toList = middle ++ (toString k).toList := by
    rcases List.append_eq_append_iff.1 hchars with h | ⟨middle, ha, hdigits⟩
    · exact h
    · obtain rfl : middle = [] := by
        rw [ha, List.length_append] at hlength
        exact List.eq_nil_of_length_eq_zero (by omega)
      exact ⟨[], by simpa using ha.symm, by simpa using hdigits.symm⟩
  cases middle with
  | nil =>
    rw [List.append_nil] at hb
    exact .inl ⟨(String.toList_inj.1 hb).symm, Nat.repr_inj.1 (String.toList_inj.1 hdigits)⟩
  | cons c middle =>
    rw [toList_toString] at hdigits
    obtain ⟨q, hq, -, hlt, hfirst⟩ := exists_toDigits_of_append (by simp) hn hdigits
    refine .inr ⟨q, hq, hlt (by simp [Nat.toDigits_ne_nil]), ?_⟩
    rw [← String.toList_inj, String.toList_append, toList_toString, hfirst, hb]

namespace Lowering

/-- A name with the number of its earlier occurrences, unless there are none. -/
def numbered (name : String) (n : Nat) : String :=
  if n = 0 then name else name ++ toString n

/-- The names of a list, each with the number of its earlier occurrences. The names in `before`
stand in front of the list. -/
def occurrences : List String → List String → List (String × Nat)
  | _, [] => []
  | before, base :: rest => (base, before.count base) :: occurrences (base :: before) rest

theorem caseNamesAfter_eq : ∀ before bases : List String,
    caseNamesAfter before bases = (occurrences before bases).map fun o => numbered o.1 o.2
  | _, [] => rfl
  | before, base :: rest => by
    rw [caseNamesAfter, occurrences, List.map_cons, caseNamesAfter_eq (base :: before) rest]
    rfl

theorem mem_occurrences {base : String} {n : Nat} : ∀ {before bases : List String},
    (base, n) ∈ occurrences before bases ↔
      before.count base ≤ n ∧ n < before.count base + bases.count base
  | before, [] => by
    simp only [occurrences, List.not_mem_nil, List.count_nil, false_iff]
    omega
  | before, first :: rest => by
    rw [occurrences, List.mem_cons, mem_occurrences, Prod.mk.injEq, List.count_cons,
      List.count_cons]
    by_cases h : first = base
    · subst h
      simp only [beq_self_eq_true, if_true, true_and]
      omega
    · simp only [beq_iff_eq, h, if_false, Ne.symm h, false_and, false_or]
      omega

theorem nodup_occurrences : ∀ before bases : List String, (occurrences before bases).Nodup
  | _, [] => List.nodup_nil
  | before, base :: rest => by
    rw [occurrences, List.nodup_cons, mem_occurrences, List.count_cons_self]
    exact ⟨by omega, nodup_occurrences (base :: before) rest⟩

/-- No name is that of a repeat: a name that occurs several times with the number of one of its
later occurrences. -/
def NoRepeatIsNamed (bases : List String) : Prop :=
  ∀ base n, 0 < n → n < bases.count base → base ++ toString n ∉ bases

/-- Case names are distinct if and only if none of them is that of a repeat. Of two that are equal
the one with the shorter base is looked at first. -/
theorem nodup_caseNames_iff (members : List TypeNode) :
    (caseNames members).Nodup ↔ NoRepeatIsNamed (members.map baseName) := by
  unfold caseNames
  generalize members.map baseName = bases
  have hmem : ∀ {base n}, (base, n) ∈ occurrences [] bases ↔ n < bases.count base := by
    intro base n
    rw [mem_occurrences]
    simp
  rw [caseNamesAfter_eq, List.nodup_map_iff_inj_on (nodup_occurrences [] bases)]
  constructor
  · intro hinj base n hpos hn hnamed
    have heq := hinj (base, n) (hmem.2 hn) (base ++ toString n, 0)
      (hmem.2 (List.count_pos_iff.2 hnamed)) (by simp [numbered, Nat.ne_of_gt hpos])
    exact Nat.ne_of_gt hpos (Prod.mk.inj heq).2
  · intro hnamed
    have hshorter : ∀ {a b n k}, n < bases.count a → k < bases.count b →
        a.toList.length ≤ b.toList.length → numbered a n = numbered b k → a = b ∧ n = k := by
      intro a b n k ha hb hlength heq
      unfold numbered at heq
      split at heq
      · next hn =>
        subst hn
        split at heq
        · next hk => exact ⟨heq, hk.symm⟩
        · next hk =>
          exact (hnamed b k (Nat.pos_of_ne_zero hk) hb
            (heq ▸ List.count_pos_iff.1 ha)).elim
      · next hn =>
        have hpos := Nat.pos_of_ne_zero hn
        split at heq
        · exact (hnamed a n hpos ha (heq ▸ List.count_pos_iff.1 (Nat.zero_lt_of_lt hb))).elim
        · obtain h | ⟨q, hq, hlt, rfl⟩ := numbers_at_end hpos heq hlength
          · exact h
          · exact (hnamed a q hq (Nat.lt_trans hlt ha)
              (List.count_pos_iff.1 (Nat.zero_lt_of_lt hb))).elim
    rintro ⟨a, n⟩ ha ⟨b, k⟩ hb heq
    rw [hmem] at ha hb
    rcases Nat.le_total a.toList.length b.toList.length with hlength | hlength
    · obtain ⟨rfl, rfl⟩ := hshorter ha hb hlength heq
      rfl
    · obtain ⟨rfl, rfl⟩ := hshorter hb ha hlength heq.symm
      rfl

end Lowering

/-! ## Literals -/

/-- Different literals of one type have different texts. Doubles are left out. -/
theorem Literal.caseName_inj {a b : Literal} (htype : a.zigType = b.zigType)
    (hdouble : a.zigType ≠ "f64") (h : a.caseName = b.caseName) : a = b := by
  cases a with
  | null => cases b <;> simp_all [Literal.zigType]
  | bool a =>
    cases b with
    | bool b => cases a <;> cases b <;> simp_all [Literal.caseName]
    | _ => simp [Literal.zigType] at htype
  | integer a =>
    cases b with
    | integer b => exact congrArg Literal.integer (Int.repr_inj.1 h)
    | _ => simp [Literal.zigType] at htype
  | double d => exact (hdouble rfl).elim
  | string a =>
    cases b with
    | string b => exact congrArg Literal.string h
    | _ => simp [Literal.zigType] at htype

/-- Labels are distinct if and only if the names are. -/
theorem nodup_labels_iff {names : List String} : (names.map Zig.identifier).Nodup ↔ names.Nodup :=
  List.nodup_map_iff Zig.identifier_injective

/-- The labels of a tagged union are distinct if and only if no member is named as a repeat of
another one. The labels of an enum over different literals are distinct if and only if no two of
them that differ in type, or are both doubles, have one text. -/
theorem case_labels_nodup_iff (members : List TypeNode) (values : List Literal) :
    (((caseNames members).map Zig.identifier).Nodup ↔ NoRepeatIsNamed (members.map baseName)) ∧
    (values.Nodup → ((values.map fun v => Zig.identifier v.caseName).Nodup ↔
      ∀ a ∈ values, ∀ b ∈ values, a ≠ b → a.zigType ≠ b.zigType ∨ a.zigType = "f64" →
        a.caseName ≠ b.caseName)) := by
  refine ⟨nodup_labels_iff.trans (nodup_caseNames_iff members), fun hvalues => ?_⟩
  rw [show (values.map fun v => Zig.identifier v.caseName) =
    (values.map Literal.caseName).map Zig.identifier by simp, nodup_labels_iff,
    List.nodup_map_iff_inj_on hvalues]
  constructor
  · intro hinj a ha b hb hne _ heq
    exact hne (hinj a ha b hb heq)
  · intro hdiffer a ha b hb heq
    by_contra hne
    by_cases hkind : a.zigType ≠ b.zigType ∨ a.zigType = "f64"
    · exact hdiffer a ha b hb hne hkind heq
    · rw [not_or, not_not] at hkind
      exact hne (Literal.caseName_inj hkind.1 hkind.2 heq)

/-- Two members `a` and one `a1` have a label in common, and so have the literals 1 and `"1"`. -/
theorem case_labels_collide :
    (caseNames [.reference "a" [], .reference "a" [], .reference "a1" []]).map Zig.identifier =
      ["a", "a1", "a1"] ∧
    [Literal.integer 1, .string "1"].Nodup ∧
    [Literal.integer 1, .string "1"].map (fun v => Zig.identifier v.caseName) =
      ["@\"1\"", "@\"1\""] := by
  decide +kernel

end ZigReflect
