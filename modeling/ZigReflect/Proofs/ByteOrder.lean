import Mathlib.Data.String.Basic

/-!
# Texts in the order of their bytes

Texts are compared character by character. Their encoding keeps this order: of two different
characters the lesser one has the lesser byte at the first place where their bytes differ, and
no character is encoded as the beginning of another one (`utf8EncodeChar_append_lt`). So texts
are in the order of their bytes (`lt_iff_bytes_lt`).
-/

namespace ZigReflect.Text

/-- The bytes of a text in UTF-8. -/
def bytes (s : String) : List UInt8 :=
  s.toUTF8.data.toList

theorem bytes_eq_flatMap (s : String) : bytes s = s.toList.flatMap String.utf8EncodeChar := by
  rw [bytes, String.toUTF8, ← String.utf8Encode_toList, List.utf8Encode]
  simp

/-- Whatever follows, the bytes of a lesser character come first: behind the mark of its length an
encoding holds digits in base 64, and a longer one has the greater mark. -/
theorem utf8EncodeChar_append_lt {c d : Char} (h : c < d) (xs ys : List UInt8) :
    String.utf8EncodeChar c ++ xs < String.utf8EncodeChar d ++ ys := by
  have hlt : c.val.toNat < d.val.toNat := h
  have hd : d.val.toNat < 0x110000 := by
    rcases d.valid with h | h <;> omega
  have hdiv : ∀ n, n / 4096 = n / 64 / 64 ∧ n / 262144 = n / 64 / 64 / 64 := fun n => by
    simp [Nat.div_div_eq_div_mul]
  unfold String.utf8EncodeChar
  generalize c.val.toNat = v, d.val.toNat = w at hlt hd
  dsimp only
  split_ifs
  all_goals
    simp only [List.cons_append, List.nil_append, List.cons_lt_cons_iff, UInt8.lt_iff_toNat_lt,
      ← UInt8.toNat_inj, UInt8.toNat_ofNat', hdiv]
    omega

theorem flatMap_utf8EncodeChar_lt : ∀ {cs ds : List Char}, cs < ds →
    cs.flatMap String.utf8EncodeChar < ds.flatMap String.utf8EncodeChar
  | _, [], h => (List.not_lt_nil _ h).elim
  | [], d :: ds, _ => by
    cases hd : String.utf8EncodeChar d with
    | nil => simp at hd
    | cons x xs => simp [hd]
  | c :: cs, d :: ds, h => by
    rw [List.flatMap_cons, List.flatMap_cons]
    rcases List.cons_lt_cons_iff.1 h with hcd | ⟨rfl, hrest⟩
    · exact utf8EncodeChar_append_lt hcd _ _
    · exact List.append_left_lt (flatMap_utf8EncodeChar_lt hrest)

theorem bytes_lt_of_lt {a b : String} (h : a < b) : bytes a < bytes b := by
  rw [bytes_eq_flatMap, bytes_eq_flatMap]
  exact flatMap_utf8EncodeChar_lt (String.lt_iff.1 h)

/-- Texts are in the order of their bytes. -/
theorem lt_iff_bytes_lt {a b : String} : a < b ↔ bytes a < bytes b := by
  refine ⟨bytes_lt_of_lt, fun h => ?_⟩
  by_contra hnot
  rcases (not_lt.1 hnot).eq_or_lt with rfl | hba
  · exact List.lt_irrefl _ h
  · exact List.lt_asymm h (bytes_lt_of_lt hba)

end ZigReflect.Text
