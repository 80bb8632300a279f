import ZigReflect.Proofs.Flattening
import ZigReflect.Proofs.Nullability

/-!
# Optional fields

A property with a type is written in one of three ways. A literal type makes it a constant that
holds the literal (`constantFieldText`). Any other type is the type of a field as it is written
alone, and an optional property wraps it and defaults to null (`fieldText`).

The shape of the type comes before the flag, so an optional property with a literal type is a
constant and is not wrapped (`optional_literal_bound`). Any other property is wrapped if and only
if it is optional, and no constant but that of null is null (`field_optionality`).
-/

namespace ZigReflect

open Lowering Emission

/-! ## Literals as values -/

theorem toDigits_head (n : Nat) :
    ∃ c cs, Nat.toDigits 10 n = c :: cs ∧ c.isDigit = true := by
  have hsome : Nat.toDigits 10 n ≠ [] := Nat.toDigits_ne_nil
  obtain ⟨c, cs, hcons⟩ := List.exists_cons_of_ne_nil hsome
  have hmem : c ∈ Nat.toDigits 10 n := by simp [hcons]
  exact ⟨c, cs, hcons, Nat.isDigit_of_mem_toDigits (by decide) (by decide) hmem⟩

/-- A decimal starts with a digit in every layout. -/
theorem Layout.renderDecimal_head (l : Layout) (x : Decimal) :
    ∃ c cs, (l.renderDecimal x).toList = c :: cs ∧ c.isDigit = true := by
  obtain ⟨first, more, hcons, hfirst⟩ := toDigits_head x.digits
  unfold renderDecimal
  rw [hcons]
  dsimp only
  split
  · split
    · exact ⟨first, _, by simp; rfl, hfirst⟩
    · split
      · have hwhole : 0 < (((first :: more).length : Int) + x.exponent).toNat := by omega
        obtain ⟨n, hn⟩ := Nat.exists_eq_add_one.2 hwhole
        exact ⟨first, _, by rw [hn]; simp; rfl, hfirst⟩
      · exact ⟨'0', _, by simp; rfl, by decide⟩
  · cases more with
    | nil => exact ⟨first, _, by simp; rfl, hfirst⟩
    | cons second rest => exact ⟨first, _, by simp; rfl, hfirst⟩

/-- A literal is spelled with at least one character, and starts as null does only if it is. -/
theorem Literal.render_head {value : Literal} (h : value ≠ .null) :
    ∃ c cs, value.render.toList = c :: cs ∧ c ≠ 'n' := by
  have hdigit : ∀ c : Char, c.isDigit = true → c ≠ 'n' := by
    rintro _ hc rfl
    exact absurd hc (by decide)
  cases value with
  | null => exact (h rfl).elim
  | bool b => cases b <;> exact ⟨_, _, rfl, by decide⟩
  | integer i =>
    rw [render, Int.toString_eq_repr, Int.repr_eq_if]
    split
    · obtain ⟨c, cs, hcons, hc⟩ := toDigits_head i.toNat
      exact ⟨c, cs, by rw [Nat.toList_repr, hcons], hdigit c hc⟩
    · exact ⟨'-', _, by simp; rfl, by decide⟩
  | double d =>
    cases d with
    | nan => exact ⟨_, _, rfl, by decide⟩
    | infinite negative => cases negative <;> exact ⟨_, _, rfl, by decide⟩
    | finite negative m e =>
      cases negative with
      | true => exact ⟨'-', _, by simp [render, Layout.render]; rfl, by decide⟩
      | false =>
        simp only [render, Layout.render, Bool.false_eq_true, if_false]
        split
        · exact ⟨'0', _, by simp; rfl, by decide⟩
        · obtain ⟨c, cs, hcons, hc⟩ := Layout.literal.renderDecimal_head
            (Shortest.digits Layout.literal.tie m e)
          exact ⟨c, cs, hcons, hdigit c hc⟩
  | string s => exact ⟨'"', _, by simp [render, Zig.stringLiteral]; rfl, by decide⟩

theorem Literal.render_eq_null_iff {value : Literal} : value.render = "null" ↔ value = .null := by
  refine ⟨fun h => ?_, fun h => h ▸ rfl⟩
  by_contra hne
  obtain ⟨c, cs, hhead, hc⟩ := render_head hne
  rw [h] at hhead
  exact hc (List.cons.inj hhead).1.symm

theorem Literal.isOptional_zigType_iff {value : Literal} :
    Zig.IsOptional value.zigType ↔ value = .null := by
  refine ⟨fun ⟨rest, h⟩ => ?_, fun h => h ▸ ⟨"void", rfl⟩⟩
  cases value with
  | null => rfl
  | _ => simpa [zigType] using congrArg String.toList h

/-! ## Fields -/

/-- A constant that holds a literal. -/
def constantFieldText (d : Declaration) (value : Literal) : String :=
  "comptime " ++ Zig.identifier d.name ++ ": " ++ value.zigType ++ " = " ++ value.render ++ ",\n"

/-- A field of a type. -/
def fieldText (d : Declaration) (translation : String) : String :=
  if d.isOptional then Zig.identifier d.name ++ ": ?" ++ translation ++ " = null,\n"
  else Zig.identifier d.name ++ ": " ++ translation ++ ",\n"

namespace Pair

variable {pair : Pair} {s : Schema} {d : Declaration} {text : String} {written : Bool}

theorem emitDeclaration_of_property (hkind : d.kind = .property)
    (hname : d.name ≠ Declaration.internalName) :
    pair.emitDeclaration d = property d (pair.parts d) := by
  rw [emitDeclaration_eq_byKind, byKind, if_neg (by simpa using hname), hkind]

/-- A property with a literal type is a constant. -/
theorem yields_literalProperty_iff {value : Literal} (hkind : d.kind = .property)
    (hname : d.name ≠ Declaration.internalName) (htype : d.type = some (.literal value)) :
    (pair.emitDeclaration d).Yields s written text ↔
      written = true ∧ text = comment d ++ constantFieldText d value := by
  have hrule : pair.emitDeclaration d =
      (do doc d; write (constantFieldText d value); return true) := by
    rw [emitDeclaration_of_property hkind hname, property, htype]
    rfl
  rw [hrule]
  exact yields_doc_write_iff

/-- A property with any other type is a field of what the type is written as alone. -/
theorem yields_property_iff {t : TypeNode} (hkind : d.kind = .property)
    (hname : d.name ≠ Declaration.internalName) (htype : d.type = some t)
    (hshape : t.isLiteral = false) :
    (pair.emitDeclaration d).Yields s written text ↔
      ∃ translation, (pair.emitType t).Yields s () translation ∧ written = true ∧
        text = comment d ++ fieldText d translation := by
  have hrule : pair.emitDeclaration d = do
      doc d
      if d.isOptional then
        write (Zig.identifier d.name ++ ": ?")
        pair.emitType t
        write " = null,\n"
      else
        write (Zig.identifier d.name ++ ": ")
        pair.emitType t
        write ",\n"
      return true := by
    rw [emitDeclaration_of_property hkind hname, property, parts_type htype, htype]
    cases t with
    | literal value => cases hshape
    | _ => rfl
  have ht := pair.framed_emitType t
  rw [hrule]
  unfold fieldText
  cases d.isOptional with
  | true =>
    simp only [if_true]
    exact yields_documented_iff ht
  | false =>
    simp only [Bool.false_eq_true, if_false]
    exact yields_documented_iff ht

/-- A property with a type is written behind its comment if writing it succeeds. With any type
but a literal it is a field of what the type is written as alone, wrapped and with null as its
default if the property is optional, and bare otherwise. With a literal type it is a constant that
holds the literal, optional or not: neither the type of the constant is optional nor its value
null, unless the literal is null. -/
theorem field_optionality (pair : Pair) (e : Emitter) (d : Declaration) (t : TypeNode)
    (hkind : d.kind = .property) (hname : d.name ≠ Declaration.internalName)
    (htype : d.type = some t) (hok : ((pair.emitDeclaration d).on e).1 = .ok written) :
    let name := Zig.identifier d.name
    let translation := (pair.emitType t).alone e.schema
    written = true ∧
      ∃ field, ((pair.emitDeclaration d).on e).2.text = e.text ++ (comment d ++ field) ∧
        (t.isLiteral = false → translation.result = .ok () ∧
          (d.isOptional = true → field = name ++ ": ?" ++ translation.text ++ " = null,\n") ∧
          (d.isOptional = false → field = name ++ ": " ++ translation.text ++ ",\n")) ∧
        ∀ value, t = .literal value →
          field = "comptime " ++ name ++ ": " ++ value.zigType ++ " = " ++ value.render ++ ",\n" ∧
            (Zig.IsOptional value.zigType ↔ value = .null) ∧
            (value.render = "null" ↔ value = .null) := by
  intro name translation
  obtain ⟨text, htext, hyields⟩ := yields_of_ok (pair.framed_emitDeclaration d) hok
  rw [htext]
  cases t with
  | literal value =>
    obtain ⟨hwritten, rfl⟩ := (yields_literalProperty_iff hkind hname htype).1 hyields
    refine ⟨hwritten, constantFieldText d value, rfl, fun hshape => ?_, ?_⟩
    · cases hshape
    · rintro _ ⟨⟩
      exact ⟨rfl, value.isOptional_zigType_iff, value.render_eq_null_iff⟩
  | _ =>
    obtain ⟨text, halone, hwritten, rfl⟩ := (yields_property_iff hkind hname htype rfl).1 hyields
    obtain rfl : translation.text = text := halone.text
    refine ⟨hwritten, fieldText d translation.text, rfl, fun _ => ⟨halone.result, ?_, ?_⟩,
      fun value h => by cases h⟩
    · intro hflag
      rw [fieldText, if_pos hflag]
    · intro hflag
      rw [fieldText, if_neg (by simp [hflag])]

/-- An optional field with a comment, and a required constant. -/
theorem field_optionality_examples :
    let pair : Pair := ⟨.ofRoot { id := 0, name := "t" }, .ofRoot { id := 0, name := "p" }⟩
    let range : Declaration :=
      { id := 1, name := "export", kind := .property, isOptional := true
        comment := some { shortText := some "At most one." }
        type := some (.array (.reference "Range" [])) }
    let tag : Declaration :=
      { id := 2, name := "kind", kind := .property, type := some (.literal (.string "begin")) }
    ((pair.emitDeclaration range).on (.fresh .types)).2.text =
        "/// At most one.\n@\"export\": ?[]const Range = null,\n" ∧
      ((pair.emitDeclaration tag).on (.fresh .types)).2.text =
        "comptime kind: []const u8 = \"begin\",\n" := by
  intro pair range tag
  have hrange : ((pair.emitDeclaration range).on (.fresh .types)).1 = .ok true := rfl
  have htag : ((pair.emitDeclaration tag).on (.fresh .types)).1 = .ok true := rfl
  constructor
  · obtain ⟨-, field, htext, hfield, -⟩ := field_optionality pair (.fresh .types) range _ rfl
      (by decide) rfl hrange
    rw [htext, (hfield rfl).2.1 rfl]
    decide +kernel
  · obtain ⟨-, field, htext, -, hconstant⟩ := field_optionality pair (.fresh .types) tag _ rfl
      (by decide) rfl htag
    rw [htext, (hconstant _ rfl).1]
    decide +kernel

/-- An optional property with a literal type is written, and its text is not that of a field with
an optional type, whatever the type is written as. The internal container is not written even as
a property. -/
theorem optional_literal_bound :
    let pair : Pair := ⟨.ofRoot { id := 0, name := "t" }, .ofRoot { id := 0, name := "p" }⟩
    let property (name : String) (t : TypeNode) : Declaration :=
      { id := 1, name, kind := .property, isOptional := true, type := some t }
    let container := property "<internal>" (.intrinsic "string")
    let bound := (pair.emitDeclaration (property "k" (.literal (.string "create")))).alone .types
    let internal := (pair.emitDeclaration container).alone .types
    bound.result = .ok true ∧
      bound.text = "comptime k: []const u8 = \"create\",\n" ∧
      (∀ translation, bound.text ≠ "k: ?" ++ translation ++ " = null,\n") ∧
      internal.result = .ok false ∧ internal.text = "" := by
  intro pair property container bound internal
  have htext : bound.text = "comptime k: []const u8 = \"create\",\n" := by decide +kernel
  refine ⟨rfl, htext, fun translation h => ?_, rfl, rfl⟩
  rw [htext] at h
  simpa using congrArg String.toList h

end Pair

end ZigReflect
