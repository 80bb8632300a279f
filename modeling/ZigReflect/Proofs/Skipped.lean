import ZigReflect.Lowering.Basic

/-!
# Declarations that are left out

A rule says whether it wrote anything. Its answer is false only where it leaves
the declaration out before it has written a character: `quiet_byKind` says so of
the rule of every kind, whatever the parts of the declaration are written as.
Which declarations these are follows from what they are and from the names of
the document (`Pair.LeavesOut`).
-/

namespace ZigReflect

namespace Emission

variable {α : Type}

/-- The step never answers false. -/
def NeverSkips (x : Emission Bool) : Prop :=
  ∀ e, (x.on e).1 ≠ .ok false

/-- If the step answers false, it has written nothing. -/
def SkipsQuietly (x : Emission Bool) : Prop :=
  ∀ e, (x.on e).1 = .ok false → (x.on e).2.text = e.text

theorem neverSkips_true : (pure true : Emission Bool).NeverSkips := by
  intro e
  simp

/-- The answer is that of the last step. -/
theorem NeverSkips.bind (x : Emission α) {f : α → Emission Bool} (hf : ∀ a, (f a).NeverSkips) :
    (x >>= f).NeverSkips := by
  intro e
  rw [on_bind]
  rcases x.on e with ⟨_ | a, after⟩
  · simp
  · exact hf a after

/-- What never answers false writes nothing whenever it does. -/
theorem NeverSkips.quiet {x : Emission Bool} (hx : x.NeverSkips) : x.SkipsQuietly :=
  fun e h => (hx e h).elim

/-- A notice is not part of the text. -/
theorem quiet_skipNoting (n : Notice) : (Lowering.skipNoting n).SkipsQuietly := by
  intro e _
  rw [Lowering.skipNoting, on_bind]
  rfl

/-- Asking which document is read writes nothing. -/
theorem SkipsQuietly.reading_bind {f : Schema → Emission Bool} (hf : ∀ s, (f s).SkipsQuietly) :
    (reading >>= f).SkipsQuietly := by
  intro e
  rw [on_bind, on_reading]
  exact hf e.schema e

end Emission

namespace Lowering

open Emission

variable {pair : Pair} {d : Declaration} {parts : Parts} {e : Emitter}

/-- A constant after its comment is written. -/
theorem neverSkips_documented (d : Declaration) (value : String) :
    (do doc d; constant d value; return true : Emission Bool).NeverSkips :=
  .bind _ fun _ => .bind _ fun _ => neverSkips_true

/-- A reference is written, or fails where its target is not found. -/
theorem neverSkips_referenceDeclaration (pair : Pair) (d : Declaration) :
    (referenceDeclaration pair d).NeverSkips := by
  unfold referenceDeclaration
  split
  · intro e
    simp
  · exact .bind _ fun _ => .bind _ fun _ => neverSkips_documented d _

/-- An interface is written, generic or not. -/
theorem neverSkips_interface : (interface d parts).NeverSkips := by
  refine .bind _ fun _ => ?_
  split
  · exact .bind _ fun _ => .bind _ fun _ => .bind _ fun _ => neverSkips_true
  · exact .bind _ fun _ => .bind _ fun _ => .bind _ fun _ => .bind _ fun _ => neverSkips_true

/-- A type literal is written, as a placeholder if it has no children. -/
theorem neverSkips_typeLiteral : (typeLiteral d parts).NeverSkips := by
  unfold typeLiteral
  split
  · exact .bind _ fun _ => neverSkips_true
  · exact .bind _ fun _ => .bind _ fun _ => .bind _ fun _ => neverSkips_true

theorem neverSkips_enumeration : (enumeration d parts).NeverSkips :=
  .bind _ fun _ => .bind _ fun _ => .bind _ fun _ => .bind _ fun _ => neverSkips_true

/-- A member of an enumeration is written, with a notice if it has no value. -/
theorem neverSkips_enumerationMember (d : Declaration) : (enumerationMember d).NeverSkips := by
  unfold enumerationMember
  split
  · exact neverSkips_documented d _
  · exact .bind _ fun _ => neverSkips_documented d _

/-! ## Rules that may leave a declaration out -/

/-- A property is left out if and only if it has no type. -/
theorem skips_property_iff : ((property d parts).on e).1 = .ok false ↔ d.type = none := by
  unfold property
  split
  · next htype => exact ⟨fun _ => htype, fun _ => rfl⟩
  · next value htype =>
    refine ⟨fun h => absurd h (NeverSkips.bind _ (fun _ => .bind _ fun _ => neverSkips_true) e),
      fun h => ?_⟩
    simp [htype] at h
  · next t _ htype =>
    refine ⟨fun h => absurd h (NeverSkips.bind _ (fun _ => ?_) e), fun h => ?_⟩
    · split <;> exact .bind _ fun _ => .bind _ fun _ => .bind _ fun _ => neverSkips_true
    · simp [htype] at h

/-- A property without a type leaves the text as it is. -/
theorem quiet_property : (property d parts).SkipsQuietly := by
  intro e h
  rw [property, skips_property_iff.1 h]
  rfl

/-- An alias is left out if and only if it has no type, names an inline type, or yields to a
namespace of its name that holds data. -/
theorem skips_typeAlias_iff : ((typeAlias pair d parts).on e).1 = .ok false ↔
    d.type = none ∨ (∃ inner, d.type = some (.reflection inner)) ∨
      (pair.document e.schema).hasDataNamespace d.name = true := by
  unfold typeAlias
  split
  · next htype => exact ⟨fun _ => .inl htype, fun _ => rfl⟩
  · next inner htype => exact ⟨fun _ => .inr (.inl ⟨inner, htype⟩), fun _ => rfl⟩
  · next t hshape htype =>
    rw [on_bind, on_reading]
    dsimp only
    cases hyields : (pair.document e.schema).hasDataNamespace d.name with
    | true => exact ⟨fun _ => .inr (.inr rfl), fun _ => rfl⟩
    | false =>
      refine ⟨fun h => absurd h (NeverSkips.bind _ (fun _ => neverSkips_true) e), ?_⟩
      rintro (h | ⟨inner, h⟩ | h)
      · simp [htype] at h
      · exact (hshape inner (Option.some.inj (htype.symm.trans h))).elim
      · cases h

/-- An alias that is left out is only noted. -/
theorem quiet_typeAlias (pair : Pair) : (typeAlias pair d parts).SkipsQuietly := by
  unfold typeAlias
  split
  · exact quiet_skipNoting _
  · exact quiet_skipNoting _
  · refine .reading_bind fun _ => ?_
    split
    · exact quiet_skipNoting _
    · exact (NeverSkips.bind _ fun _ => neverSkips_true).quiet

/-- A namespace is left out if and only if something in it can be called. -/
theorem skips_namespaceDeclaration_iff :
    ((namespaceDeclaration d parts).on e).1 = .ok false ↔ d.hasCallableChild = true := by
  unfold namespaceDeclaration
  split
  · next hcallable => exact ⟨fun _ => hcallable, fun _ => rfl⟩
  · next hdata =>
    refine ⟨fun h => absurd h (NeverSkips.bind _ (fun _ => ?_) e), fun h => (hdata h).elim⟩
    split <;> exact .bind _ fun _ => .bind _ fun _ => .bind _ fun _ => neverSkips_true

theorem quiet_namespaceDeclaration : (namespaceDeclaration d parts).SkipsQuietly := by
  intro e h
  rw [namespaceDeclaration, if_pos (skips_namespaceDeclaration_iff.1 h)]
  rfl

/-- A binding is left out if and only if it can be called or nothing says what it is. -/
theorem skips_binding_iff : ((binding d parts).on e).1 = .ok false ↔
    d.isCallable = true ∨ d.literalType = none ∧ d.defaultValue = none ∧ d.type = none := by
  unfold binding
  split
  · next hcallable => exact ⟨fun _ => .inl hcallable, fun _ => rfl⟩
  · next hdata =>
    rw [or_iff_right hdata]
    split
    · next hliteral =>
      refine ⟨fun h => (neverSkips_documented d _ e h).elim, fun h => ?_⟩
      simp [hliteral] at h
    · next hdefault =>
      refine ⟨fun h => absurd h ?_, fun h => by simp [hdefault] at h⟩
      split
      · exact neverSkips_documented d _ e
      · exact NeverSkips.bind _ (fun _ => neverSkips_documented d _) e
    · next htype =>
      refine ⟨fun h => absurd h ?_, fun h => by simp [htype] at h⟩
      exact NeverSkips.bind _ (fun _ => .bind _ fun _ => .bind _ fun _ => .bind _ fun _ =>
        neverSkips_true) e
    · next hliteral hdefault htype => exact ⟨fun _ => ⟨hliteral, hdefault, htype⟩, fun _ => rfl⟩

theorem quiet_binding : (binding d parts).SkipsQuietly := by
  intro e h
  unfold binding
  rcases skips_binding_iff.1 h with hcallable | ⟨hliteral, hdefault, htype⟩
  · rw [if_pos hcallable]
    rfl
  · rw [hliteral, hdefault, htype]
    split <;> rfl

/-! ## The rule of each kind -/

/-- Whatever its parts are written as, a declaration that is left out writes
nothing. -/
theorem quiet_byKind (pair : Pair) (d : Declaration) (parts : Parts) :
    (byKind pair d parts).SkipsQuietly := by
  have hskip : skip.SkipsQuietly := fun e _ => rfl
  unfold byKind
  split
  · exact hskip
  · cases d.kind with
    | reference => exact (neverSkips_referenceDeclaration pair d).quiet
    | interface => exact neverSkips_interface.quiet
    | property => exact quiet_property
    | typeAlias => exact quiet_typeAlias pair
    | typeLiteral => exact neverSkips_typeLiteral.quiet
    | nameSpace => exact quiet_namespaceDeclaration
    | binding => exact quiet_binding
    | enumeration => exact neverSkips_enumeration.quiet
    | enumerationMember => exact (neverSkips_enumerationMember d).quiet
    | other kind => exact quiet_skipNoting _
    | _ => exact hskip

end Lowering

namespace Pair

open Lowering

/-- Writing a declaration leaves the text as it is, if it answers that it left the declaration out.
-/
theorem quiet_emitDeclaration (pair : Pair) (d : Declaration) :
    (pair.emitDeclaration d).SkipsQuietly := by
  rw [emitDeclaration, declaration_eq]
  exact quiet_byKind pair _ _

/-- There is nothing to write of the declaration in the document. -/
def LeavesOut (pair : Pair) (s : Schema) (d : Declaration) : Prop :=
  d.name = Declaration.internalName ∨
    match d.kind with
    | .property => d.type = none
    | .typeAlias => d.type = none ∨ (∃ inner, d.type = some (.reflection inner)) ∨
        (pair.document s).hasDataNamespace d.name = true
    | .nameSpace => d.hasCallableChild = true
    | .binding => d.isCallable = true ∨
        d.literalType = none ∧ d.defaultValue = none ∧ d.type = none
    | .reference | .interface | .typeLiteral | .enumeration | .enumerationMember => False
    | .method | .classType | .function | .constructor | .callSignature | .constructorSignature
    | .other _ => True

/-- A declaration is left out if and only if there is nothing to write of it. -/
theorem skips_emitDeclaration_iff {pair : Pair} {d : Declaration} {e : Emitter} :
    ((pair.emitDeclaration d).on e).1 = .ok false ↔ pair.LeavesOut e.schema d := by
  rw [emitDeclaration, declaration_eq, LeavesOut, byKind]
  by_cases hname : d.name = Declaration.internalName
  · rw [if_pos (by simp [hname])]
    exact ⟨fun _ => .inl hname, fun _ => rfl⟩
  · rw [if_neg (by simpa using hname), or_iff_right hname]
    cases d.kind with
    | property => exact skips_property_iff
    | typeAlias => exact skips_typeAlias_iff
    | nameSpace => exact skips_namespaceDeclaration_iff
    | binding => exact skips_binding_iff
    | reference => exact iff_false_intro (neverSkips_referenceDeclaration pair d e)
    | interface => exact iff_false_intro (neverSkips_interface e)
    | typeLiteral => exact iff_false_intro (neverSkips_typeLiteral e)
    | enumeration => exact iff_false_intro (neverSkips_enumeration e)
    | enumerationMember => exact iff_false_intro (neverSkips_enumerationMember d e)
    | _ => exact iff_true_intro rfl

end Pair

end ZigReflect
