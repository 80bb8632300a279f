import ZigReflect.Proofs.FirstWriter
import ZigReflect.Proofs.WrittenText

/-!
# What the answer of a rule says

A rule answers whether it wrote anything, and what is recorded as emitted follows from its
answer. The answer false is only given before the first character
(`Pair.quiet_emitDeclaration`). The answer true is only given behind a text that is not empty:
whatever the parts of the declaration are written as, the last step of its rule writes
(`Audible`). So the answer is exact, and a top-level declaration is recorded if and only if it
is written (`written_flag_exact`).
-/

namespace ZigReflect

namespace Emission

variable {α : Type}

/-- The step is framed, and never answers that it has written without writing. -/
structure Audible (x : Emission Bool) : Prop where
  framed : x.Framed
  ne_empty : ∀ s text, x.Yields s true text → text ≠ ""

theorem audible_false : (pure false : Emission Bool).Audible where
  framed := framed_pure false
  ne_empty _ _ h := by simpa using (yields_pure_iff.1 h).1

/-- A text that is written is heard. -/
theorem audible_write_true {written : String} (h : written ≠ "") :
    (do write written; return true : Emission Bool).Audible where
  framed := (framed_write written).bind fun _ => framed_pure true
  ne_empty _ text htext := by
    obtain ⟨rest, -, rfl⟩ := (yields_write_bind_iff (framed_pure true)).1 htext
    simp [h]

/-- What comes before an audible step does not silence it. -/
theorem Audible.bind {x : Emission α} {f : α → Emission Bool} (hx : x.Framed)
    (hf : ∀ a, (f a).Audible) : (x >>= f).Audible where
  framed := hx.bind fun a => (hf a).framed
  ne_empty s text htext := by
    obtain ⟨a, first, rest, -, hrest, rfl⟩ :=
      (yields_bind_iff hx fun a => (hf a).framed).1 htext
    simp [(hf a).ne_empty s rest hrest]

end Emission

namespace Lowering

open Emission

variable {d : Declaration} {parts : Parts}

/-- A declaration that is left out with a notice does not claim to be written. -/
theorem audible_skipNoting (n : Notice) : (skipNoting n).Audible :=
  .bind (framed_note n) fun _ => audible_false

/-- A constant is written with its name at least. -/
theorem audible_constant (d : Declaration) (value : String) :
    (do constant d value; return true : Emission Bool).Audible :=
  audible_write_true (by simp [constHead])

/-- A comment before the constant does not change that it is heard. -/
theorem audible_documented (d : Declaration) (value : String) :
    (do doc d; constant d value; return true : Emission Bool).Audible :=
  .bind (framed_doc d) fun _ => audible_constant d value

/-- A part between two texts. -/
theorem audible_enclosed {x : Emission Unit} (hx : x.Framed) (opening : String)
    {closing : String} (h : closing ≠ "") :
    (do write opening; x; write closing; return true : Emission Bool).Audible :=
  .bind (framed_write opening) fun _ => .bind hx fun _ => audible_write_true h

/-- A reference that does not fail is heard. -/
theorem audible_referenceDeclaration (pair : Pair) (d : Declaration) :
    (referenceDeclaration pair d).Audible := by
  unfold referenceDeclaration
  split
  · exact ⟨framed_fail _, fun _ _ h => (not_yields_fail h).elim⟩
  · exact .bind framed_reading fun _ => .bind (framed_ofExcept _) fun _ => audible_documented d _

theorem audible_aliasText (d : Declaration) {type : Emission Unit} (h : type.Framed) :
    (do aliasText d type; return true : Emission Bool).Audible := by
  unfold aliasText
  rw [bind_assoc]
  refine .bind (framed_doc d) fun _ => ?_
  split
  · simp only [bind_assoc]
    exact audible_enclosed h _ (by decide)
  · simp only [bind_assoc]
    exact .bind (framed_write _) fun _ => audible_enclosed h _ (by decide)

/-- An alias is heard where it is written. -/
theorem audible_typeAlias (pair : Pair) (h : parts.type.Framed) :
    (typeAlias pair d parts).Audible := by
  unfold typeAlias
  split
  · exact audible_skipNoting _
  · exact audible_skipNoting _
  · refine .bind framed_reading fun _ => ?_
    split
    · exact audible_skipNoting _
    · exact audible_aliasText d h

theorem audible_interface (h : parts.children.Framed) : (interface d parts).Audible := by
  refine .bind (framed_doc d) fun _ => ?_
  split
  · exact audible_enclosed h _ (by decide)
  · exact .bind (framed_write _) fun _ => audible_enclosed h _ (by decide)

theorem audible_typeLiteral (h : parts.children.Framed) : (typeLiteral d parts).Audible := by
  unfold typeLiteral
  split
  · rw [placeholder, bind_assoc]
    refine .bind framed_reading fun _ => ?_
    rw [bind_assoc]
    exact .bind (framed_note _) fun _ => audible_write_true (by decide)
  · exact audible_enclosed h _ (by decide)

/-- A property is heard where it has a type. -/
theorem audible_property (h : parts.type.Framed) : (property d parts).Audible := by
  unfold property
  split
  · exact audible_skipNoting _
  · exact .bind (framed_doc d) fun _ => audible_write_true (by simp)
  · refine .bind (framed_doc d) fun _ => ?_
    split <;> exact audible_enclosed h _ (by decide)

/-- A namespace is heard where nothing in it can be called. -/
theorem audible_namespaceDeclaration (h : parts.children.Framed) :
    (namespaceDeclaration d parts).Audible := by
  unfold namespaceDeclaration
  split
  · exact audible_skipNoting _
  · refine .bind (framed_doc d) fun _ => ?_
    split
    · refine audible_enclosed (framed_all fun x hx => ?_) _ (by decide)
      obtain ⟨child, -, rfl⟩ := List.mem_map.1 hx
      exact framed_enumCase d child
    · exact audible_enclosed h _ (by decide)

/-- A binding is heard where something says what it is. -/
theorem audible_binding (h : parts.type.Framed) : (binding d parts).Audible := by
  unfold binding
  split
  · exact audible_skipNoting _
  · split
    · exact audible_documented d _
    · split
      · exact audible_documented d _
      · exact .bind (framed_note _) fun _ => audible_documented d _
    · exact .bind (framed_doc d) fun _ => audible_enclosed h _ (by decide)
    · exact audible_skipNoting _

theorem audible_enumeration (h : parts.children.Framed) : (enumeration d parts).Audible :=
  .bind (framed_doc d) fun _ => audible_enclosed h _ (by decide)

theorem audible_enumerationMember (d : Declaration) : (enumerationMember d).Audible := by
  unfold enumerationMember
  split
  · exact audible_documented d _
  · exact .bind (framed_note _) fun _ => audible_documented d _

/-- The rule of every kind is audible if the parts of the declaration are framed: they need not
write anything themselves. -/
theorem audible_byKind (pair : Pair) (d : Declaration) (ht : parts.type.Framed)
    (hc : parts.children.Framed) : (byKind pair d parts).Audible := by
  unfold byKind
  split
  · exact audible_false
  · cases d.kind with
    | reference => exact audible_referenceDeclaration pair d
    | interface => exact audible_interface hc
    | property => exact audible_property ht
    | typeAlias => exact audible_typeAlias pair ht
    | typeLiteral => exact audible_typeLiteral hc
    | nameSpace => exact audible_namespaceDeclaration hc
    | binding => exact audible_binding ht
    | enumeration => exact audible_enumeration hc
    | enumerationMember => exact audible_enumerationMember d
    | other kind => exact audible_skipNoting _
    | _ => exact audible_false

end Lowering

namespace Pair

open Lowering

/-- Writing a declaration is audible, whatever its kind. -/
theorem audible_emitDeclaration (pair : Pair) (d : Declaration) :
    (pair.emitDeclaration d).Audible := by
  have hinline := framed_inliner pair pair.depth
  rw [emitDeclaration, declaration_eq]
  exact audible_byKind pair _ (framed_optionalType pair hinline _)
    (framed_inOrder (framed_declarations pair hinline _))

variable {pair : Pair} {d : Declaration} {e : Emitter}

/-- A declaration that is written adds a text that is not empty. -/
theorem text_of_written (h : ((pair.emitDeclaration d).on e).1 = .ok true) :
    ∃ text, text ≠ "" ∧ ((pair.emitDeclaration d).on e).2.text = e.text ++ text := by
  obtain ⟨text, htext, hyields⟩ := Emission.yields_of_ok (pair.framed_emitDeclaration d) h
  exact ⟨text, (pair.audible_emitDeclaration d).ne_empty _ _ hyields, htext⟩

/-- A name that is taken leaves everything but the notices. -/
theorem emitTopLevel_of_taken (h : e.names.contains d.name = true) :
    (pair.emitTopLevel d).on e =
      (.ok false, { e with notices := e.notices.push (.alreadyEmitted d.name e.schema) }) := by
  rw [on_emitTopLevel, if_pos h]

/-- A declaration that is written under a free name is recorded, and a line feed follows. -/
theorem emitTopLevel_of_written (h : e.names.contains d.name = false)
    (hwritten : ((pair.emitDeclaration d).on e).1 = .ok true) :
    (pair.emitTopLevel d).on e =
      (.ok true, { ((pair.emitDeclaration d).on e).2 with
        names := e.names.insert d.name
        text := ((pair.emitDeclaration d).on e).2.text ++ "\n" }) := by
  rw [on_emitTopLevel, if_neg (by simp [h]), ← on_emitDeclaration]
  generalize (pair.emitDeclaration d).on e = run at hwritten
  obtain ⟨result, after⟩ := run
  obtain rfl : result = .ok true := hwritten
  rfl

/-- Under a free name, what is left out or fails does as it does without the name. -/
theorem emitTopLevel_of_not_written (h : e.names.contains d.name = false)
    (hwritten : ((pair.emitDeclaration d).on e).1 ≠ .ok true) :
    (pair.emitTopLevel d).on e = (pair.emitDeclaration d).on e := by
  rw [on_emitTopLevel, if_neg (by simp [h]), ← on_emitDeclaration]
  generalize (pair.emitDeclaration d).on e = run at hwritten
  obtain ⟨_ | _ | _, after⟩ := run
  · rfl
  · rfl
  · exact (hwritten rfl).elim

end Pair

/-- The name is recorded as the last one. -/
structure EmittedNames.Gains (before after : EmittedNames) (name : String) : Prop where
  order : after.order = before.order ++ [name]
  contains : ∀ other, after.contains other = true ↔ other = name ∨ before.contains other = true

/-- A name that was not there is all that is gained. -/
theorem EmittedNames.gains_insert {names : EmittedNames} {name : String}
    (h : names.contains name = false) : names.Gains (names.insert name) name where
  order := by simp [insert, h]
  contains other := by
    rw [insert, if_neg (by simp [h]), EmittedNames.contains, Std.HashSet.contains_insert,
      Bool.or_eq_true, beq_iff_eq, eq_comm]
    rfl

namespace Pair

/-- The answer to whether a declaration was written is exact: with the answer true it has added
at least a character, and with the answer false nothing. A top-level declaration is written if
and only if its name is free and the declaration is written. Then its name is recorded and a
line feed follows its text. If it is left out, neither the text nor the recorded names change;
if it fails, what the declaration wrote before it failed is all that is added. -/
theorem written_flag_exact (pair : Pair) (d : Declaration) (e : Emitter) :
    let declared := (pair.emitDeclaration d).on e
    let top := (pair.emitTopLevel d).on e
    (declared.1 = .ok true → ∃ text, text ≠ "" ∧ declared.2.text = e.text ++ text) ∧
      (declared.1 = .ok false → declared.2.text = e.text) ∧
      (top.1 = .ok true ↔ e.names.contains d.name = false ∧ declared.1 = .ok true) ∧
      (top.1 = .ok true → e.names.Gains top.2.names d.name ∧
        top.2.text = declared.2.text ++ "\n") ∧
      (top.1 = .ok false → top.2.text = e.text ∧ top.2.names = e.names) ∧
      ∀ f, top.1 = .error f → declared.1 = .error f ∧ top.2.names = e.names ∧
        top.2.text = declared.2.text ∧ ∃ added, top.2.text = e.text ++ added := by
  intro declared top
  have hquiet : declared.1 = .ok false → declared.2.text = e.text :=
    pair.quiet_emitDeclaration d e
  refine ⟨text_of_written, hquiet, ?_⟩
  cases hname : e.names.contains d.name with
  | true =>
    have htop : top = (.ok false, { e with
      notices := e.notices.push (.alreadyEmitted d.name e.schema) }) := emitTopLevel_of_taken hname
    simp [htop]
  | false =>
    by_cases hwritten : declared.1 = .ok true
    · have htop : top = (.ok true, { declared.2 with
          names := e.names.insert d.name
          text := declared.2.text ++ "\n" }) := emitTopLevel_of_written hname hwritten
      simp [htop, hwritten, EmittedNames.gains_insert hname]
    · have hframe := (pair.framed_emitDeclaration d).keepsFrame
      have hnames : declared.2.names = e.names := hframe.names e
      have htop : top = declared := emitTopLevel_of_not_written hname hwritten
      rw [htop]
      refine ⟨by simp, fun h => (hwritten h).elim, fun h => ⟨hquiet h, hnames⟩, fun f hf => ?_⟩
      exact ⟨hf, hnames, rfl, hframe.appends e⟩

end Pair

end ZigReflect
