import ZigReflect.Proofs.Faults
import ZigReflect.Proofs.Flattening
import ZigReflect.Proofs.Scan
import ZigReflect.Proofs.Spelling

/-!
# The field names of a flattened intersection

`Zig.fieldLabel?` reads the name of the field that a piece of a struct body is, and finds none
if the piece is another declaration or empty. Of what a child of an interface is written as it
finds the name of the child if the child is a property with a type (`shows_byKind`).

An intersection writes the children of all its members, and nothing compares the names of
different members. If the children of every interface have names of their own, then the fields
in the body of an intersection have too if and only if no two of its members share one
(`intersection_fields_distinct_iff`). A field that two interfaces share is written twice
(`shared_field_written_twice`).
-/

namespace ZigReflect

/-! ## Reading a field name -/

namespace Zig

open Text Lowering

/-- What follows the comment lines at the front; the flag tells that one of them has begun. -/
def afterComments : Bool → List Char → List Char
  | true, '\n' :: cs => afterComments false cs
  | true, _ :: cs => afterComments true cs
  | false, '/' :: '/' :: '/' :: cs => afterComments true cs
  | _, cs => cs

/-- Splits after the quote that ends a quoted name, which starts inside the quotes. -/
def splitQuoted : List Char → List Char × List Char
  | '\\' :: c :: cs => ('\\' :: c :: (splitQuoted cs).1, (splitQuoted cs).2)
  | '"' :: cs => (['"'], cs)
  | c :: cs => (c :: (splitQuoted cs).1, (splitQuoted cs).2)
  | [] => ([], [])

/-- Splits after the name at the front, quoted or bare. -/
def splitName : List Char → List Char × List Char
  | '@' :: '"' :: cs => ('@' :: '"' :: (splitQuoted cs).1, (splitQuoted cs).2)
  | cs => (cs.takeWhile isWordAscii, cs.dropWhile isWordAscii)

/-- The name at the front, if a colon follows. -/
def label? (code : List Char) : Option String :=
  match splitName code with
  | (name, ':' :: ' ' :: _) => some (String.ofList name)
  | _ => none

/-- The name of a field that is not behind comments; `comptime` may stand in front. -/
def codeLabel? (code : List Char) : Option String :=
  match splitName code with
  | (word, ' ' :: rest) => if String.ofList word = "comptime" then label? rest else none
  | _ => label? code

/-- The name of a field, as it is written. -/
def fieldLabel? (text : String) : Option String :=
  codeLabel? (afterComments false text.toList)

/-- A comment ends with its line. -/
theorem afterComments_line {line : List Char} (h : '\n' ∉ line) (cs : List Char) :
    afterComments true (line ++ '\n' :: cs) = afterComments false cs := by
  induction line with
  | nil => simp [afterComments]
  | cons c line ih =>
    rw [List.mem_cons, not_or] at h
    rw [List.cons_append, afterComments, ih h.2]
    exact fun hc => h.1 hc.symm

theorem afterComments_docLine {line : String} (h : '\n' ∉ line.toList) (cs : List Char) :
    afterComments false ((docLine line).toList ++ cs) = afterComments false cs := by
  unfold docLine
  dsimp only
  split
  · exact afterComments_line List.not_mem_nil cs
  · have hline : '\n' ∉ ' ' :: (trimEnd line).toList := by
      simpa [trimEnd] using fun hc => h (dropBlankEnd_subset _ hc)
    simpa [afterComments] using afterComments_line hline cs

theorem afterComments_docLines {lines : List String} (h : ∀ line ∈ lines, '\n' ∉ line.toList)
    (cs : List Char) :
    afterComments false ((String.join (lines.map docLine)).toList ++ cs) =
      afterComments false cs := by
  induction lines with
  | nil => simp
  | cons line lines ih =>
    rw [List.forall_mem_cons] at h
    rw [List.map_cons, String.join_cons, String.toList_append, List.append_assoc,
      afterComments_docLine h.1, ih h.2]

/-- The comment of a field is passed over. -/
theorem afterComments_docText (blurb : String) (cs : List Char) :
    afterComments false ((docText blurb).toList ++ cs) = afterComments false cs := by
  refine afterComments_docLines (fun line hline => ?_) cs
  obtain ⟨cs, hcs, rfl⟩ := List.mem_map.1 hline
  simpa using feed_not_mem_lineChars hcs

/-- A comment in front changes no field name. -/
theorem fieldLabel?_comment (d : Declaration) (text : String) :
    fieldLabel? (comment d ++ text) = fieldLabel? text := by
  unfold comment
  cases d.doc with
  | none => simp
  | some blurb =>
    simp only [fieldLabel?, Option.map_some, Option.getD_some, String.toList_append,
      afterComments_docText]

/-- A plain character stands for itself. -/
theorem splitQuoted_of_ne {c : Char} (hquote : c ≠ '"') (hescape : c ≠ '\\') (cs : List Char) :
    splitQuoted (c :: cs) = (c :: (splitQuoted cs).1, (splitQuoted cs).2) := by
  rw [splitQuoted]
  · exact fun _ _ hc => (hescape hc).elim
  · exact hquote

/-- What is written of a character inside quotes is passed over. -/
theorem splitQuoted_quoteChar (c : Char) (rest : List Char) :
    splitQuoted (quoteChar c ++ rest) =
      (quoteChar c ++ (splitQuoted rest).1, (splitQuoted rest).2) := by
  unfold quoteChar
  split
  · simp [splitQuoted]
  split
  · simp [splitQuoted]
  split
  · simp [splitQuoted]
  split
  · simp [splitQuoted]
  split
  · simp [splitQuoted]
  split
  · next hcontrol =>
    have hsmall : c.toNat / 16 < 16 := by
      simp only [isControl, Bool.or_eq_true, Bool.and_eq_true, decide_eq_true_eq] at hcontrol
      omega
    obtain ⟨hhigh, hhigh', -⟩ := hexChar_inString _ hsmall
    obtain ⟨hlow, hlow', -⟩ := hexChar_inString (c.toNat % 16) (by omega)
    simp [splitQuoted, splitQuoted_of_ne hhigh hhigh', splitQuoted_of_ne hlow hlow']
  · next hquote hescape _ _ _ _ =>
    exact splitQuoted_of_ne hquote hescape rest

/-- What is written of a name inside quotes is split off up to the closing one. -/
theorem splitQuoted_quoteBody (cs rest : List Char) :
    splitQuoted (quoteBody cs ++ '"' :: rest) = (quoteBody cs ++ ['"'], rest) := by
  induction cs with
  | nil => simp [quoteBody, splitQuoted]
  | cons c cs ih =>
    rw [quoteBody_cons, List.append_assoc, splitQuoted_quoteChar, ih, List.append_assoc]

/-- A bare word is split off before a character that cannot be in it. -/
theorem splitName_of_isBareWord {word : List Char} (h : isBareWord word = true) {c : Char}
    (hc : isWordAscii c = false) (rest : List Char) :
    splitName (word ++ c :: rest) = (word, c :: rest) := by
  cases word with
  | nil => simp [isBareWord] at h
  | cons w ws =>
    rw [isBareWord, Bool.and_eq_true, List.all_eq_true] at h
    have hw : w ≠ '@' := by
      rintro rfl
      exact absurd (h.2 '@' List.mem_cons_self) (by decide)
    rw [List.cons_append, splitName]
    · rw [← List.cons_append, List.takeWhile_append_of_pos h.2, List.dropWhile_append_of_pos h.2]
      simp [hc]
    · exact fun _ hcs => hw (List.cons.inj hcs).1

/-- A name is read off as it is written. -/
theorem splitName_identifier (name : String) {c : Char} (hc : isWordAscii c = false)
    (rest : List Char) :
    splitName ((identifier name).toList ++ c :: rest) = ((identifier name).toList, c :: rest) := by
  unfold identifier
  split
  · simp [stringLiteral, splitName, splitQuoted_quoteBody]
  · next hbare => exact splitName_of_isBareWord (isBareWord_of_not_needsQuotes hbare) hc rest

theorem afterComments_of_ne {c : Char} (h : c ≠ '/') (cs : List Char) :
    afterComments false (c :: cs) = c :: cs := by
  rw [afterComments]
  · simp
  · simp
  · exact fun _ _ hcs => h (List.cons.inj hcs).1

theorem afterComments_of_isBareWord {word : List Char} (h : isBareWord word = true)
    (rest : List Char) : afterComments false (word ++ rest) = word ++ rest := by
  cases word with
  | nil => simp [isBareWord] at h
  | cons w ws =>
    rw [isBareWord, Bool.and_eq_true, List.all_eq_true] at h
    refine afterComments_of_ne ?_ (ws ++ rest)
    rintro rfl
    exact absurd (h.2 '/' List.mem_cons_self) (by decide)

/-- A name is no comment. -/
theorem afterComments_identifier (name : String) (rest : List Char) :
    afterComments false ((identifier name).toList ++ rest) = (identifier name).toList ++ rest := by
  unfold identifier
  split
  · rw [String.toList_append]
    exact afterComments_of_ne (c := '@') (by decide) _
  · next hbare => exact afterComments_of_isBareWord (isBareWord_of_not_needsQuotes hbare) rest

/-- The label of a field is its identifier, quoted or not. -/
theorem label?_identifier (name rest : String) :
    label? (identifier name ++ (": " ++ rest)).toList = some (identifier name) := by
  have hcode : (identifier name ++ (": " ++ rest)).toList =
      (identifier name).toList ++ ':' :: ' ' :: rest.toList := by simp
  rw [label?, hcode, splitName_identifier name (by decide)]
  simp

theorem fieldLabel?_identifier (name rest : String) :
    fieldLabel? (identifier name ++ (": " ++ rest)) = some (identifier name) := by
  have hcode : (identifier name ++ (": " ++ rest)).toList =
      (identifier name).toList ++ ':' :: (" " ++ rest).toList := by simp
  have hlabel := label?_identifier name rest
  rw [fieldLabel?, hcode, afterComments_identifier, codeLabel?,
    splitName_identifier name (by decide)]
  rwa [hcode] at hlabel

/-- Behind a word and a blank there is a field only if the word is `comptime`. -/
theorem fieldLabel?_word {word : String} (h : isBareWord word.toList = true) (rest : String) :
    fieldLabel? (word ++ (" " ++ rest)) =
      if word = "comptime" then label? rest.toList else none := by
  have hcode : (word ++ (" " ++ rest)).toList = word.toList ++ ' ' :: rest.toList := by simp
  rw [fieldLabel?, hcode, afterComments_of_isBareWord h, codeLabel?,
    splitName_of_isBareWord h (by decide)]
  simp

/-- A constant field shows its label behind the mark. -/
theorem fieldLabel?_comptime (name rest : String) :
    fieldLabel? ("comptime " ++ (identifier name ++ (": " ++ rest))) = some (identifier name) := by
  have hword : "comptime " = "comptime" ++ " " := rfl
  rw [hword, String.append_assoc, fieldLabel?_word (by decide), if_pos rfl, label?_identifier]

/-- A builtin is no name. -/
theorem fieldLabel?_manualPlaceholder (rest : String) :
    fieldLabel? (manualPlaceholder ++ rest) = none := by
  have hat : isWordAscii '@' = false := by decide
  simp [fieldLabel?, manualPlaceholder, afterComments, codeLabel?, splitName, label?, hat]

/-- A public constant is no field. -/
theorem fieldLabel?_pub (rest : String) : fieldLabel? ("pub" ++ (" " ++ rest)) = none :=
  fieldLabel?_word (by decide) rest

end Zig

/-! ## What a declaration is read as -/

/-- The name of the field that a child of a struct is, if it is one. -/
def Declaration.fieldName? (d : Declaration) : Option String :=
  if d.kind = .property ∧ d.type.isSome ∧ d.name ≠ internalName then some d.name else none

/-- A field has the name of its declaration. -/
theorem Declaration.name_of_fieldName? {d : Declaration} {name : String}
    (h : d.fieldName? = some name) : name = d.name := by
  unfold fieldName? at h
  split at h
  · exact (Option.some.inj h).symm
  · cases h

namespace Lowering

open Emission

variable {α : Type} {label : Option String} {d : Declaration} {parts : Parts}

/-- Whenever the framed step succeeds, the field name of what it writes is this one. -/
structure Shows (x : Emission α) (label : Option String) : Prop where
  framed : x.Framed
  label_eq : ∀ s a text, x.Yields s a text → Zig.fieldLabel? text = label

/-- The front of a text decides what it shows. -/
theorem shows_write_bind {front : String} {x : Emission α} (hx : x.Framed)
    (h : ∀ rest, Zig.fieldLabel? (front ++ rest) = label) :
    Shows (write front >>= fun _ => x) label where
  framed := (framed_write front).bind fun _ => hx
  label_eq s a text hy := by
    obtain ⟨rest, -, rfl⟩ := (yields_write_bind_iff hx).1 hy
    exact h rest

/-- A comment does not change what is shown. -/
theorem Shows.doc_bind {x : Emission α} (h : Shows x label) (d : Declaration) :
    Shows (doc d >>= fun _ => x) label where
  framed := (framed_doc d).bind fun _ => h.framed
  label_eq s a text hy := by
    obtain ⟨rest, hrest, rfl⟩ := (yields_doc_bind_iff h.framed).1 hy
    rw [Zig.fieldLabel?_comment]
    exact h.label_eq s a rest hrest

theorem Shows.note_bind {x : Emission α} (h : Shows x label) (n : Notice) :
    Shows (note n >>= fun _ => x) label where
  framed := (framed_note n).bind fun _ => h.framed
  label_eq s a text hy := h.label_eq s a text ((yields_note_bind_iff h.framed).1 hy)

theorem Shows.reading_bind {f : Schema → Emission α} (h : ∀ s, Shows (f s) label) :
    Shows (reading >>= f) label where
  framed := framed_reading.bind fun s => (h s).framed
  label_eq s a text hy := (h s).label_eq s a text (yields_reading_bind_iff.1 hy)

theorem Shows.ofExcept_bind {β : Type} {f : β → Emission α} (h : ∀ b, Shows (f b) label)
    (r : Except Failure β) : Shows (Emission.ofExcept r >>= f) label where
  framed := (framed_ofExcept r).bind fun b => (h b).framed
  label_eq s a text hy := by
    obtain ⟨b, -, hy⟩ := yields_ofExcept_bind_iff.1 hy
    exact (h b).label_eq s a text hy

theorem shows_pure (a : α) : Shows (pure a) none where
  framed := framed_pure a
  label_eq s b text hy := by
    rw [(yields_pure_iff.1 hy).2]
    rfl

theorem shows_skip : Shows skip none :=
  shows_pure false

theorem shows_skipNoting (n : Notice) : Shows (skipNoting n) none :=
  (shows_pure false).note_bind n

/-! ## The rules -/

/-- A constant shows no field. -/
theorem fieldLabel?_constHead (d : Declaration) (rest : String) :
    Zig.fieldLabel? (constHead d ++ rest) = none := by
  have hword : "pub const " = "pub" ++ (" " ++ "const ") := rfl
  simp only [constHead, hword, String.append_assoc]
  exact Zig.fieldLabel?_pub _

theorem fieldLabel?_genericHead (d : Declaration) (rest : String) :
    Zig.fieldLabel? (genericHead d ++ rest) = none := by
  have hword : "pub fn " = "pub" ++ (" " ++ "fn ") := rfl
  simp only [genericHead, hword, String.append_assoc]
  exact Zig.fieldLabel?_pub _

/-- A constant is no field, whatever follows its head. -/
theorem shows_constHead_bind {x : Emission α} (hx : x.Framed) (d : Declaration) (more : String) :
    Shows (write (constHead d ++ more) >>= fun _ => x) none := by
  refine shows_write_bind hx fun rest => ?_
  rw [String.append_assoc]
  exact fieldLabel?_constHead d _

theorem framed_closed {x : Emission Unit} (h : x.Framed) (closing : String) :
    (do x; write closing; return true : Emission Bool).Framed :=
  h.bind fun _ => (framed_write closing).bind fun _ => framed_pure true

theorem shows_documented (d : Declaration) (value : String) :
    Shows (do doc d; constant d value; return true : Emission Bool) none := by
  have hconstant : constant d value = write (constHead d ++ (value ++ ";\n")) := by
    rw [constant, String.append_assoc]
  rw [hconstant]
  exact (shows_constHead_bind (framed_pure true) d _).doc_bind d

theorem shows_referenceDeclaration (pair : Pair) (d : Declaration) :
    Shows (referenceDeclaration pair d) none := by
  unfold referenceDeclaration
  split
  · exact ⟨framed_fail _, fun _ _ _ hy => (not_yields_fail hy).elim⟩
  · exact .reading_bind fun _ => .ofExcept_bind (fun _ => shows_documented d _) _

/-- A struct or a function to one. -/
theorem shows_interface (h : parts.children.Framed) : Shows (interface d parts) none := by
  refine .doc_bind ?_ d
  split
  · exact shows_constHead_bind (framed_closed h _) d _
  · exact shows_write_bind ((framed_write _).bind fun _ => framed_closed h _)
      (fieldLabel?_genericHead d)

/-- An alias shows no field, generic or not. -/
theorem shows_aliasText {type : Emission Unit} (h : type.Framed) (d : Declaration) :
    Shows (do aliasText d type; return true : Emission Bool) none := by
  unfold aliasText
  rw [bind_assoc]
  refine .doc_bind ?_ d
  split
  · rw [bind_assoc]
    exact shows_write_bind ((h.bind fun _ => framed_write _).bind fun _ => framed_pure true)
      (fieldLabel?_constHead d)
  · rw [bind_assoc]
    exact shows_write_bind (((framed_write _).bind fun _ => h.bind fun _ => framed_write _).bind
      fun _ => framed_pure true) (fieldLabel?_genericHead d)

theorem shows_typeAlias (pair : Pair) (h : parts.type.Framed) :
    Shows (typeAlias pair d parts) none := by
  unfold typeAlias
  split
  · exact shows_skipNoting _
  · exact shows_skipNoting _
  · refine .reading_bind fun _ => ?_
    split
    · exact shows_skipNoting _
    · exact shows_aliasText h d

/-- A type literal shows no field of its own. -/
theorem shows_typeLiteral (h : parts.children.Framed) : Shows (typeLiteral d parts) none := by
  unfold typeLiteral
  split
  · unfold placeholder
    rw [bind_assoc]
    refine .reading_bind fun _ => ?_
    rw [bind_assoc]
    exact .note_bind (shows_write_bind (framed_pure true) Zig.fieldLabel?_manualPlaceholder) _
  · refine shows_write_bind (framed_closed h _) fun rest => ?_
    have hword : "struct \x7b\n" = "struct" ++ (" " ++ "\x7b\n") := rfl
    rw [hword, String.append_assoc, String.append_assoc]
    exact Zig.fieldLabel?_word (by decide) _

theorem shows_namespaceDeclaration (h : parts.children.Framed) :
    Shows (namespaceDeclaration d parts) none := by
  unfold namespaceDeclaration
  split
  · exact shows_skipNoting _
  · refine .doc_bind ?_ d
    split
    · refine shows_constHead_bind ((framed_all ?_).bind fun _ =>
        (framed_write _).bind fun _ => framed_pure true) d _
      intro x hx
      obtain ⟨child, -, rfl⟩ := List.mem_map.1 hx
      exact framed_enumCase d child
    · exact shows_constHead_bind (framed_closed h _) d _

theorem shows_binding (h : parts.type.Framed) : Shows (binding d parts) none := by
  unfold binding
  split
  · exact shows_skipNoting _
  · split
    · exact shows_documented d _
    · split
      · exact shows_documented d _
      · exact (shows_documented d _).note_bind _
    · exact .doc_bind (shows_write_bind (framed_closed h _) (fieldLabel?_constHead d)) d
    · exact shows_skipNoting _

theorem shows_enumeration (h : parts.children.Framed) : Shows (enumeration d parts) none :=
  (shows_constHead_bind (framed_closed h _) d _).doc_bind d

theorem shows_enumerationMember (d : Declaration) : Shows (enumerationMember d) none := by
  unfold enumerationMember
  split
  · exact shows_documented d _
  · exact (shows_documented d _).note_bind _

/-- A property with a type is a field of its name. -/
theorem shows_property (h : parts.type.Framed) (htype : d.type.isSome) :
    Shows (property d parts) (some (Zig.identifier d.name)) := by
  unfold property
  split
  · next hnone => simp [hnone] at htype
  · refine .doc_bind (shows_write_bind (framed_pure true) fun rest => ?_) d
    simp only [String.append_assoc]
    exact Zig.fieldLabel?_comptime _ _
  · refine .doc_bind ?_ d
    split
    · have hcolon : ": ?" = ": " ++ "?" := rfl
      refine shows_write_bind (framed_closed h _) fun rest => ?_
      rw [hcolon, String.append_assoc, String.append_assoc]
      exact Zig.fieldLabel?_identifier _ _
    · refine shows_write_bind (framed_closed h _) fun rest => ?_
      rw [String.append_assoc]
      exact Zig.fieldLabel?_identifier _ _

/-- What a declaration of any kind is written as is a field only if the declaration is one, and
then it is the field of its name. -/
theorem shows_byKind (pair : Pair) (d : Declaration) (ht : parts.type.Framed)
    (hc : parts.children.Framed) :
    Shows (byKind pair d parts) (d.fieldName?.map Zig.identifier) := by
  unfold byKind Declaration.fieldName?
  split
  · next hname =>
    have hname : d.name = Declaration.internalName := by simpa using hname
    simpa [hname] using shows_skip
  · next hname =>
    have hname : d.name ≠ Declaration.internalName := by simpa using hname
    cases hkind : d.kind with
    | property =>
      cases htype : d.type with
      | none =>
        simpa [property, htype] using shows_skipNoting (.propertyWithoutType d.name)
      | some t => simpa [hname, htype] using shows_property ht (by simp [htype])
    | reference => simpa using shows_referenceDeclaration pair d
    | interface => simpa using shows_interface hc
    | typeAlias => simpa using shows_typeAlias pair ht
    | typeLiteral => simpa using shows_typeLiteral hc
    | nameSpace => simpa using shows_namespaceDeclaration hc
    | binding => simpa using shows_binding ht
    | enumeration => simpa using shows_enumeration hc
    | enumerationMember => simpa using shows_enumerationMember d
    | other kind => simpa using shows_skipNoting (.unhandledKind d.name kind)
    | _ => simpa using shows_skip

end Lowering

namespace Pair

open Lowering

variable {pair : Pair} {s : Schema}

/-- What a declaration is written as alone is the field that it is, if it is one. -/
theorem fieldLabel?_standalone {v : Visit} {written : Bool}
    (h : (pair.standalone v).result = .ok written) :
    Zig.fieldLabel? (pair.standalone v).text = v.2.fieldName?.map Zig.identifier := by
  have hshows : Shows (pair.emitDeclaration v.2) (v.2.fieldName?.map Zig.identifier) := by
    rw [emitDeclaration, declaration_eq]
    exact shows_byKind pair v.2 (framed_optionalType pair (framed_inliner pair _) v.2.type)
      (framed_inOrder (framed_declarations pair (framed_inliner pair _) v.2.children))
  exact hshows.label_eq v.1 written _ ⟨h, rfl⟩

/-- The names of the fields among declarations. -/
def fieldNames (vs : List Visit) : List String :=
  vs.filterMap fun v => v.2.fieldName?

/-- The field names that are read off what declarations are written as, each alone. -/
def fieldLabels (pair : Pair) (vs : List Visit) : List String :=
  vs.filterMap fun v => Zig.fieldLabel? (pair.standalone v).text

/-- What is written of visits shows the names of those that are fields, in their order. -/
theorem fieldLabels_eq {vs : List Visit}
    (h : ∀ v ∈ vs, ∃ written, (pair.standalone v).result = .ok written) :
    pair.fieldLabels vs = (fieldNames vs).map Zig.identifier := by
  have hlabels : pair.fieldLabels vs = vs.filterMap fun v => v.2.fieldName?.map Zig.identifier :=
    List.filterMap_congr fun v hv => by
      obtain ⟨written, hwritten⟩ := h v hv
      exact fieldLabel?_standalone hwritten
  rw [hlabels, fieldNames, List.map_filterMap]

/-- The texts of visits that are put together are put together. -/
theorem texts_flatMap {α : Type} (f : α → List Visit) (xs : List α) :
    pair.texts (xs.flatMap f) = String.join (xs.map fun x => pair.texts (f x)) := by
  induction xs with
  | nil => rfl
  | cons x xs ih =>
    rw [List.flatMap_cons, List.map_cons, String.join_cons, ← ih]
    simp [texts]

/-- The field names of a declaration's children are among the names of all children. -/
theorem nodup_fieldNames {d : Declaration} (h : (d.children.map (·.name)).Nodup) (s : Schema) :
    (fieldNames (d.sortedChildren.map (s, ·))).Nodup := by
  have hnames : (d.sortedChildren.map (·.name)).Nodup :=
    ((List.mergeSort_perm d.children _).map _).nodup_iff.2 h
  refine hnames.sublist ?_
  rw [fieldNames, List.filterMap_map]
  induction d.sortedChildren with
  | nil => simp
  | cons c cs ih =>
    rw [List.filterMap_cons, List.map_cons]
    split
    · exact ih.cons c.name
    · next name hname =>
      rw [Declaration.name_of_fieldName? hname]
      exact ih.cons_cons c.name

/-- The type is a reference to an interface. -/
def RefersToInterface (pair : Pair) (s : Schema) (t : TypeNode) : Prop :=
  ∃ name arguments home d, t = .reference name arguments ∧
    pair.locateMember s name = .ok (home, d) ∧ d.kind = .interface

/-- The children of every interface in the documents have names of their own. -/
def HasDistinctChildren (pair : Pair) : Prop :=
  ∀ s d, (Part.declaration d).Below (pair.document s).root → d.kind = .interface →
    (d.children.map (·.name)).Nodup

/-- Where fields hold nothing, the interfaces are at the top level. -/
theorem hasDistinctChildren_of_flat {types protocol : Declaration}
    (htop : ∀ c ∈ types.children ++ protocol.children,
      c.type = none ∧ (c.children.map (·.name)).Nodup)
    (hfields : ∀ c ∈ types.children ++ protocol.children, ∀ f ∈ c.children,
      f.kind ≠ .interface ∧ f.children = [] ∧ ∀ t, f.type = some t → ∀ p, ¬(Part.type t).Holds p) :
    (Pair.mk (.ofRoot types) (.ofRoot protocol)).HasDistinctChildren := by
  rintro s d ⟨c, hc, hreach⟩ hkind
  have hc : c ∈ types.children ++ protocol.children := by
    cases s
    · exact List.mem_append_left _ hc
    · exact List.mem_append_right _ hc
  obtain ⟨htype, hnodup⟩ := htop c hc
  rw [Part.reaches_declaration_iff] at hreach
  obtain hcd | ⟨f, hf, hreach⟩ | ⟨t, ht, -⟩ := hreach
  · cases hcd
    exact hnodup
  · obtain ⟨hfkind, hfchildren, hftype⟩ := hfields c hc f hf
    rw [Part.reaches_declaration_iff, hfchildren] at hreach
    obtain hfd | ⟨g, hg, -⟩ | ⟨t, ht, hreach⟩ := hreach
    · cases hfd
      exact (hfkind hkind).elim
    · simp at hg
    · obtain htd | ⟨p, hp, -⟩ := Part.reaches_iff.1 hreach
      · cases htd
      · exact (hftype t ht p hp).elim
  · rw [htype] at ht
    cases ht

end Pair

open Pair

/-- A successful intersection of references to interfaces writes all fields of all its members
into one struct. If the children of every interface in the documents have names of their own,
then no field name is in that struct twice if and only if no two members have a field of the
same name. -/
theorem intersection_fields_distinct_iff {pair : Pair} (hp : pair.IsIndexed)
    (hdistinct : pair.HasDistinctChildren) (e : Emitter) (members : List TypeNode)
    (hmembers : ∀ t ∈ members, pair.RefersToInterface e.schema t)
    (h : ((pair.emitType (.intersection members)).on e).1 = .ok ()) :
    let inlined := members.flatMap (pair.inlined e.schema)
    ((pair.emitType (.intersection members)).on e).2.text =
        e.text ++ ("struct \x7b\n" ++ pair.texts inlined ++ "\x7d") ∧
      pair.fieldLabels inlined = (fieldNames inlined).map Zig.identifier ∧
      ((pair.fieldLabels inlined).Nodup ↔ members.Pairwise fun t u =>
        (fieldNames (pair.inlined e.schema t)).Disjoint
          (fieldNames (pair.inlined e.schema u))) := by
  intro inlined
  obtain ⟨text, htext, hyields⟩ := Emission.yields_of_ok (pair.framed_emitType _) h
  obtain ⟨hstruct, hresults⟩ := text_of_intersection hyields
  have hlabels : pair.fieldLabels inlined = (fieldNames inlined).map Zig.identifier := by
    refine fieldLabels_eq fun v hv => ?_
    obtain ⟨t, ht, hv⟩ := List.mem_flatMap.1 hv
    exact hresults t ht v hv
  have hown : ∀ t ∈ members, (fieldNames (pair.inlined e.schema t)).Nodup := by
    intro t ht
    obtain ⟨name, arguments, home, d, rfl, hlocated, hkind⟩ := hmembers t ht
    rw [inlined_reference arguments hlocated]
    exact nodup_fieldNames (hdistinct home d (hp.below_of_locateMember hlocated) hkind) home
  have hnames : fieldNames inlined =
      members.flatMap fun t => fieldNames (pair.inlined e.schema t) :=
    List.filterMap_flatMap
  refine ⟨by rw [htext, hstruct, texts_flatMap], hlabels, ?_⟩
  rw [hlabels, List.nodup_map_iff Zig.identifier_injective, hnames, List.nodup_flatMap,
    and_iff_right hown]

/-- Interfaces of the two documents, with a field that is quoted and one that is constant. -/
theorem intersection_fields_distinct_across :
    let field (id : Nat) (name : String) (t : TypeNode) : Declaration :=
      { id, name, kind := .property, type := some t }
    let a : Declaration :=
      { id := 1, name := "A", kind := .interface
        children := [field 2 "type" (.intrinsic "string"),
          field 3 "kind" (.literal (.string "a"))] }
    let b : Declaration :=
      { id := 1, name := "B", kind := .interface, children := [field 2 "x" (.intrinsic "number")] }
    let pair : Pair := ⟨.ofRoot { id := 0, name := "types", children := [a] },
      .ofRoot { id := 0, name := "protocol", children := [b] }⟩
    let members : List TypeNode := [.reference "A" [], .reference "B" []]
    let inlined := members.flatMap (pair.inlined .types)
    pair.HasDistinctChildren ∧
      ((pair.emitType (.intersection members)).on (.fresh .types)).2.text =
        "struct \x7b\n" ++ pair.texts inlined ++ "\x7d" ∧
      pair.fieldLabels inlined = ["@\"type\"", "kind", "x"] ∧ (pair.fieldLabels inlined).Nodup := by
  intro field a b pair members inlined
  have hdistinct : pair.HasDistinctChildren := by
    refine hasDistinctChildren_of_flat (by simp [a, b, field]) ?_
    have hintrinsic : ∀ name p, ¬(Part.type (.intrinsic name)).Holds p := nofun
    have hliteral : ∀ value p, ¬(Part.type (.literal value)).Holds p := nofun
    simp [a, b, field, hintrinsic, hliteral]
  have hmembers : ∀ t ∈ members, pair.RefersToInterface .types t := by
    have ha : pair.locateMember .types "A" = .ok (.types, a) := by cbv
    have hb : pair.locateMember .types "B" = .ok (.protocol, b) := by cbv
    simp only [members, List.forall_mem_cons]
    exact ⟨⟨"A", [], .types, a, rfl, ha, rfl⟩, ⟨"B", [], .protocol, b, rfl, hb, rfl⟩, by simp⟩
  have hok : ((pair.emitType (.intersection members)).on (.fresh .types)).1 = .ok () := by
    cbv
  obtain ⟨htext, -, hiff⟩ := intersection_fields_distinct_iff
    (show pair.IsIndexed from isIndexed_ofRoot _ _) hdistinct (.fresh .types) members hmembers hok
  have ha : fieldNames (pair.inlined .types (.reference "A" [])) = ["type", "kind"] := by cbv
  have hb : fieldNames (pair.inlined .types (.reference "B" [])) = ["x"] := by cbv
  have hlabels : pair.fieldLabels (members.flatMap (pair.inlined .types)) =
      ["@\"type\"", "kind", "x"] := by cbv
  refine ⟨hdistinct, htext.trans String.empty_append, hlabels, hiff.2 ?_⟩
  simp [members, Emitter.fresh, ha, hb]

/-- Two interfaces share a field, and the struct has it twice. -/
theorem shared_field_written_twice :
    let field (id : Nat) : Declaration :=
      { id, name := "x", kind := .property, type := some (.intrinsic "number") }
    let a : Declaration := { id := 1, name := "A", kind := .interface, children := [field 2] }
    let b : Declaration := { id := 3, name := "B", kind := .interface, children := [field 4] }
    let pair : Pair := ⟨.ofRoot { id := 0, name := "types", children := [a, b] },
      .ofRoot { id := 0, name := "protocol" }⟩
    let members : List TypeNode := [.reference "A" [], .reference "B" []]
    let written := (pair.emitType (.intersection members)).on (.fresh .protocol)
    pair.IsIndexed ∧ pair.HasDistinctChildren ∧
      (∀ t ∈ members, pair.RefersToInterface .protocol t) ∧ written.1 = .ok () ∧
      written.2.text = "struct \x7b\n" ++ ("x: i64,\n" ++ "x: i64,\n") ++ "\x7d" ∧
      pair.fieldLabels (members.flatMap (pair.inlined .protocol)) = ["x", "x"] ∧
      ¬(pair.fieldLabels (members.flatMap (pair.inlined .protocol))).Nodup := by
  intro field a b pair members written
  have hdistinct : pair.HasDistinctChildren := by
    refine hasDistinctChildren_of_flat (by simp [a, b, field]) ?_
    have hintrinsic : ∀ name p, ¬(Part.type (.intrinsic name)).Holds p := nofun
    simp [a, b, field, hintrinsic]
  have ha : pair.locateMember .protocol "A" = .ok (.types, a) := by cbv
  have hb : pair.locateMember .protocol "B" = .ok (.types, b) := by cbv
  have hmembers : ∀ t ∈ members, pair.RefersToInterface .protocol t := by
    simp only [members, List.forall_mem_cons]
    exact ⟨⟨"A", [], .types, a, rfl, ha, rfl⟩, ⟨"B", [], .types, b, rfl, hb, rfl⟩, by simp⟩
  have hwritten : written = (pair.emitType (.intersection members)).on (.fresh .protocol) := rfl
  have hok : written.1 = .ok () := by
    rw [hwritten]
    cbv
  have htext : written.2.text = "struct \x7b\n" ++ ("x: i64,\n" ++ "x: i64,\n") ++ "\x7d" := by
    rw [hwritten]
    cbv
  have hlabels : pair.fieldLabels (members.flatMap (pair.inlined .protocol)) = ["x", "x"] := by cbv
  refine ⟨isIndexed_ofRoot _ _, hdistinct, hmembers, hok, htext, hlabels, ?_⟩
  rw [hlabels]
  decide

end ZigReflect
