import ZigReflect.Proofs.Contents
import ZigReflect.Proofs.Scan
import ZigReflect.Walk

/-!
# Emitted text is balanced

`Scans x s t` says that whatever a successful emission appends takes the scanner
from one state to another. It composes along the steps of an emission
(`Scans.bind`). An emission is steady (`Steady`) if it scans from code to the
same code, whatever brackets are open.

Every rule is steady if its parts are: what it opens it closes around them. The
only text that is written as it stands is the name of an intrinsic type, so the
recursion asks that these are bare words. The members of intersections come from
the documents, and what is found there has the intrinsic types of the document.
-/

set_option linter.unusedSectionVars false

namespace ZigReflect

open Zig (Scan Passes IsClosed Balanced)

namespace Emission

variable {α β : Type} {s t u : Scan}

/-- What the step appends, if it succeeds, takes the scanner from one state to
another. -/
def Scans (x : Emission α) (s t : Scan) : Prop :=
  ∀ e a, (x.on e).1 = .ok a →
    ∃ added, (x.on e).2.text = e.text ++ added ∧ Passes added s t

/-- What the step appends, if it succeeds, is closed. -/
def Steady (x : Emission α) : Prop :=
  ∀ closers, x.Scans (.inCode closers) (.inCode closers)

/-! ## Steps -/

/-- A step that leaves the text as it is passes it on in the mode it was in. -/
theorem scans_of_text_eq {x : Emission α} (h : ∀ e, (x.on e).2.text = e.text) : x.Scans s s :=
  fun e _ _ => ⟨"", by rw [h, String.append_empty], rfl⟩

theorem scans_pure (a : α) : (pure a : Emission α).Scans s s :=
  scans_of_text_eq fun _ => rfl

theorem scans_note (n : Notice) : (note n).Scans s s :=
  scans_of_text_eq fun _ => rfl

theorem scans_reading : reading.Scans s s :=
  scans_of_text_eq fun _ => rfl

theorem scans_emittedNames : emittedNames.Scans s s :=
  scans_of_text_eq fun _ => rfl

theorem scans_record (name : String) : (record name).Scans s s :=
  scans_of_text_eq fun _ => rfl

/-- A failure passes the text on in any mode, since nothing is asked of a run that failed. -/
theorem scans_fail (f : Failure) : (fail f : Emission α).Scans s t :=
  fun _ _ h => by simp at h

/-- Writing a text goes where the text goes. -/
theorem scans_write {text : String} (h : Passes text s t) : (write text).Scans s t :=
  fun _ _ _ => ⟨text, rfl, h⟩

/-- The second step goes on where the first one stopped. -/
theorem Scans.bind {x : Emission α} {f : α → Emission β} (hx : x.Scans s t)
    (hf : ∀ a, (f a).Scans t u) : (x >>= f).Scans s u := by
  intro e b h
  rw [on_bind] at h ⊢
  specialize hx e
  rcases hr : x.on e with ⟨_ | a, after⟩
  · simp [hr] at h
  · simp only [hr] at h hx ⊢
    obtain ⟨added, ht, hp⟩ := hx a rfl
    obtain ⟨more, ht', hp'⟩ := hf a after b h
    exact ⟨added ++ more, by rw [ht', ht, String.append_assoc], hp.append hp'⟩

/-- What follows a lookup has to scan for what can be found. -/
theorem scans_ofExcept_bind {r : Except Failure α} {f : α → Emission β}
    (h : ∀ a, r = .ok a → (f a).Scans s t) : (ofExcept r >>= f).Scans s t := by
  cases r with
  | ok a =>
    rw [ofExcept, pure_bind]
    exact h a rfl
  | error r =>
    intro e b hb
    simp [ofExcept, on_bind] at hb

/-- Which document is read does not matter to brackets. -/
theorem Scans.within {x : Emission α} (hx : x.Scans s t) (schema : Schema) :
    (within schema x).Scans s t :=
  fun e => hx { e with schema }

/-- A text whose brackets are closed can be written anywhere. -/
theorem steady_write {text : String} (h : IsClosed text) : (write text).Steady :=
  fun closers => scans_write (h closers)

/-- Steady steps, one after the other. -/
theorem Steady.bind {x : Emission α} {f : α → Emission β} (hx : x.Steady)
    (hf : ∀ a, (f a).Steady) : (x >>= f).Steady :=
  fun closers => (hx closers).bind fun a => hf a closers

theorem steady_all : ∀ {xs : List (Emission Unit)}, (∀ x ∈ xs, x.Steady) → (all xs).Steady
  | [], _ => fun _ => scans_pure ()
  | x :: xs, h => (h x (by simp)).bind fun _ => steady_all fun y hy => h y (by simp [hy])

/-- Steady steps with a closed text between all of them. -/
theorem steady_separated {separator : String} (hs : IsClosed separator) :
    ∀ {xs : List (Emission Unit)}, (∀ x ∈ xs, x.Steady) → (separated separator xs).Steady
  | [], _ => fun _ => scans_pure ()
  | [x], h => h x (by simp)
  | x :: y :: xs, h =>
    (h x (by simp)).bind fun _ => (steady_write hs).bind fun _ =>
      steady_separated hs fun z hz => h z (List.mem_cons_of_mem x hz)

/-- A steady step between a text that opens brackets and one that closes them. -/
theorem steady_bracketed {opening closing : String} (brackets : List Char)
    (ho : Passes opening (.inCode []) (.inCode brackets))
    (hc : Passes closing (.inCode brackets) (.inCode [])) {x : Emission Unit} (hx : x.Steady) :
    (do write opening; x; write closing).Steady :=
  fun closers => (scans_write (ho.around closers)).bind fun _ => (hx _).bind fun _ =>
    scans_write (hc.around closers)

end Emission

/-- Every name is a bare word. -/
def AreBare (names : List String) : Prop :=
  ∀ name ∈ names, Zig.isBareWord name.toList = true

instance (names : List String) : Decidable (AreBare names) :=
  inferInstanceAs (Decidable (∀ name ∈ names, _))

theorem areBare_append {xs ys : List String} : AreBare (xs ++ ys) ↔ AreBare xs ∧ AreBare ys :=
  List.forall_mem_append

/-- With a declaration, its type and its children have bare names. -/
theorem Declaration.areBare_parts {d : Declaration} (h : AreBare d.intrinsics) :
    AreBare (gatherType? (fun name => [name]) (fun _ => []) d.type) ∧
      AreBare (gatherDeclarations (fun name => [name]) (fun _ => []) d.children) := by
  rw [Declaration.intrinsics, Declaration.gather_eq] at h
  simp only [areBare_append] at h
  exact ⟨h.2.1, h.2.2.1⟩

/-- Every intrinsic type of the two documents is named by a bare word. -/
def Pair.HasBareIntrinsics (pair : Pair) : Prop :=
  ∀ schema, AreBare (pair.document schema).root.intrinsics

namespace Lowering

open Emission

variable {d : Declaration} {parts : Parts}

/-! ## The rules for types -/

theorem steady_void {x : Emission Bool} (hx : x.Steady) : (void x).Steady :=
  hx.bind fun _ _ => scans_pure ()

theorem isClosed_comma : IsClosed ", " :=
  Balanced.isClosed (by decide)

theorem isClosed_colon : IsClosed ": " :=
  Balanced.isClosed (by decide)

theorem isClosed_equals : IsClosed " = " :=
  Balanced.isClosed (by decide)

/-- The placeholder for what has to be written by hand is closed. -/
theorem isClosed_manualPlaceholder : IsClosed Zig.manualPlaceholder :=
  Balanced.isClosed (by decide)

/-- A notice does not show in the text. -/
theorem steady_placeholder (n : Schema → Notice) {text : String} (h : IsClosed text) :
    (placeholder n text).Steady :=
  fun closers => scans_reading.bind fun _ => (scans_note _).bind fun _ => scans_write (h closers)

/-- The parentheses of a reference are closed around its arguments. -/
theorem steady_reference (name : String) {arguments : List (Emission Unit)}
    (h : ∀ x ∈ arguments, x.Steady) : (reference name arguments).Steady := by
  refine (steady_write (Zig.isClosed_identifier name)).bind fun _ => ?_
  cases arguments.isEmpty with
  | true => exact fun _ => scans_pure ()
  | false =>
    exact steady_bracketed [')'] (by decide) (by decide)
      (steady_separated isClosed_comma h)

theorem steady_array {element : Emission Unit} (h : element.Steady) : (array element).Steady :=
  (steady_write (Balanced.isClosed (by decide))).bind fun _ => h

/-- The brace of a tuple is closed behind its elements. -/
theorem steady_tuple {elements : List (Emission Unit)} (h : ∀ x ∈ elements, x.Steady) :
    (tuple elements).Steady :=
  steady_bracketed ['\x7d', ')'] (by decide) (by decide)
    (steady_separated isClosed_comma h)

/-- The labels of an enum are identifiers, quoted where they have to be. -/
theorem steady_literalEnum (values : List Literal) : (literalEnum values).Steady := by
  refine steady_bracketed ['\x7d'] (by decide) (by decide) (steady_write ?_)
  refine Zig.isClosed_join fun text ht => ?_
  obtain ⟨v, -, rfl⟩ := List.mem_map.1 ht
  exact (Zig.isClosed_identifier v.caseName).append isClosed_comma

/-- A case is a label and its payload. -/
theorem steady_unionCase (name : String) {payload : Emission Unit} (h : payload.Steady) :
    (unionCase name payload).Steady :=
  (steady_write (Zig.isClosed_identifier name)).bind fun _ =>
    (steady_write isClosed_colon).bind fun _ => h

/-- The brace of a tagged union is closed behind its cases. -/
theorem steady_taggedUnion {cases : List (TypeNode × Emission Unit)}
    (h : ∀ c ∈ cases, c.2.Steady) : (taggedUnion cases).Steady := by
  refine steady_bracketed ['\x7d'] (by decide) (by decide)
    (steady_separated isClosed_comma ?_)
  intro x hx
  obtain ⟨i, hi, rfl⟩ := List.mem_iff_getElem.1 hx
  simp only [List.getElem_zipWith, List.getElem_map]
  exact steady_unionCase _ (h _ (List.getElem_mem _))

/-- A union is steady in each of its forms. -/
theorem steady_union {members : List (TypeNode × Emission Unit)}
    (h : ∀ m ∈ members, m.2.Steady) : (union members).Steady := by
  have hc : ∀ m ∈ members.filter fun m => !m.1.isNull, m.2.Steady := fun m hm =>
    h m (List.mem_filter.1 hm).1
  unfold union
  split
  · exact steady_literalEnum _
  · split
    · refine (steady_write (Balanced.isClosed (by decide))).bind fun _ => ?_
      split
      · exact steady_write (Balanced.isClosed (by decide))
      · next only heq => exact hc only (by simp [heq])
      · exact steady_taggedUnion hc
    · exact steady_taggedUnion hc

theorem steady_intersection {inline : Inliner} (h : ∀ name, (inline name).Steady)
    (members : List TypeNode) : (intersection inline members).Steady := by
  refine steady_bracketed ['\x7d'] (by decide) (by decide) (steady_all ?_)
  intro x hx
  obtain ⟨t, -, rfl⟩ := List.mem_map.1 hx
  unfold intersectionMember
  split
  · exact h _
  · exact fun _ => scans_reading.bind fun _ => scans_note _

/-! ## The rules for declarations -/

/-- A comment ends with its line, so it can stand wherever code can. -/
theorem steady_doc (d : Declaration) : (doc d).Steady := by
  unfold doc
  split
  · exact steady_write (isClosed_docText _)
  · exact fun _ => scans_pure ()

theorem steady_skipNoting (n : Notice) : (skipNoting n).Steady :=
  fun _ => (scans_note n).bind fun _ => scans_pure false

/-- What stands before the value of a constant is closed. -/
theorem isClosed_constHead (d : Declaration) : IsClosed (constHead d) :=
  ((Balanced.isClosed (by decide)).append (Zig.isClosed_identifier d.name)).append
    isClosed_equals

/-- The head of a generic declaration opens the body of a function. -/
theorem passes_genericHead (d : Declaration) :
    Passes (genericHead d) (.inCode []) (.inCode ['\x7d']) := by
  have hparameters : IsClosed (", ".intercalate
      (d.typeParameters.map fun p => "comptime " ++ Zig.identifier p ++ ": type")) := by
    refine Zig.isClosed_intercalate isClosed_comma fun text ht => ?_
    obtain ⟨p, -, rfl⟩ := List.mem_map.1 ht
    exact ((Balanced.isClosed (by decide)).append (Zig.isClosed_identifier p)).append
      (Balanced.isClosed (by decide))
  have hfn : Passes "pub fn " (.inCode []) (.inCode []) := by decide
  have hopen : Passes "(" (.inCode []) (.inCode [')']) := by decide
  have hbody : Passes ") type \x7b\n" (.inCode [')']) (.inCode ['\x7d']) := by decide
  exact (((hfn.append (Zig.isClosed_identifier d.name [])).append hopen).append
    (hparameters _)).append hbody

/-- A steady step between the braces of a struct or enum that a head introduces. -/
theorem steady_body {head opening closing : String} (hh : IsClosed head)
    (ho : Passes opening (.inCode []) (.inCode ['\x7d']))
    (hc : Passes closing (.inCode ['\x7d']) (.inCode [])) {x : Emission Unit} (hx : x.Steady) :
    (do write (head ++ opening); x; write closing; return true : Emission Bool).Steady :=
  fun closers => (scans_write ((hh closers).append (ho.around closers))).bind fun _ =>
    (hx _).bind fun _ => (scans_write (hc.around closers)).bind fun _ => scans_pure true

/-- A constant after its comment, as most rules write it. -/
theorem steady_documented (d : Declaration) {value : String} (h : IsClosed value) :
    (do doc d; constant d value; return true : Emission Bool).Steady :=
  (steady_doc d).bind fun _ =>
    (steady_write (((isClosed_constHead d).append h).append (Balanced.isClosed (by decide)))).bind
      fun _ _ => scans_pure true

theorem steady_referenceDeclaration (pair : Pair) (d : Declaration) :
    (referenceDeclaration pair d).Steady := by
  unfold referenceDeclaration
  split
  · exact fun _ => scans_fail _
  · exact fun closers => scans_reading.bind fun _ => scans_ofExcept_bind fun target _ =>
      steady_documented d (Zig.isClosed_identifier target.name) closers

/-- The function of a generic alias closes its brace. -/
theorem steady_aliasText (d : Declaration) {type : Emission Unit} (h : type.Steady) :
    (aliasText d type).Steady := by
  refine (steady_doc d).bind fun _ => ?_
  split
  · exact (steady_write (isClosed_constHead d)).bind fun _ => h.bind fun _ =>
      steady_write (Balanced.isClosed (by decide))
  · intro closers
    have hreturn : Passes "return " (.inCode ['\x7d']) (.inCode ['\x7d']) := by decide
    have hclose : Passes ";\n\x7d\n" (.inCode ['\x7d']) (.inCode []) := by decide
    exact (scans_write ((passes_genericHead d).around closers)).bind fun _ =>
      (scans_write (hreturn.around closers)).bind fun _ => (h _).bind fun _ =>
        scans_write (hclose.around closers)

theorem steady_typeAlias (pair : Pair) (h : parts.type.Steady) :
    (typeAlias pair d parts).Steady := by
  unfold typeAlias
  split
  · exact steady_skipNoting _
  · exact steady_skipNoting _
  · refine fun closers => scans_reading.bind fun _ => ?_
    split
    · exact steady_skipNoting _ closers
    · exact (steady_aliasText d h closers).bind fun _ => scans_pure true

/-- An interface closes its brace, and that of its function if it is generic. -/
theorem steady_interface (h : parts.children.Steady) : (interface d parts).Steady := by
  refine (steady_doc d).bind fun _ => ?_
  split
  · exact steady_body (isClosed_constHead d) (by decide) (by decide) h
  · intro closers
    have hopen : Passes "return struct \x7b\n" (.inCode ['\x7d']) (.inCode ['\x7d', '\x7d']) := by
      decide
    have hclose : Passes "\x7d;\n\x7d\n" (.inCode ['\x7d', '\x7d']) (.inCode []) := by decide
    exact (scans_write ((passes_genericHead d).around closers)).bind fun _ =>
      (scans_write (hopen.around closers)).bind fun _ => (h _).bind fun _ =>
        (scans_write (hclose.around closers)).bind fun _ => scans_pure true

theorem steady_typeLiteral (h : parts.children.Steady) : (typeLiteral d parts).Steady := by
  unfold typeLiteral
  split
  · exact (steady_placeholder _ isClosed_manualPlaceholder).bind fun _ _ => scans_pure true
  · intro closers
    have hopen : Passes "struct \x7b\n" (.inCode []) (.inCode ['\x7d']) := by decide
    have hclose : Passes "\x7d" (.inCode ['\x7d']) (.inCode []) := by decide
    exact (scans_write (hopen.around closers)).bind fun _ => (h _).bind fun _ =>
      (scans_write (hclose.around closers)).bind fun _ => scans_pure true

/-- The default of a property is closed, like its value if it is a constant. -/
theorem steady_property (h : parts.type.Steady) : (property d parts).Steady := by
  have hname := Zig.isClosed_identifier d.name
  unfold property
  split
  · exact steady_skipNoting _
  · next value _ =>
    refine (steady_doc d).bind fun _ => (steady_write ?_).bind fun _ _ => scans_pure true
    have hcomptime : IsClosed "comptime " := Balanced.isClosed (by decide)
    exact (((((hcomptime.append hname).append isClosed_colon).append
      (Zig.isClosed_zigType value)).append isClosed_equals).append
        (Zig.isClosed_render value)).append (Balanced.isClosed (by decide))
  · refine (steady_doc d).bind fun _ => ?_
    split <;>
      exact (steady_write (hname.append (Balanced.isClosed (by decide)))).bind fun _ =>
        h.bind fun _ => (steady_write (Balanced.isClosed (by decide))).bind fun _ _ =>
          scans_pure true

theorem steady_enumCase (owner child : Declaration) : (enumCase owner child).Steady := by
  unfold enumCase
  split
  · next i _ =>
    refine (steady_doc child).bind fun _ => steady_write ?_
    exact (((Zig.isClosed_identifier child.name).append isClosed_equals).append
      (Zig.isClosed_render (.integer i))).append (Balanced.isClosed (by decide))
  · exact fun _ => scans_note _

/-- A namespace closes its brace as an enum and as a struct. -/
theorem steady_namespaceDeclaration (h : parts.children.Steady) :
    (namespaceDeclaration d parts).Steady := by
  unfold namespaceDeclaration
  split
  · exact steady_skipNoting _
  · refine (steady_doc d).bind fun _ => ?_
    split
    · refine steady_body (isClosed_constHead d) (by decide) (by decide) (steady_all ?_)
      intro x hx
      obtain ⟨child, -, rfl⟩ := List.mem_map.1 hx
      exact steady_enumCase d child
    · exact steady_body (isClosed_constHead d) (by decide) (by decide) h

/-- The value of a binding is closed: a literal, a default that carries over, the placeholder or its
type. -/
theorem steady_binding (h : parts.type.Steady) : (binding d parts).Steady := by
  unfold binding
  split
  · exact steady_skipNoting _
  · split
    · exact steady_documented d (Zig.isClosed_render _)
    · split
      · next value hv => exact steady_documented d (Zig.isClosed_of_initializer hv)
      · exact fun closers => (scans_note _).bind fun _ =>
          steady_documented d isClosed_manualPlaceholder closers
    · exact (steady_doc d).bind fun _ => (steady_write (isClosed_constHead d)).bind fun _ =>
        h.bind fun _ => (steady_write (Balanced.isClosed (by decide))).bind fun _ _ =>
          scans_pure true
    · exact steady_skipNoting _

theorem steady_enumeration (h : parts.children.Steady) : (enumeration d parts).Steady :=
  (steady_doc d).bind fun _ => steady_body (isClosed_constHead d) (by decide) (by decide) h

/-- The value of a member of an enumeration is a literal or a default that carries over. -/
theorem isClosed_memberValue {value : String} (h : memberValue? d = some value) :
    IsClosed value := by
  unfold memberValue? at h
  split at h
  · cases h
    exact Zig.isClosed_render _
  · obtain ⟨source, -, h⟩ := Option.bind_eq_some_iff.1 h
    exact Zig.isClosed_of_initializer h

theorem steady_enumerationMember (d : Declaration) : (enumerationMember d).Steady := by
  unfold enumerationMember
  split
  · next value hv => exact steady_documented d (isClosed_memberValue hv)
  · exact fun closers => (scans_note _).bind fun _ =>
      steady_documented d isClosed_manualPlaceholder closers

/-- The rule of every kind is steady if the parts of the declaration are. -/
theorem steady_byKind (pair : Pair) (d : Declaration) (ht : parts.type.Steady)
    (hc : parts.children.Steady) : (byKind pair d parts).Steady := by
  unfold byKind
  split
  · exact fun _ => scans_pure false
  · cases d.kind with
    | reference => exact steady_referenceDeclaration pair d
    | interface => exact steady_interface hc
    | property => exact steady_property ht
    | typeAlias => exact steady_typeAlias pair ht
    | typeLiteral => exact steady_typeLiteral hc
    | nameSpace => exact steady_namespaceDeclaration hc
    | binding => exact steady_binding ht
    | enumeration => exact steady_enumeration hc
    | enumerationMember => exact steady_enumerationMember d
    | other kind => exact steady_skipNoting _
    | _ => exact fun _ => scans_pure false

/-! ## The recursion -/

theorem steady_inOrder {children : List (Nat × Emission Bool)} (h : ∀ c ∈ children, c.2.Steady) :
    (inOrder children).Steady := by
  refine steady_all fun x hx => ?_
  obtain ⟨c, hc, rfl⟩ := List.mem_map.1 hx
  exact steady_void (h c (List.mem_mergeSort.1 hc))

section

variable (pair : Pair) {inline : Inliner} (hi : ∀ name, (inline name).Steady)
include hi

mutual

/-- By recursion over types and declarations, all of them are steady if the intrinsics are bare. -/
theorem steady_type : ∀ t : TypeNode, AreBare t.intrinsics → (type pair inline t).Steady
  | .intrinsic name, h => steady_write (Zig.isClosed_primitive (h name List.mem_cons_self))
  | .reference name arguments, h => steady_reference name (steady_types arguments h)
  | .array element, h => steady_array (steady_type element h)
  | .literal value, _ => steady_write (Zig.isClosed_render value)
  | .union members, h => steady_union fun _ hm =>
      steady_types members h _ (List.of_mem_zip hm).2
  | .tuple elements, h => steady_tuple (steady_types elements h)
  | .intersection members, _ => steady_intersection hi members
  | .indexedAccess _ _, _ => steady_placeholder _ (Balanced.isClosed (by decide))
  | .query _, _ => steady_placeholder _ (Balanced.isClosed (by decide))
  | .reflection d, h => steady_void (steady_declaration d h)

theorem steady_types : ∀ ts : List TypeNode,
    AreBare (gatherTypes (fun name => [name]) (fun _ => []) ts) →
    ∀ x ∈ types pair inline ts, x.Steady
  | [], _, x, hx => by simp [types] at hx
  | t :: ts, h, x, hx => by
    rw [types, List.mem_cons] at hx
    rw [gatherTypes, areBare_append] at h
    rcases hx with rfl | hx
    · exact steady_type t h.1
    · exact steady_types ts h.2 x hx

theorem steady_optionalType : ∀ t : Option TypeNode,
    AreBare (gatherType? (fun name => [name]) (fun _ => []) t) →
    (optionalType pair inline t).Steady
  | none, _ => fun _ => scans_pure ()
  | some t, h => steady_type t h

theorem steady_declaration : ∀ d : Declaration, AreBare d.intrinsics →
    (declaration pair inline d).Steady
  | { children, type, .. }, h => by
    obtain ⟨htype, hchildren⟩ := Declaration.areBare_parts h
    rw [declaration_eq]
    exact steady_byKind pair _ (steady_optionalType type htype)
      (steady_inOrder (steady_declarations children hchildren))

theorem steady_declarations : ∀ ds : List Declaration,
    AreBare (gatherDeclarations (fun name => [name]) (fun _ => []) ds) →
    ∀ c ∈ declarations pair inline ds, c.2.Steady
  | [], _, c, hc => by simp [declarations] at hc
  | d :: ds, h, c, hc => by
    rw [declarations, List.mem_cons] at hc
    rw [gatherDeclarations, areBare_append] at h
    rcases hc with rfl | hc
    · exact steady_declaration d h.1
    · exact steady_declarations ds h.2 c hc

end

end

/-- The fields of an intersection member are steady: the member is a part of one
of the documents. -/
theorem steady_inliner {pair : Pair} (hp : pair.HasBareIntrinsics) :
    ∀ (depth : Nat) (name : String), (inliner pair depth name).Steady
  | 0, _ => fun _ => scans_fail _
  | depth + 1, name => by
    refine fun closers => scans_reading.bind fun schema => scans_ofExcept_bind ?_
    rintro ⟨home, d⟩ hfound
    have hd : AreBare d.intrinsics := fun n hn =>
      hp home n ((Document.gather_sublist_of_mem_byName _ _
        (Pair.mem_byName_of_locateMember hfound)).subset hn)
    have hfields := steady_declarations pair (steady_inliner hp depth) d.children
      (Declaration.areBare_parts hd).2
    exact (steady_inOrder hfields closers).within home

end Lowering

namespace Pair

open Lowering Emission

variable {pair : Pair}

/-- Writing a type is steady. -/
theorem steady_emitType (hp : pair.HasBareIntrinsics) {t : TypeNode} (ht : AreBare t.intrinsics) :
    (pair.emitType t).Steady :=
  steady_type pair (steady_inliner hp pair.depth) t ht

/-- Writing a declaration is steady. -/
theorem steady_emitDeclaration (hp : pair.HasBareIntrinsics) {d : Declaration}
    (hd : AreBare d.intrinsics) : (pair.emitDeclaration d).Steady :=
  steady_declaration pair (steady_inliner hp pair.depth) d hd

/-! ## Runs -/

/-- Writing a declaration of the top level is steady: names are recorded, not written. -/
theorem steady_emitTopLevel (hp : pair.HasBareIntrinsics) {d : Declaration}
    (hd : AreBare d.intrinsics) : (pair.emitTopLevel d).Steady := by
  refine fun closers => scans_emittedNames.bind fun names => ?_
  split
  · exact scans_reading.bind fun _ => (scans_note _).bind fun _ => scans_pure false
  · refine (steady_emitDeclaration hp hd closers).bind fun written => ?_
    have hfeed : Balanced "\n" := by decide
    cases written with
    | false => exact scans_pure false
    | true =>
      exact (scans_record _).bind fun _ => (scans_write (hfeed.isClosed closers)).bind fun _ =>
        scans_pure true

/-- A visit is steady, whether it writes its declaration or only notes it. -/
theorem steady_visit (hp : pair.HasBareIntrinsics) (exclusion? : Declaration → Option Notice)
    {d : Declaration} (hd : AreBare d.intrinsics) : (pair.visit exclusion? d).Steady := by
  unfold visit
  split
  · exact fun _ => scans_note _
  · refine (steady_emitTopLevel hp hd).bind fun written => ?_
    split
    · exact fun _ => scans_reading.bind fun _ => scans_note _
    · exact fun _ => scans_pure ()

theorem steady_visitAll (hp : pair.HasBareIntrinsics) (exclusion? : Declaration → Option Notice)
    {ds : List Declaration} (hds : ∀ d ∈ ds, AreBare d.intrinsics) :
    (pair.visitAll exclusion? ds).Steady := by
  refine steady_all fun x hx => ?_
  obtain ⟨d, hd, rfl⟩ := List.mem_map.1 hx
  exact steady_visit hp exclusion? (hds d hd)

end Pair

/-- The children of a part of a document, as they are visited. -/
theorem Declaration.areBare_of_mem_sortedChildren {d child : Declaration}
    (hd : AreBare d.intrinsics) (h : child ∈ d.sortedChildren) : AreBare child.intrinsics :=
  fun name hn => hd name ((gather_sublist_of_mem _ _ (List.mem_mergeSort.1 h)).subset hn)

/-- The members of the internal container hold the intrinsics of the document. -/
theorem Document.areBare_of_mem_internalMembers {doc : Document} {d : Declaration}
    (hdoc : AreBare doc.root.intrinsics) (h : d ∈ doc.internalMembers) : AreBare d.intrinsics := by
  unfold internalMembers at h
  split at h
  · next container hc =>
    have hcontainer : AreBare container.intrinsics := fun name hn =>
      hdoc name ((Declaration.gather_sublist_of_mem _ _ (List.mem_of_find?_eq_some hc)).subset hn)
    exact Declaration.areBare_of_mem_sortedChildren hcontainer h
  · simp at h

/-- The text of a summary union is closed, whatever names it is over. -/
theorem isClosed_summaryText (union : String) (names : List String) :
    IsClosed (summaryText union (names.map Zig.identifier)) := by
  have hcases : IsClosed (", ".intercalate
      ((names.map Zig.identifier).map fun m => m ++ ": " ++ m)) := by
    refine Zig.isClosed_intercalate Lowering.isClosed_comma fun text ht => ?_
    simp only [List.mem_map, exists_exists_and_eq_and] at ht
    obtain ⟨name, -, rfl⟩ := ht
    exact ((Zig.isClosed_identifier name).append Lowering.isClosed_colon).append
      (Zig.isClosed_identifier name)
  have hbody : ∀ (empty : Bool) (cases : String), IsClosed cases →
      IsClosed (if empty then "\x7b\x7d" else "\x7b " ++ cases ++ " \x7d") := by
    intro empty cases hc
    split
    · exact Balanced.isClosed (by decide)
    · have hopen : Passes "\x7b " (.inCode []) (.inCode ['\x7d']) := by decide
      have hclose : Passes " \x7d" (.inCode ['\x7d']) (.inCode []) := by decide
      exact Balanced.isClosed ((hopen.append (hc _)).append hclose)
  have hconst : IsClosed "pub const " := Balanced.isClosed (by decide)
  have hunion : IsClosed " = union(enum) " := Balanced.isClosed (by decide)
  exact (((hconst.append (Zig.isClosed_identifier union)).append hunion).append
    (hbody _ _ hcases)).append (Balanced.isClosed (by decide))

/-- The cases of a summary union are identifiers. -/
theorem steady_summaryUnion (union suffix : String) : (summaryUnion union suffix).Steady := by
  refine fun closers => Emission.scans_emittedNames.bind fun names => ?_
  split
  · exact Emission.scans_note _
  · exact (Emission.scans_write (isClosed_summaryText union _ closers)).bind fun _ =>
      (Emission.scans_note _).bind fun _ => Emission.scans_record _

namespace Pair

open Emission

variable {pair : Pair}

theorem steady_walk (hp : pair.HasBareIntrinsics) (exclusion? : Declaration → Option Notice) :
    (pair.walk exclusion?).Steady := by
  have htypes := steady_visitAll hp exclusion? fun d hd =>
    Declaration.areBare_of_mem_sortedChildren (hp .types) hd
  have hinternal := steady_visitAll hp exclusion? fun d hd =>
    Document.areBare_of_mem_internalMembers (hp .protocol) hd
  have hprotocol := steady_visitAll hp exclusion? fun d hd =>
    Declaration.areBare_of_mem_sortedChildren (hp .protocol) hd
  exact fun closers => ((htypes closers).within _).bind fun _ =>
    ((hinternal.bind fun _ => hprotocol) closers).within _

theorem steady_body (hp : pair.HasBareIntrinsics) (exclusion? : Declaration → Option Notice)
    (summary : SummarySettings) : (pair.body exclusion? summary).Steady :=
  (steady_walk hp exclusion?).bind fun _ closers => scans_emittedNames.bind fun _ =>
    (steady_summaryUnion _ _ closers).bind fun _ =>
      (steady_summaryUnion _ _ closers).bind fun _ => scans_pure _

/-- The code of a run is the preamble and balanced declarations. -/
theorem balanced_generate (hp : pair.HasBareIntrinsics) {exclusion? : Declaration → Option Notice}
    {summary : SummarySettings} {preamble : String} {generated : Generated}
    (h : (pair.generate exclusion? summary preamble).result = .ok generated) :
    ∃ declarations, generated.code = closePreamble preamble ++ declarations ∧
      Balanced declarations := by
  have hbody := steady_body hp exclusion? summary [] (.fresh .types)
  unfold generate at h
  rcases hr : (pair.body exclusion? summary).on (.fresh .types) with ⟨_ | count, e⟩
  · simp [hr] at h
  · simp only [hr, Except.ok.injEq] at h hbody
    subst h
    obtain ⟨added, htext, hadded⟩ := hbody count rfl
    have htext : e.text = added := by simpa [Emitter.fresh] using htext
    exact ⟨added, by rw [htext], hadded⟩

end Pair

/-- If the intrinsic types of two documents have bare names, all that is appended
to an emitter for a type or declaration with bare intrinsic types is balanced,
whichever document is read, and so are the declarations of every run. -/
theorem emitted_balanced (pair : Pair) (hp : pair.HasBareIntrinsics) :
    (∀ (e : Emitter) (t : TypeNode), AreBare t.intrinsics →
      ((pair.emitType t).on e).1 = .ok () →
        ∃ added, ((pair.emitType t).on e).2.text = e.text ++ added ∧ Balanced added) ∧
    (∀ (e : Emitter) (d : Declaration) (written : Bool), AreBare d.intrinsics →
      ((pair.emitDeclaration d).on e).1 = .ok written →
        ∃ added, ((pair.emitDeclaration d).on e).2.text = e.text ++ added ∧ Balanced added) ∧
    ∀ (exclusion? : Declaration → Option Notice) (summary : SummarySettings) (preamble : String)
      (generated : Generated), (pair.generate exclusion? summary preamble).result = .ok generated →
        ∃ declarations, generated.code = closePreamble preamble ++ declarations ∧
          Balanced declarations :=
  ⟨fun e _ ht h => pair.steady_emitType hp ht [] e () h,
    fun e _ written hd h => pair.steady_emitDeclaration hp hd [] e written h,
    fun _ _ _ _ h => pair.balanced_generate hp h⟩

/-- Brackets and quotes in names and literals stay inside the quotes. -/
theorem emitted_balanced_quoted :
    let pair : Pair :=
      ⟨.ofRoot { id := 0, name := "types", children :=
          [{ id := 1, name := "a\"\x7b", kind := .binding, type := some (.intrinsic "string") }] },
        .ofRoot { id := 0, name := "protocol" }⟩
    let t : TypeNode :=
      .union [.reference "\x7b\"" [.intrinsic "any"], .array (.literal (.string "\")\n//"))]
    pair.HasBareIntrinsics ∧ AreBare t.intrinsics ∧
      ∃ added, ((pair.emitType t).on (.fresh .protocol)).2.text = "" ++ added ∧
        Balanced added := by
  intro pair t
  have hp : pair.HasBareIntrinsics := by
    intro schema
    cases schema <;> decide
  have ht : AreBare t.intrinsics := by decide
  exact ⟨hp, ht, (emitted_balanced pair hp).1 (.fresh .protocol) t ht rfl⟩

end ZigReflect
