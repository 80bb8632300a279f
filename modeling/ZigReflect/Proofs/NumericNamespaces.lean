import ZigReflect.Proofs.Flattening

/-!
# Namespaces of numbers

A namespace with a number among its members becomes an enum over 64-bit integers. A member that
is an integer is a case (`caseText`), and any other member is left out with a notice: a double
makes the namespace an enum, but has no case in it (`double_has_no_case`).

`on_enumCase` says what one member does, and `on_enumCases` what all of them do in a row. So the
integers of a namespace of numbers are all kept, each once, in the order of their ids
(`Pair.numeric_namespace_cases`).
-/

namespace ZigReflect

open Lowering Emission

/-- The integer that is the type of a declaration. -/
def Declaration.integer? (d : Declaration) : Option Int :=
  match d.literalType with
  | some (.integer i) => some i
  | _ => none

theorem Declaration.integer?_eq_some_iff {d : Declaration} {i : Int} :
    d.integer? = some i ↔ d.type = some (.literal (.integer i)) := by
  obtain ⟨type, htype⟩ : ∃ type, d.type = type := ⟨_, rfl⟩
  unfold integer? literalType
  rw [htype]
  cases type with
  | none => simp
  | some t =>
    cases t with
    | literal value => cases value <;> simp [TypeNode.literalValue?]
    | _ => simp [TypeNode.literalValue?]

namespace Lowering

/-- A case that is bound to an integer, behind the comment of its member. -/
def caseText (c : Declaration × Int) : String :=
  comment c.1 ++ (Zig.identifier c.1.name ++ " = " ++ toString c.2 ++ ",\n")

/-- The members that are integers, with their values. -/
def integerMembers (members : List Declaration) : List (Declaration × Int) :=
  members.filterMap fun c => c.integer?.map (c, ·)

/-- The members that are not. -/
def otherMembers (members : List Declaration) : List Declaration :=
  members.filter fun c => c.integer?.isNone

/-- A member that is an integer is a case. -/
theorem on_enumCase_of_integer (owner : Declaration) {c : Declaration} {i : Int}
    (h : c.integer? = some i) (e : Emitter) :
    (enumCase owner c).on e = (.ok (), { e with text := e.text ++ caseText (c, i) }) := by
  have hliteral : c.literalType = some (.integer i) := by
    rw [Declaration.literalType, Declaration.integer?_eq_some_iff.1 h]
    rfl
  rw [enumCase, hliteral]
  dsimp only
  rw [on_bind, on_doc]
  simp [caseText, Literal.render, String.append_assoc]

/-- Any other member is noted. -/
theorem on_enumCase_of_other (owner : Declaration) {c : Declaration} (h : c.integer? = none)
    (e : Emitter) :
    (enumCase owner c).on e =
      (.ok (), { e with notices := e.notices.push (.nonIntegerMember owner.name c.name) }) := by
  cases hvalue : c.literalType with
  | none =>
    rw [enumCase, hvalue]
    rfl
  | some value =>
    cases value with
    | integer i => simp [Declaration.integer?, hvalue] at h
    | _ =>
      rw [enumCase, hvalue]
      rfl

/-- The members in a row write a case for each integer, and note each of the others. -/
theorem on_enumCases (owner : Declaration) (members : List Declaration) (e : Emitter) :
    (all (members.map (enumCase owner))).on e =
      (.ok (), { e with
        text := e.text ++ String.join ((integerMembers members).map caseText)
        notices := e.notices ++
          ((otherMembers members).map fun c => .nonIntegerMember owner.name c.name).toArray }) := by
  induction members generalizing e with
  | nil => simp [all, integerMembers, otherMembers]
  | cons c members ih =>
    rw [List.map_cons, all, on_bind]
    cases hc : c.integer? with
    | some i =>
      rw [on_enumCase_of_integer owner hc]
      dsimp only
      rw [ih]
      simp [integerMembers, otherMembers, hc, String.append_assoc]
    | none =>
      rw [on_enumCase_of_other owner hc]
      dsimp only
      rw [ih]
      simp [integerMembers, otherMembers, hc]

end Lowering

/-- A case for each member of the namespace that is an integer, bound to the integer, in the order
of the ids of the members. -/
structure IntegerCases (d : Declaration) (cases : List (Declaration × Int)) : Prop where
  ascending : cases.Pairwise fun a b => a.1.id ≤ b.1.id
  bound : ∀ c ∈ cases, c.1.type = some (.literal (.integer c.2))
  members : (cases.map (·.1)).Perm (d.children.filter fun c => c.integer?.isSome)

theorem mem_integerMembers {members : List Declaration} {c : Declaration × Int} :
    c ∈ integerMembers members ↔ c.1 ∈ members ∧ c.1.integer? = some c.2 := by
  obtain ⟨member, i⟩ := c
  simp only [integerMembers, List.mem_filterMap, Option.map_eq_some_iff, Prod.mk.injEq]
  constructor
  · rintro ⟨_, hmember, _, hi, rfl, rfl⟩
    exact ⟨hmember, hi⟩
  · rintro ⟨hmember, hi⟩
    exact ⟨member, hmember, i, hi, rfl, rfl⟩

theorem map_integerMembers (members : List Declaration) :
    (integerMembers members).map (·.1) = members.filter fun c => c.integer?.isSome := by
  induction members with
  | nil => rfl
  | cons c members ih =>
    cases hc : c.integer? with
    | some i => simpa [integerMembers, hc] using ih
    | none => simpa [integerMembers, hc] using ih

theorem Declaration.pairwise_sortedChildren (d : Declaration) :
    d.sortedChildren.Pairwise fun a b => a.id ≤ b.id := by
  have htrans : ∀ a b c : Declaration, decide (a.id ≤ b.id) = true → decide (b.id ≤ c.id) = true →
      decide (a.id ≤ c.id) = true := by
    intro a b c
    simp only [decide_eq_true_eq]
    omega
  have htotal : ∀ a b : Declaration, (decide (a.id ≤ b.id) || decide (b.id ≤ a.id)) = true := by
    intro a b
    simp only [Bool.or_eq_true, decide_eq_true_eq]
    omega
  have hsorted := List.pairwise_mergeSort htrans htotal d.children
  exact hsorted.imp fun h => of_decide_eq_true h

theorem integerCases_sorted (d : Declaration) :
    IntegerCases d (integerMembers d.sortedChildren) where
  ascending := by
    have hsorted := d.pairwise_sortedChildren.filter fun c => c.integer?.isSome
    rw [← map_integerMembers, List.pairwise_map] at hsorted
    exact hsorted
  bound c hc := Declaration.integer?_eq_some_iff.1 (mem_integerMembers.1 hc).2
  members := by
    rw [map_integerMembers]
    exact (List.mergeSort_perm d.children _).filter _

/-- Where all members are integers, each has its case. -/
theorem IntegerCases.perm_children {d : Declaration} {cases : List (Declaration × Int)}
    (h : IntegerCases d cases)
    (hintegers : ∀ c ∈ d.children, ∃ i, c.type = some (.literal (.integer i))) :
    (cases.map (·.1)).Perm d.children := by
  have hall : d.children.filter (fun c => c.integer?.isSome) = d.children := by
    refine List.filter_eq_self.2 fun c hc => ?_
    obtain ⟨i, hi⟩ := hintegers c hc
    rw [Declaration.integer?_eq_some_iff.2 hi]
    rfl
  rw [← hall]
  exact h.members

/-- The cases are given by their members. -/
theorem IntegerCases.eq_integerMembers {d : Declaration} {cases : List (Declaration × Int)}
    (h : IntegerCases d cases) : cases = integerMembers (cases.map (·.1)) := by
  have hbound := h.bound
  clear h
  induction cases with
  | nil => rfl
  | cons c cases ih =>
    rw [List.forall_mem_cons] at hbound
    have hc : c.1.integer? = some c.2 := Declaration.integer?_eq_some_iff.2 hbound.1
    have hrest := ih hbound.2
    simp only [integerMembers, List.map_cons, List.filterMap_cons, hc, Option.map_some] at hrest ⊢
    rw [← hrest]

/-- Different ids leave no choice. -/
theorem IntegerCases.unique {d : Declaration} {cases cases' : List (Declaration × Int)}
    (h : IntegerCases d cases) (h' : IntegerCases d cases')
    (hids : (d.children.map (·.id)).Nodup) : cases = cases' := by
  have hchild : ∀ {cs}, IntegerCases d cs → ∀ c ∈ cs.map (·.1), c ∈ d.children := fun hcs c hc =>
    (List.mem_filter.1 (hcs.members.subset hc)).1
  have hsorted : ∀ {cs}, IntegerCases d cs → (cs.map (·.1)).Pairwise fun a b => a.id ≤ b.id :=
    fun hcs => List.pairwise_map.2 hcs.ascending
  have hmembers : cases.map (·.1) = cases'.map (·.1) := by
    refine List.Perm.eq_of_pairwise (fun a b ha hb hab hba => ?_) (hsorted h) (hsorted h')
      (h.members.trans h'.members.symm)
    exact List.inj_on_of_nodup_map hids (hchild h a ha) (hchild h' b hb) (Nat.le_antisymm hab hba)
  rw [h.eq_integerMembers, hmembers, ← h'.eq_integerMembers]

namespace Pair

/-- A namespace of data with a number among its members is an enum of the cases of its integers. -/
theorem on_numericNamespace (pair : Pair) {d : Declaration} (hkind : d.kind = .nameSpace)
    (hname : d.name ≠ Declaration.internalName) (hdata : d.hasCallableChild = false)
    (hnumeric : d.children.any isNumericMember = true) (e : Emitter) :
    (pair.emitDeclaration d).on e = (.ok true, { e with
      text := e.text ++ (comment d ++ (constHead d ++ "enum(i64) \x7b\n" ++
        String.join ((integerMembers d.sortedChildren).map caseText) ++
        "usingnamespace IntBackedEnumStringify(@This());\n\x7d;\n"))
      notices := e.notices ++ ((otherMembers d.sortedChildren).map fun c =>
        .nonIntegerMember d.name c.name).toArray }) := by
  have hrule : pair.emitDeclaration d = do
      doc d
      write (constHead d ++ "enum(i64) \x7b\n")
      all (d.sortedChildren.map (enumCase d))
      write "usingnamespace IntBackedEnumStringify(@This());\n\x7d;\n"
      return true := by
    rw [emitDeclaration_eq_byKind, byKind, if_neg (by simpa using hname), hkind]
    dsimp only
    rw [namespaceDeclaration, if_neg (by simp [hdata]), if_pos hnumeric]
    rfl
  rw [hrule]
  simp only [on_bind, on_doc, on_write, on_enumCases, on_pure, String.append_assoc]

/-- A namespace whose members are all numbers, and which has any, is an enum with a case for each
integer and no other ones, in the order of the ids, and with one request to be written by its
values. Nothing is left out if all members are integers; a double is left out with a notice. -/
theorem numeric_namespace_cases (pair : Pair) (e : Emitter) (d : Declaration)
    (hkind : d.kind = .nameSpace) (hname : d.name ≠ Declaration.internalName)
    (hsome : d.children ≠ [])
    (hnumbers : ∀ c ∈ d.children, c.isCallable = false ∧
      ∃ value, c.type = some (.literal value) ∧ value.isNumeric = true) :
    ∃ cases after, (pair.emitDeclaration d).on e = (.ok true, after) ∧
      IntegerCases d cases ∧
      ((∀ c ∈ d.children, ∃ i, c.type = some (.literal (.integer i))) →
        (cases.map (·.1)).Perm d.children) ∧
      after.text = e.text ++ (comment d ++ ("pub const " ++ Zig.identifier d.name ++ " = " ++
        "enum(i64) \x7b\n" ++
        String.join (cases.map fun c =>
          comment c.1 ++ (Zig.identifier c.1.name ++ " = " ++ toString c.2 ++ ",\n")) ++
        "usingnamespace IntBackedEnumStringify(@This());\n\x7d;\n")) ∧
      ∃ doubles : List Declaration, doubles.Perm (d.children.filter fun c => c.integer?.isNone) ∧
        after.notices = e.notices ++
          (doubles.map fun c => .nonIntegerMember d.name c.name).toArray := by
  have hdata : d.hasCallableChild = false := by
    rw [Declaration.hasCallableChild, List.any_eq_false]
    intro c hc
    simp [(hnumbers c hc).1]
  have hnumeric : d.children.any isNumericMember = true := by
    obtain ⟨c, hc⟩ := List.exists_mem_of_ne_nil _ hsome
    obtain ⟨-, value, htype, hvalue⟩ := hnumbers c hc
    refine List.any_eq_true.2 ⟨c, hc, ?_⟩
    rw [isNumericMember, Declaration.literalType, htype]
    exact hvalue
  have hcases := integerCases_sorted d
  exact ⟨_, _, pair.on_numericNamespace hkind hname hdata hnumeric e, hcases,
    hcases.perm_children, rfl, _, (List.mergeSort_perm d.children _).filter _, rfl⟩

/-- Two integers in the order of their ids, and a double between them. -/
theorem numeric_namespace_cases_codes :
    let member (id : Nat) (name : String) (value : Literal) : Declaration :=
      { id, name, kind := .binding, type := some (.literal value) }
    let parse := member 4 "type" (.integer (-32700))
    let ok := member 2 "Ok" (.integer 0)
    let half := member 3 "Half" (.double (.finite false (2 ^ 52) (-53)))
    let codes : Declaration :=
      { id := 1, name := "Codes", kind := .nameSpace, children := [parse, ok, half] }
    let pair : Pair := ⟨.ofRoot { id := 0, name := "t" }, .ofRoot { id := 0, name := "p" }⟩
    ∃ after, (pair.emitDeclaration codes).on (.fresh .types) = (.ok true, after) ∧
      after.text = "pub const Codes = enum(i64) \x7b\nOk = 0,\n@\"type\" = -32700,\n" ++
        "usingnamespace IntBackedEnumStringify(@This());\n\x7d;\n" ∧
      after.notices = #[.nonIntegerMember "Codes" "Half"] := by
  intro member parse ok half codes pair
  have hnumbers : ∀ c ∈ codes.children, c.isCallable = false ∧
      ∃ value, c.type = some (.literal value) ∧ value.isNumeric = true := by
    simp [codes, parse, ok, half, member, Declaration.isCallable, Kind.isBehavior,
      Literal.isNumeric]
  obtain ⟨cases, after, hrun, hcases, -, htext, doubles, hdoubles, hnotices⟩ :=
    numeric_namespace_cases pair (.fresh .types) codes rfl (by decide) (by simp [codes]) hnumbers
  have hexpected : IntegerCases codes [(ok, 0), (parse, -32700)] :=
    { ascending := by simp [ok, parse, member]
      bound := by simp [ok, parse, member]
      members := .swap parse ok [] }
  obtain rfl := hcases.unique hexpected (by decide)
  obtain rfl : doubles = [half] := List.perm_singleton.1 hdoubles
  refine ⟨after, hrun, ?_, hnotices⟩
  rw [htext]
  decide +kernel

/-- A namespace of one double is written as an enum, and has no case, whatever the value of the
case were written as. The internal container is not written even as a namespace of numbers. -/
theorem double_has_no_case :
    let half : Declaration :=
      { id := 2, name := "Half", kind := .binding
        type := some (.literal (.double (.finite false (2 ^ 52) (-53)))) }
    let named (name : String) : Declaration :=
      { id := 1, name, kind := .nameSpace, children := [half] }
    let pair : Pair := ⟨.ofRoot { id := 0, name := "t" }, .ofRoot { id := 0, name := "p" }⟩
    let written := (pair.emitDeclaration (named "N")).alone .types
    let internal := (pair.emitDeclaration (named "<internal>")).alone .types
    half.isCallable = false ∧ half.literalType.any Literal.isNumeric = true ∧
      written.result = .ok true ∧
      written.text = "pub const N = enum(i64) \x7b\n" ++
        "usingnamespace IntBackedEnumStringify(@This());\n\x7d;\n" ∧
      (∀ value, written.text ≠ "pub const N = enum(i64) \x7b\n" ++ ("Half = " ++ value ++ ",\n") ++
        "usingnamespace IntBackedEnumStringify(@This());\n\x7d;\n") ∧
      internal.result = .ok false ∧ internal.text = "" := by
  intro half named pair written internal
  have htext : written.text = "pub const N = enum(i64) \x7b\n" ++
      "usingnamespace IntBackedEnumStringify(@This());\n\x7d;\n" := by
    decide +kernel
  have hname : (named "N").name ≠ Declaration.internalName := by decide
  have hrun := pair.on_numericNamespace rfl hname rfl rfl (.fresh .types)
  refine ⟨rfl, rfl, congrArg Prod.fst hrun, htext, fun value h => ?_, rfl, rfl⟩
  rw [htext] at h
  simpa using congrArg String.toList h

end Pair

end ZigReflect
