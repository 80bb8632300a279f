import Mathlib.Order.Filter.AtTopBot.Basic
import Mathlib.Order.Filter.Finite
import ZigReflect.Proofs.Faults
import ZigReflect.Proofs.Flattening
import ZigReflect.Proofs.Nullability
import ZigReflect.Proofs.StepRelation

/-!
# How deep calls are nested

Types and declarations are written by calls that make further calls: for the parts of what they
write, and for the children of the members of an intersection. `Pair.calls` allows so many calls
inside each other, whatever they are made for, and fails where one more is made.

If no chain of inlined members goes on for ever, this limit has no influence from some depth on,
which is the same for all emitters: the calls do what a run does, and do not run out of depth
(`emission_terminates`). Below a member the induction is on the structure of its children; from
one member to the next, it is on the number of members that a chain may still get
(`FiniteInlining.settles_inliner`).
-/

open Filter

namespace ZigReflect

open Lowering Emission

/-! ## Calls -/

/-- The calls that write types and declarations. -/
structure Calls where
  type : TypeNode → Emission Unit
  declaration : Declaration → Emission Bool

namespace Calls

variable (pair : Pair) (calls : Calls)

/-- Calls for the children of a declaration, in the order of their ids. -/
def children (d : Declaration) : Emission Unit :=
  inOrder (d.children.map fun c => (c.id, calls.declaration c))

/-- Calls for the children of an intersection member, in the document that has it. -/
def member (name : String) : Emission Unit := do
  let (home, d) ← Emission.ofExcept (pair.locateMember (← reading) name)
  within home (calls.children d)

/-- What a call for a type does, with the calls that it makes. -/
def ofType : TypeNode → Emission Unit
  | .intrinsic name => write (Zig.primitive name)
  | .reference name arguments => reference name (arguments.map calls.type)
  | .array element => array (calls.type element)
  | .literal value => write value.render
  | .union members => union (members.map fun t => (t, calls.type t))
  | .tuple elements => tuple (elements.map calls.type)
  | .intersection members => intersection (calls.member pair) members
  | .indexedAccess _ _ => placeholder .indexedAccess Zig.indexedAccessPlaceholder
  | .query _ => placeholder .typeQuery Zig.typeQueryPlaceholder
  | .reflection d => void (calls.declaration d)

/-- What a call for a declaration does, with the calls that it makes. -/
def ofDeclaration (d : Declaration) : Emission Bool :=
  byKind pair d
    { type := d.type.elim (pure ()) calls.type
      children := calls.children d }

end Calls

/-- Calls that are at most so many inside each other; one more fails. -/
def Pair.calls (pair : Pair) : Nat → Calls
  | 0 => { type := fun _ => fail .endless, declaration := fun _ => fail .endless }
  | limit + 1 =>
    { type := (pair.calls limit).ofType pair
      declaration := (pair.calls limit).ofDeclaration pair }

/-! ## Steps that settle -/

namespace Emission

variable {α β : Type} {s : Schema}

/-- Both steps do the same, and the second one does not run out of depth. -/
def settles : StepRelation :=
  (persists.and (failsBy (· ≠ .endless))).flip

theorem settles_fail {r : Failure} (h : r ≠ .endless) :
    settles.rel s (fail r : Emission α) (fail r) :=
  ⟨persists_of_framed (framed_fail r) s, fun e he => ⟨he, fun failure hfailure => by
    rwa [← Except.error.inj hfailure]⟩⟩

/-- A lookup that does not run out of calls goes on with what it found. -/
theorem settles_ofExcept_bind {r : Except Failure α} {f g : α → Emission β}
    (herror : r ≠ .error .endless) (hok : ∀ a, r = .ok a → settles.rel s (f a) (g a)) :
    settles.rel s (Emission.ofExcept r >>= f) (Emission.ofExcept r >>= g) := by
  cases r with
  | error r => exact settles_fail fun hr => herror (by rw [hr])
  | ok a => exact hok a rfl

/-- Settling inside another document. -/
theorem settles_within {x y : Emission α} {home : Schema} (hxy : settles.rel home x y)
    (s : Schema) : settles.rel s (within home x) (within home y) :=
  ⟨hxy.1.within s, hxy.2.within s⟩

/-- Steps that settle do the same to every emitter that reads the document. -/
theorem on_eq_of_settles {x y : Emission α} {e : Emitter} (hxy : settles.rel e.schema x y) :
    x.on e = y.on e ∧ (y.on e).1 ≠ .error .endless := by
  have hfinished : (y.on e).1 ≠ .error .endless := fun hr => (hxy.2 e rfl).2 _ hr rfl
  exact ⟨(hxy.1 e rfl).2 hfinished, hfinished⟩

end Emission

namespace Pair

variable {pair : Pair} {s : Schema}

/-- A lookup makes no calls, so it cannot run out of them. -/
theorem resolveId_ne_endless (s : Schema) (id : Nat) :
    pair.resolveId s id ≠ .error .endless := by
  unfold resolveId
  split <;> simp

theorem resolveName_ne_endless (s : Schema) (name : String) :
    pair.resolveName s name ≠ .error .endless := by
  unfold resolveName
  dsimp only
  split <;> simp

theorem locateMember_ne_endless (s : Schema) (name : String) :
    pair.locateMember s name ≠ .error .endless := by
  unfold locateMember
  split
  · simp
  · next failure hcompanion =>
    have hfailure : Except.error failure ≠ .error .endless :=
      hcompanion ▸ resolveName_ne_endless s.companion name
    split
    · simp
    · simpa using hfailure

/-- A reference looks its target up and makes no calls. -/
theorem settles_referenceDeclaration (pair : Pair) (d : Declaration) (s : Schema) :
    settles.rel s (referenceDeclaration pair d) (referenceDeclaration pair d) := by
  unfold referenceDeclaration
  split
  · exact settles_fail (by simp)
  · exact settles.rel_reading (settles_ofExcept_bind (resolveId_ne_endless s _) fun _ _ =>
      settles.rel_documented d _)

end Pair

/-! ## Parts of a reflection -/

/-- What holds of all limits from some limit on, one later. -/
theorem eventually_of_succ {P : Nat → Prop} (h : ∀ᶠ limit in atTop, P (limit + 1)) :
    ∀ᶠ limit in atTop, P limit := by
  rw [← map_add_atTop_eq_nat 1]
  exact h

/-- For every member that a part inlines, the calls settle to what is inlined. -/
def SettlesBelow (pair : Pair) (inline : Inliner) (s : Schema) (p : Part) : Prop :=
  ∀ members, p.Reaches (.type (.intersection members)) → ∀ name arguments,
    .reference name arguments ∈ members →
      ∀ᶠ limit in atTop, settles.rel s ((pair.calls limit).member pair name) (inline name)

variable {pair : Pair} {inline : Inliner} {s : Schema}

/-- Parts of what settles settle. -/
theorem SettlesBelow.of_holds {p q : Part} (h : SettlesBelow pair inline s p) (hpq : p.Holds q) :
    SettlesBelow pair inline s q :=
  fun members hm => h members (.head hpq hm)

/-- One limit is enough for all members of an intersection. -/
theorem SettlesBelow.eventually_members {members : List TypeNode}
    (h : SettlesBelow pair inline s (.type (.intersection members))) :
    ∀ᶠ limit in atTop, ∀ name arguments, .reference name arguments ∈ members →
      settles.rel s ((pair.calls limit).member pair name) (inline name) := by
  have hall : ∀ᶠ limit in atTop, ∀ t ∈ members, ∀ name arguments,
      t = .reference name arguments →
        settles.rel s ((pair.calls limit).member pair name) (inline name) := by
    refine (eventually_all_finite (List.finite_toSet members)).2 fun t ht => ?_
    cases t with
    | reference name arguments =>
      filter_upwards [h members .refl name arguments ht] with limit hlimit
      rintro _ _ ⟨⟩
      exact hlimit
    | _ => exact .of_forall fun _ _ _ hreference => by cases hreference
  filter_upwards [hall] with limit hlimit name arguments hmem
  exact hlimit _ hmem name arguments rfl

/-- Lists that are made of one list are related if what is made of each element is. -/
theorem forall₂_map_map {α β γ : Type} {R : β → γ → Prop} {f : α → β} {g : α → γ} {xs : List α}
    (h : ∀ x ∈ xs, R (f x) (g x)) : List.Forall₂ R (xs.map f) (xs.map g) := by
  rw [List.forall₂_map_left_iff, List.forall₂_map_right_iff, List.forall₂_same]
  exact h

/-- Children settle if each of them does. -/
theorem settles_children {calls : Calls} {d : Declaration}
    (h : ∀ c ∈ d.children, settles.rel s (calls.declaration c) (declaration pair inline c)) :
    settles.rel s (calls.children d) (fields pair inline d) := by
  unfold Calls.children fields
  rw [declarations_eq_map]
  exact settles.rel_inOrder (forall₂_map_map fun c hc => ⟨rfl, h c hc⟩)

mutual

/-- By recursion over types and declarations, with enough calls all of them settle. -/
theorem SettlesBelow.eventually_type : ∀ {t : TypeNode}, SettlesBelow pair inline s (.type t) →
    ∀ᶠ limit in atTop, settles.rel s ((pair.calls limit).type t) (type pair inline t)
  | .intrinsic _, _ => eventually_of_succ (.of_forall fun _ => settles.rel_write s _)
  | .reference name arguments, h => by
    refine eventually_of_succ ?_
    filter_upwards [eventually_types arguments fun _ ht => h.of_holds (.argument ht)] with limit ht
    rw [type, types_eq_map]
    exact settles.rel_reference name (forall₂_map_map ht)
  | .array element, h => by
    refine eventually_of_succ ?_
    filter_upwards [(h.of_holds (.element element)).eventually_type] with limit ht
    exact settles.rel_array ht
  | .literal _, _ => eventually_of_succ (.of_forall fun _ => settles.rel_write s _)
  | .union members, h => by
    refine eventually_of_succ ?_
    filter_upwards [eventually_types members fun _ ht => h.of_holds (.unionMember ht)] with limit ht
    rw [type, types_eq_map, ← List.map_prod_left_eq_zip]
    exact settles.rel_union (forall₂_map_map fun t hmem => ⟨rfl, ht t hmem⟩)
  | .tuple elements, h => by
    refine eventually_of_succ ?_
    filter_upwards [eventually_types elements fun _ ht => h.of_holds (.tupleElement ht)]
      with limit ht
    rw [type, types_eq_map]
    exact settles.rel_tuple (forall₂_map_map ht)
  | .intersection members, h => by
    refine eventually_of_succ ?_
    filter_upwards [h.eventually_members] with limit hmembers
    exact settles.rel_intersection hmembers
  | .indexedAccess _ _, _ => eventually_of_succ (.of_forall fun _ => settles.rel_placeholder _ _)
  | .query _, _ => eventually_of_succ (.of_forall fun _ => settles.rel_placeholder _ _)
  | .reflection d, h => by
    refine eventually_of_succ ?_
    filter_upwards [(h.of_holds (.inline d)).eventually_declaration] with limit hd
    exact settles.rel_void hd

theorem eventually_types : ∀ ts : List TypeNode,
    (∀ t ∈ ts, SettlesBelow pair inline s (.type t)) → ∀ᶠ limit in atTop,
      ∀ t ∈ ts, settles.rel s ((pair.calls limit).type t) (type pair inline t)
  | [], _ => .of_forall fun _ => by simp
  | t :: ts, h => by
    rw [List.forall_mem_cons] at h
    filter_upwards [h.1.eventually_type, eventually_types ts h.2] with limit ht hts
    exact List.forall_mem_cons.2 ⟨ht, hts⟩

theorem eventually_optionalType : ∀ t : Option TypeNode,
    (∀ u, t = some u → SettlesBelow pair inline s (.type u)) → ∀ᶠ limit in atTop,
      settles.rel s (t.elim (pure ()) (pair.calls limit).type) (optionalType pair inline t)
  | none, _ => .of_forall fun _ => settles.rel_pure s ()
  | some t, h => (h t rfl).eventually_type

theorem SettlesBelow.eventually_declaration : ∀ {d : Declaration},
    SettlesBelow pair inline s (.declaration d) → ∀ᶠ limit in atTop,
      settles.rel s ((pair.calls limit).declaration d) (declaration pair inline d)
  | { children, type, .. }, h => by
    refine eventually_of_succ ?_
    filter_upwards [eventually_optionalType type fun _ ht => h.of_holds (.typeOf ht),
      eventually_declarations children fun _ hc => h.of_holds (.child hc)] with limit ht hc
    rw [declaration_eq]
    exact settles.rel_byKind pair _ (fun _ => pair.settles_referenceDeclaration _ s) ht
      (settles_children hc)

theorem eventually_declarations : ∀ ds : List Declaration,
    (∀ d ∈ ds, SettlesBelow pair inline s (.declaration d)) → ∀ᶠ limit in atTop,
      ∀ d ∈ ds, settles.rel s ((pair.calls limit).declaration d) (declaration pair inline d)
  | [], _ => .of_forall fun _ => by simp
  | d :: ds, h => by
    rw [List.forall_mem_cons] at h
    filter_upwards [h.1.eventually_declaration, eventually_declarations ds h.2] with limit hd hds
    exact List.forall_mem_cons.2 ⟨hd, hds⟩

end

/-! ## Members of intersections -/

namespace Pair

/-- The fields of a member settle. From `pair.depth` down to nothing the trail grows by a member
at each step, and a trail is shorter than that. -/
theorem FiniteInlining.settles_inliner (hfinite : pair.FiniteInlining) :
    ∀ (depth : Nat) (trail : List Member) (s : Schema) (name : String), pair.Trail trail →
      trail.length + depth = pair.depth →
      (∀ last ∈ trail.head?, ∀ m, pair.locateMember s name = .ok m → pair.Inlines last m) →
        ∀ᶠ limit in atTop,
          settles.rel s ((pair.calls limit).member pair name) (inliner pair depth name)
  | 0, trail, s, name, ht, hlength, _ => by
    have hlt := hfinite.length_lt_depth ht
    omega
  | depth + 1, trail, s, name, ht, hlength, hlast => by
    have hchildren : ∀ m, pair.locateMember s name = .ok m → ∀ᶠ limit in atTop,
        settles.rel m.1 ((pair.calls limit).children m.2)
          (fields pair (inliner pair depth) m.2) := by
      intro m hm
      have htrail : pair.Trail (m :: trail) := ht.cons hm fun last hmem => hlast last hmem m hm
      have hbelow : ∀ c ∈ m.2.children,
          SettlesBelow pair (inliner pair depth) m.1 (.declaration c) := by
        intro c hc members hreach name arguments hmem
        refine hfinite.settles_inliner depth (m :: trail) m.1 name htrail (by simp; omega) ?_
        rintro last ⟨⟩ n hn
        exact ⟨members, name, arguments, ⟨c, hc, hreach⟩, hmem, hn⟩
      filter_upwards [eventually_declarations m.2.children hbelow] with limit hlimit
      exact settles_children hlimit
    cases hfound : pair.locateMember s name with
    | error failure =>
      refine .of_forall fun limit => settles.rel_reading
        (settles_ofExcept_bind (locateMember_ne_endless s name) fun m hm => ?_)
      rw [hfound] at hm
      cases hm
    | ok m =>
      filter_upwards [hchildren m hfound] with limit hlimit
      refine settles.rel_reading
        (settles_ofExcept_bind (locateMember_ne_endless s name) fun n hn => ?_)
      obtain rfl := Except.ok.inj (hfound.symm.trans hn)
      exact settles_within hlimit s

/-- All members that a part inlines settle, at the start of a trail. -/
theorem FiniteInlining.settlesBelow (hfinite : pair.FiniteInlining) (s : Schema) (p : Part) :
    SettlesBelow pair (inliner pair pair.depth) s p :=
  fun _ _ name _ _ =>
    hfinite.settles_inliner pair.depth [] s name ⟨.nil, by simp⟩ (by simp) (by simp)

end Pair

/-- What settles in both documents is the same for all emitters from one depth on. -/
theorem exists_depth {α : Type} {x : Nat → Emission α} {y : Emission α}
    (h : ∀ s, ∀ᶠ limit in atTop, settles.rel s (x limit) y) :
    ∃ depth, ∀ limit ≥ depth, ∀ e,
      (x limit).on e = y.on e ∧ (y.on e).1 ≠ .error .endless := by
  obtain ⟨depth, hdepth⟩ := eventually_atTop.1 ((h .types).and (h .protocol))
  refine ⟨depth, fun limit hlimit e => ?_⟩
  have hsettles : settles.rel e.schema (x limit) y := by
    obtain ⟨htypes, hprotocol⟩ := hdepth limit hlimit
    cases e.schema
    · exact htypes
    · exact hprotocol
  exact on_eq_of_settles hsettles

open Pair

/-- If no chain of inlined members goes on for ever, then there is a depth for every type and for
every declaration from which on a limit to the nesting of calls has no influence: whatever the
emitter, the calls do what a run does, and that is not running out of depth. -/
theorem emission_terminates {pair : Pair} (hfinite : pair.FiniteInlining) :
    (∀ t, ∃ depth, ∀ limit ≥ depth, ∀ e,
      ((pair.calls limit).type t).on e = (pair.emitType t).on e ∧
        ((pair.emitType t).on e).1 ≠ .error .endless) ∧
    ∀ d, ∃ depth, ∀ limit ≥ depth, ∀ e,
      ((pair.calls limit).declaration d).on e = (pair.emitDeclaration d).on e ∧
        ((pair.emitDeclaration d).on e).1 ≠ .error .endless :=
  ⟨fun _ => exists_depth fun s => (hfinite.settlesBelow s _).eventually_type,
    fun _ => exists_depth fun s => (hfinite.settlesBelow s _).eventually_declaration⟩

/-- An interface that inlines one of the other document, which inlines one of the first. -/
theorem emission_terminates_by_turns :
    let field (id : Nat) (name : String) (t : TypeNode) : Declaration :=
      { id, name, kind := .property, type := some t }
    let interface (id : Nat) (name : String) (child : Declaration) : Declaration :=
      { id, name, kind := .interface, children := [child] }
    let a := interface 1 "A" (field 2 "a" (.intersection [.reference "B" []]))
    let b := interface 1 "B" (field 2 "b" (.intersection [.reference "C" []]))
    let c := interface 3 "C" (field 4 "c" (.intrinsic "string"))
    let pair : Pair := ⟨.ofRoot { id := 0, name := "types", children := [a, c] },
      .ofRoot { id := 0, name := "protocol", children := [b] }⟩
    pair.FiniteInlining ∧ ∃ depth, ∀ limit ≥ depth, ∀ e,
      ((pair.calls limit).type (.intersection [.reference "A" []])).on e =
          (pair.emitType (.intersection [.reference "A" []])).on e ∧
        ((pair.emitType (.intersection [.reference "A" []])).on e).1 ≠ .error .endless := by
  intro field interface a b c pair
  have hmembers : pair.membersOf .types ++ pair.membersOf .protocol =
      [(.types, a), (.types, c), (.protocol, b)] := by cbv
  have hb : pair.locateMember .types "B" = .ok (.protocol, b) := by cbv
  have hc : pair.locateMember .protocol "C" = .ok (.types, c) := by cbv
  have hbelow : ∀ id name id' name' t members,
      (Part.type (.intersection members)).Below (interface id name (field id' name' t)) →
        (Part.type t).Reaches (.type (.intersection members)) := by
    rintro id name id' name' t members ⟨child, hchild, hreach⟩
    obtain rfl : child = field id' name' t := by simpa [interface] using hchild
    rw [Part.reaches_declaration_iff] at hreach
    simpa [field] using hreach
  have hfinite : pair.FiniteInlining := by
    refine finiteInlining_of_rank (fun m => ["C", "B", "A"].idxOf m.2.name) ?_
    rw [hmembers]
    rintro m hm n ⟨members, name, arguments, hm', hmem, hlocated⟩
    simp only [List.mem_cons, List.not_mem_nil, or_false] at hm
    obtain rfl | rfl | rfl := hm
    · have hreach := hbelow _ _ _ _ _ _ hm'
      rw [Part.reaches_intersection_iff] at hreach
      cases hreach
      obtain ⟨rfl, -⟩ : name = "B" ∧ arguments = [] := by simpa using hmem
      obtain rfl := Except.ok.inj (hb.symm.trans hlocated)
      decide
    · have hreach := hbelow _ _ _ _ _ _ hm'
      rw [Part.reaches_intrinsic_iff] at hreach
      cases hreach
    · have hreach := hbelow _ _ _ _ _ _ hm'
      rw [Part.reaches_intersection_iff] at hreach
      cases hreach
      obtain ⟨rfl, -⟩ : name = "C" ∧ arguments = [] := by simpa using hmem
      obtain rfl := Except.ok.inj (hc.symm.trans hlocated)
      decide
  exact ⟨hfinite, (emission_terminates hfinite).1 (.intersection [.reference "A" []])⟩

end ZigReflect
