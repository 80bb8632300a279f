import Mathlib.Logic.Relation
import ZigReflect.Proofs.NodeTags

/-!
# One reflection in many layouts

A reflection can be written as JSON in many ways. The keys of an object can stand in any order, the
tag of a type node among them, and keys that mean nothing can stand between them; a key with two
spellings can have either; an object can be written as an array of its fields. A value is recast
(`Recast`) when it is changed in one of these ways at one place, at any depth, and two values are
alike (`Alike`) if one comes from the other by such changes, in either direction, among values
that can be read whole within the room.

Alike values are read alike: they give the same declaration or type node, or neither can be read
(`reading_ignores_representation`). The error need not be the same, since errors are found in the
order of the text.
-/

namespace ZigReflect

open Json

variable {origin : Origin} {room : Nat}

/-! ## Changes of the layout -/

/-- What an item of an array is read as. -/
def Role.item? : Role → Json → Nat → Option Role
  | .option role, v, i => role.item? v i
  | .list role, _, _ => some role
  | role, v, i => ((role.outline v).fields[i]?).map Field.role

/-- A value in its role is laid out differently at one place, at any depth. The value of a key that
stands for no field is changed by taking the key away and putting it back. -/
inductive Recast : Role → Json → Json → Prop
  /-- The keys of an object stand in another order. -/
  | reorder {role fields fields'} (h : List.Perm fields fields') :
    Recast role (.object fields) (.object fields')
  /-- An object has a key more, which stands for no field. -/
  | insert {role key v before after}
    (h : (role.outline (.object (before ++ after))).shape.field? key = none) :
    Recast role (.object (before ++ after)) (.object (before ++ (key, v) :: after))
  /-- A key has another spelling. -/
  | respell {role key key' name v before after}
    (h : (role.outline (.object (before ++ (key, v) :: after))).shape.field? key = some name)
    (h' : (role.outline (.object (before ++ (key, v) :: after))).shape.field? key' = some name) :
    Recast role (.object (before ++ (key, v) :: after)) (.object (before ++ (key', v) :: after))
  /-- An object is written as an array. -/
  | positional {role fields items} (h : (role.outline (.object fields)).fields ≠ [])
    (hitems : (role.outline (.object fields)).IsPositional fields items) :
    Recast role (.object fields) (.array items)
  /-- The value of a field is laid out differently. -/
  | field {role x key v v' before after}
    (hx : x ∈ (role.outline (.object (before ++ (key, v) :: after))).fields)
    (hkey : (role.outline (.object (before ++ (key, v) :: after))).shape.field? key = some x.name)
    (h : Recast x.role v v') :
    Recast role (.object (before ++ (key, v) :: after)) (.object (before ++ (key, v') :: after))
  /-- An item is laid out differently. -/
  | item {role role' v v' before after}
    (hitem : role.item? (.array (before ++ v :: after)) before.length = some role')
    (h : Recast role' v v') :
    Recast role (.array (before ++ v :: after)) (.array (before ++ v' :: after))
  /-- An item that stands for nothing is another. -/
  | surplus {role v v' before after}
    (hitem : role.item? (.array (before ++ v :: after)) before.length = none) :
    Recast role (.array (before ++ v :: after)) (.array (before ++ v' :: after))

/-- Two values are read alike in a role, wherever both can be read whole. -/
def Agree (role : Role) (v v' : Json) : Prop :=
  ∀ (origin : Origin) (room : Nat), v.fits room = true → v'.fits room = true →
    (role.read origin room v).toOption = (role.read origin room v').toOption

/-- The value opens a container. -/
def IsContainer : Json → Prop
  | .array _ => True
  | .object _ => True
  | _ => False

theorem exists_room {v : Json} (h : IsContainer v) (hfits : v.fits room = true) :
    ∃ room', room = room' + 1 := by
  cases room with
  | zero => cases v <;> simp_all [IsContainer, Json.fits]
  | succ room => exact ⟨room, rfl⟩

/-- Containers need room, so they agree if they do inside it. -/
theorem Agree.of_succ {role : Role} {v v' : Json} (hv : IsContainer v)
    (h : ∀ origin room, v.fits (room + 1) = true → v'.fits (room + 1) = true →
      (role.read origin (room + 1) v).toOption = (role.read origin (room + 1) v').toOption) :
    Agree role v v' := by
  intro origin room hfits hfits'
  obtain ⟨room, rfl⟩ := exists_room hv hfits
  exact h origin room hfits hfits'

/-- A container is not null, so it is read as it is without the option. -/
theorem Agree.option {role : Role} {v v' : Json} (hv : IsContainer v) (hv' : IsContainer v')
    (h : Agree role v v') : Agree (.option role) v v' := by
  have hread : ∀ {origin : Origin} {room : Nat} {v : Json}, IsContainer v →
      ((Role.option role).read origin room v).toOption =
        (role.read origin room v).toOption.map some := by
    intro origin room v hv
    cases v <;> first | exact hv.elim | exact toOption_map _ _
  intro origin room hfits hfits'
  rw [hread hv, hread hv', h origin room hfits hfits']

/-- A scalar opens no container. -/
theorem agree_scalar {s : Scalar} {v v' : Json} (hv : IsContainer v) (hv' : IsContainer v') :
    Agree (.scalar s) v v' := by
  have hread : ∀ {origin : Origin} {v : Json}, IsContainer v →
      (s.read origin v).toOption = none := by
    intro origin v hv
    cases v <;> first | exact hv.elim | (cases s <;> rfl)
  intro origin room _ _
  exact (hread hv).trans (hread hv').symm

/-- No object is read as a list. -/
theorem agree_list_object {role : Role} {fields fields' : List (String × Json)} :
    Agree (.list role) (.object fields) (.object fields') :=
  .of_succ trivial fun _ _ _ _ => rfl

/-- Objects with the same tag are read alike if the rest of them is. -/
theorem agree_type_object {fields fields' : List (String × Json)}
    (htag : nodeTag? fields = nodeTag? fields')
    (hbody : ∀ t tag, nodeTag? fields = some t → readTag .held t = .ok tag →
      ∀ (room : Nat) (reader : Json → Read TypeNode),
        ReadsRecord ⟨variantFields tag, []⟩ .held room reader →
        (Json.object fields).fits (room + 1) = true → (Json.object fields').fits (room + 1) = true →
          (reader (.object (nodeBody fields))).toOption =
            (reader (.object (nodeBody fields'))).toOption) :
    Agree .type (.object fields) (.object fields') := by
  refine .of_succ trivial fun origin room hfits hfits' => readType_congr hfits hfits' ?_
  rw [toOption_readTagged_object, toOption_readTagged_object, ← htag]
  cases ht : nodeTag? fields with
  | none => exact .none
  | some t =>
    exact sameNode_of_tag fun tag htag reader hreader =>
      hbody t tag ht htag room reader hreader hfits hfits'

/-! ## Changes that are not seen -/

/-- A value of an object fits into the room that is left. -/
theorem fits_of_field {key : String} {v : Json} {before after : List (String × Json)}
    (h : (Json.object (before ++ (key, v) :: after)).fits (room + 1) = true) :
    v.fits room = true := by
  simp only [Json.fits, List.all_eq_true] at h
  exact h (key, v) (by simp)

/-- An item of an array fits into the room that is left. -/
theorem fits_of_item {v : Json} {before after : List Json}
    (h : (Json.array (before ++ v :: after)).fits (room + 1) = true) : v.fits room = true := by
  simp only [Json.fits, List.all_eq_true] at h
  exact h v (by simp)

/-- The order of keys does not matter in any role. -/
theorem agree_reorder {role : Role} {fields fields' : List (String × Json)}
    (hperm : fields.Perm fields') : Agree role (.object fields) (.object fields') := by
  induction role with
  | scalar s => exact agree_scalar trivial trivial
  | option role ih => exact ih.option trivial trivial
  | list role => exact agree_list_object
  | record r => exact .of_succ trivial fun origin room _ _ => r.readsRecord.reorder hperm
  | type =>
    refine agree_type_object (nodeTag?_perm hperm) fun t tag _ _ room reader hreader _ _ => ?_
    exact hreader.reorder (hperm.filter _)

/-- A key that stands for no field can be added. -/
theorem agree_insert {role : Role} {key : String} {v : Json} {before after : List (String × Json)}
    (h : (role.outline (.object (before ++ after))).shape.field? key = none) :
    Agree role (.object (before ++ after)) (.object (before ++ (key, v) :: after)) := by
  induction role with
  | scalar s => exact agree_scalar trivial trivial
  | option role ih => exact (ih h).option trivial trivial
  | list role => exact agree_list_object
  | record r =>
    have hkey : r.outline.shape.field? key = none := h
    refine .of_succ trivial fun origin room _ _ => r.readsRecord.known ?_
    rw [RecordShape.known_append, RecordShape.known_append, RecordShape.known_cons_none hkey]
  | type =>
    have hkey : key ≠ "type" := by
      rintro rfl
      rw [Role.outline, field?_of_fields rfl] at h
      simp [nodeOutline] at h
    refine agree_type_object (nodeTag?_middle hkey v before after).symm ?_
    intro t tag ht htag room reader hreader _ _
    refine hreader.known ?_
    rw [Role.outline, lookup_of_nodeTag? ht, ← field?_variant htag hkey] at h
    rw [nodeBody_middle hkey, nodeBody, List.filter_append, RecordShape.known_append,
      RecordShape.known_append, RecordShape.known_cons_none h]
    rfl

/-- The key of a field can be spelled in another way. Those of a type node have one spelling. -/
theorem agree_respell {role : Role} {key key' name : String} {v : Json}
    {before after : List (String × Json)}
    (h : (role.outline (.object (before ++ (key, v) :: after))).shape.field? key = some name)
    (h' : (role.outline (.object (before ++ (key, v) :: after))).shape.field? key' = some name) :
    Agree role (.object (before ++ (key, v) :: after))
      (.object (before ++ (key', v) :: after)) := by
  induction role with
  | scalar s => exact agree_scalar trivial trivial
  | option role ih => exact (ih h h').option trivial trivial
  | list role => exact agree_list_object
  | record r =>
    have hkey : r.outline.shape.field? key = some name := h
    have hkey' : r.outline.shape.field? key' = some name := h'
    refine .of_succ trivial fun origin room _ _ => r.readsRecord.known ?_
    rw [RecordShape.known_append, RecordShape.known_append, RecordShape.known_cons_some hkey,
      RecordShape.known_cons_some hkey']
  | type =>
    obtain rfl := eq_of_field? rfl h
    obtain rfl := eq_of_field? rfl h'
    exact fun _ _ _ _ => rfl

/-- The value of a field can be changed for one that agrees. -/
theorem agree_field {role : Role} {x : Field} {key : String} {v v' : Json}
    {before after : List (String × Json)}
    (hx : x ∈ (role.outline (.object (before ++ (key, v) :: after))).fields)
    (hkey : (role.outline (.object (before ++ (key, v) :: after))).shape.field? key = some x.name)
    (hv : Agree x.role v v') :
    Agree role (.object (before ++ (key, v) :: after))
      (.object (before ++ (key, v') :: after)) := by
  induction role with
  | scalar s => exact agree_scalar trivial trivial
  | option role ih => exact (ih hx hkey).option trivial trivial
  | list role => exact agree_list_object
  | record r =>
    refine .of_succ trivial fun origin room hfits hfits' => ?_
    exact r.readsRecord.field before after hx hkey
      (hv origin room (fits_of_field hfits) (fits_of_field hfits'))
  | type =>
    have hname : key = x.name := eq_of_field? rfl hkey
    by_cases htype : key = "type"
    · obtain rfl := role_of_tag hx (hname.symm.trans htype)
      subst htype
      refine .of_succ trivial fun origin room hfits hfits' => readType_congr hfits hfits' ?_
      have htag : (readTag origin v).toOption = (readTag origin v').toOption :=
        hv origin room (fits_of_field hfits) (fits_of_field hfits')
      have hnode : (readTagged origin (.object (before ++ ("type", v) :: after))).toOption =
          (readTagged origin (.object (before ++ ("type", v') :: after))).toOption := by
        rw [toOption_readTagged_object, toOption_readTagged_object, nodeBody_tag, nodeBody_tag]
        rcases nodeTag?_tag before after with hsole | hnone
        · rw [hsole, hsole, Option.bind_some, Option.bind_some, htag]
        · rw [hnone, hnone]
      exact hnode ▸ sameNode_refl _
    · refine agree_type_object ?_ ?_
      · rw [nodeTag?_middle htype, nodeTag?_middle htype]
      · intro t tag ht htag room reader hreader hfits hfits'
        rw [Role.outline, lookup_of_nodeTag? ht] at hx hkey
        rw [nodeBody_middle htype, nodeBody_middle htype]
        refine hreader.field _ _ ?_ ?_ (hv .held room (fits_of_field hfits) (fits_of_field hfits'))
        · rw [nodeOutline_fields htag] at hx
          rcases List.mem_cons.1 hx with rfl | hx
          · exact absurd hname htype
          · exact hx
        · rw [field?_variant htag htype, hkey]

/-- An item can be changed for one that agrees. -/
theorem agree_item {role role' : Role} {v v' : Json} {before after : List Json}
    (hitem : role.item? (.array (before ++ v :: after)) before.length = some role')
    (hv : Agree role' v v') :
    Agree role (.array (before ++ v :: after)) (.array (before ++ v' :: after)) := by
  induction role with
  | scalar s => exact agree_scalar trivial trivial
  | option role ih => exact (ih hitem).option trivial trivial
  | list role =>
    obtain rfl := Option.some.inj hitem
    refine .of_succ trivial fun origin room hfits hfits' => ?_
    have hread := hv origin room (fits_of_item hfits) (fits_of_item hfits')
    change ((before ++ v :: after).mapM (role.read origin room)).toOption =
      ((before ++ v' :: after).mapM (role.read origin room)).toOption
    simp only [List.mapM_append, List.mapM_cons, toOption_bind, hread]
  | record r =>
    obtain ⟨x, hx, rfl⟩ := Option.map_eq_some_iff.1 hitem
    refine .of_succ trivial fun origin room hfits hfits' => ?_
    exact r.readsRecord.item before after hx
      (hv origin room (fits_of_item hfits) (fits_of_item hfits'))
  | type =>
    obtain ⟨x, hx, rfl⟩ := Option.map_eq_some_iff.1 hitem
    refine .of_succ trivial fun origin room hfits hfits' => readType_congr hfits hfits' ?_
    have hread := fun origin => hv origin room (fits_of_item hfits) (fits_of_item hfits')
    cases before with
    | nil =>
      obtain rfl := Option.some.inj hx
      have htag : (readTag origin v).toOption = (readTag origin v').toOption := hread origin
      rw [List.nil_append, List.nil_append, toOption_readTagged_array, toOption_readTagged_array,
        htag]
      exact sameNode_refl _
    | cons t before =>
      rw [List.cons_append, List.cons_append, toOption_readTagged_array, toOption_readTagged_array]
      refine sameNode_of_tag fun tag htag reader hreader => ?_
      change (nodeOutline (some t)).fields[before.length + 1]? = some x at hx
      rw [nodeOutline_fields htag] at hx
      exact hreader.item before after hx (hread .held)

theorem agree_surplus {role : Role} {v v' : Json} {before after : List Json}
    (hitem : role.item? (.array (before ++ v :: after)) before.length = none) :
    Agree role (.array (before ++ v :: after)) (.array (before ++ v' :: after)) := by
  induction role with
  | scalar s => exact agree_scalar trivial trivial
  | option role ih => exact (ih hitem).option trivial trivial
  | list role => cases hitem
  | record r =>
    have hlength := List.getElem?_eq_none_iff.1 (Option.map_eq_none_iff.1 hitem)
    refine .of_succ trivial fun origin room _ _ => ?_
    have hsurplus : ∀ v : Json, r.outline.fields.length < (before ++ v :: after).length := by
      intro v
      rw [List.length_append, List.length_cons]
      exact Nat.lt_of_le_of_lt hlength (by omega)
    exact (r.readsRecord.surplus (hsurplus v)).trans (r.readsRecord.surplus (hsurplus v')).symm
  | type =>
    have hlength := List.getElem?_eq_none_iff.1 (Option.map_eq_none_iff.1 hitem)
    refine .of_succ trivial fun origin room hfits hfits' => readType_congr hfits hfits' ?_
    cases before with
    | nil => simp [Role.outline, nodeOutline] at hlength
    | cons t before =>
      rw [List.cons_append, List.cons_append, toOption_readTagged_array, toOption_readTagged_array]
      refine sameNode_of_tag fun tag htag reader hreader => ?_
      change (nodeOutline (some t)).fields.length ≤ before.length + 1 at hlength
      rw [nodeOutline_fields htag, List.length_cons] at hlength
      have hsurplus : ∀ v : Json, (variantFields tag).length < (before ++ v :: after).length := by
        intro v
        rw [List.length_append, List.length_cons]
        omega
      exact (hreader.surplus (hsurplus v)).trans (hreader.surplus (hsurplus v')).symm

/-- An object agrees with its positional form. -/
theorem agree_positional {role : Role} {fields : List (String × Json)} {items : List Json}
    (h : (role.outline (.object fields)).fields ≠ [])
    (hitems : (role.outline (.object fields)).IsPositional fields items) :
    Agree role (.object fields) (.array items) := by
  induction role with
  | scalar s => exact absurd rfl h
  | option role ih => exact (ih h hitems).option trivial trivial
  | list role => exact absurd rfl h
  | record r =>
    refine .of_succ trivial fun origin room _ hfits => r.readsRecord.positional hitems ?_
    simpa [Json.fits] using hfits
  | type =>
    refine .of_succ trivial fun origin room hfits hfits' => readType_congr hfits hfits' ?_
    rw [toOption_readTagged_object]
    rcases tag_of_isPositional hitems with ⟨ht, rfl⟩ | ⟨t, rest, ht, rfl⟩
    · rw [ht]
      exact .none
    rw [ht, toOption_readTagged_array, Option.bind_some]
    refine sameNode_of_tag fun tag htag reader hreader => ?_
    rw [Role.outline, lookup_of_nodeTag? ht, isPositional_node ht htag] at hitems
    obtain ⟨rest', hrest, hitems⟩ := hitems
    obtain rfl := List.tail_eq_of_cons_eq hrest
    simp only [Json.fits, List.all_eq_true] at hfits'
    exact hreader.positional hitems fun v hv => hfits' v (List.mem_cons_of_mem _ hv)

/-- An object of a record or type node that is read has a positional form. -/
theorem exists_positional {role : Role} {fields : List (String × Json)} {a : role.Value}
    (hfits : (Json.object fields).fits room = true)
    (ha : role.read origin room (.object fields) = .ok a) :
    ∃ items, (role.outline (.object fields)).IsPositional fields items := by
  obtain ⟨room, rfl⟩ := exists_room (v := .object fields) trivial hfits
  induction role with
  | scalar s => cases s <;> cases ha
  | option role ih =>
    rw [← toOption_eq_some] at ha
    obtain ⟨a, ha, -⟩ := Option.map_eq_some_iff.1 ((toOption_map _ _).symm.trans ha)
    exact ih (toOption_eq_some.1 ha)
  | list role => cases ha
  | record r => exact r.readsRecord.exists_positional ha
  | type =>
    change readType origin (room + 1) (.object fields) = .ok a at ha
    cases hnode : readTagged origin (.object fields) with
    | error e =>
      rw [readType, if_neg (by simp [hfits]), hnode] at ha
      cases ha
    | ok node =>
      obtain ⟨tag, body⟩ := node
      have hreader := readsRecord_variantReader (contains_of_readTagged hnode) room
      rw [readType_of_readTagged hfits hnode] at ha
      rw [← toOption_eq_some, toOption_readTagged_object] at hnode
      obtain ⟨t, ht, hnode⟩ := Option.bind_eq_some_iff.1 hnode
      obtain ⟨tag', htag, heq⟩ := Option.map_eq_some_iff.1 hnode
      cases heq
      obtain ⟨items, hitems⟩ := hreader.exists_positional ha
      have htag' := (contains_of_readTag (toOption_eq_some.1 htag)).2
      refine ⟨t :: items, ?_⟩
      rw [Role.outline, lookup_of_nodeTag? ht, isPositional_node ht htag']
      exact ⟨items, rfl, hitems⟩

/-! ## Alike values -/

/-- What is recast is read alike. -/
theorem Recast.agree {role : Role} {v v' : Json} (h : Recast role v v') : Agree role v v' := by
  induction h with
  | reorder hperm => exact agree_reorder hperm
  | insert hkey => exact agree_insert hkey
  | respell hkey hkey' => exact agree_respell hkey hkey'
  | positional hfields hitems => exact agree_positional hfields hitems
  | field hx hkey _ ih => exact agree_field hx hkey ih
  | item hitem _ ih => exact agree_item hitem ih
  | surplus hitem => exact agree_surplus hitem

/-- One value comes from the other by changes of the layout, in either direction, among values that
can be read whole within the room. A text holds no other values within its nesting limit. -/
def Alike (role : Role) (room : Nat) : Json → Json → Prop :=
  Relation.EqvGen fun v v' => Recast role v v' ∧ v.fits room = true ∧ v'.fits room = true

/-- Values that are alike are read alike. -/
theorem Alike.read_eq {role : Role} {v v' : Json} (h : Alike role room v v') (origin : Origin) :
    (role.read origin room v).toOption = (role.read origin room v').toOption := by
  induction h with
  | rel v v' h => exact h.1.agree origin room h.2.1 h.2.2
  | refl v => rfl
  | symm v v' _ ih => exact ih.symm
  | trans v v' v'' _ _ ih ih' => exact ih.trans ih'

/-- What is read of an object has fields. -/
theorem outline_fields_ne_nil {role : Role} {fields : List (String × Json)} {a : role.Value}
    (ha : role.read origin room (.object fields) = .ok a) :
    (role.outline (.object fields)).fields ≠ [] := by
  induction role with
  | scalar s => cases s <;> cases ha
  | option role ih =>
    rw [← toOption_eq_some] at ha
    obtain ⟨a, ha, -⟩ := Option.map_eq_some_iff.1 ((toOption_map _ _).symm.trans ha)
    exact ih (toOption_eq_some.1 ha)
  | list role => cases room <;> cases ha
  | record r => cases r <;> exact List.cons_ne_nil _ _
  | type => exact List.cons_ne_nil _ _

/-- Declarations and type nodes are read alike however their JSON is laid out. An object that is
read as a record or type node has a positional form, and all its positional forms are read as the
same. -/
theorem reading_ignores_representation (origin : Origin) (room : Nat) :
    (∀ {v v' : Json}, Alike (.record .declaration) room v v' →
      (readDeclaration origin room v).toOption = (readDeclaration origin room v').toOption) ∧
    (∀ {v v' : Json}, Alike .type room v v' →
      (readType origin room v).toOption = (readType origin room v').toOption) ∧
    ∀ {role : Role} {fields : List (String × Json)} {a : role.Value},
      (Json.object fields).fits room = true → role.read origin room (.object fields) = .ok a →
        (∃ items, (role.outline (.object fields)).IsPositional fields items) ∧
        ∀ items, (role.outline (.object fields)).IsPositional fields items →
          (Json.array items).fits room = true → role.read origin room (.array items) = .ok a := by
  refine ⟨fun h => h.read_eq origin, fun h => h.read_eq origin, fun {role fields a} hfits ha => ?_⟩
  refine ⟨exists_positional hfits ha, fun items hitems hfits' => ?_⟩
  have hagree := agree_positional (outline_fields_ne_nil ha) hitems origin room hfits hfits'
  rw [ha] at hagree
  exact toOption_eq_some.1 hagree.symm

/-- A declaration in three layouts: the second one has its keys in another order, a key more, the
other spelling of a key, and two positional forms inside, and the third one is positional. The keys
are reordered first, and then the values at them are changed one by one. -/
theorem reading_ignores_representation_thrice :
    let parameter : List (String × Json) := [("name", .string "T")]
    let text : List (String × Json) := [("type", .string "intrinsic"), ("name", .string "string")]
    let array : List (String × Json) := [("type", .string "array"), ("elementType", .object text)]
    let fields : List (String × Json) := [("id", .number (.unsigned 1)), ("name", .string "A"),
      ("type", .object array), ("typeParameter", .array [.object parameter])]
    let other : Json := .object [("note", .array []),
      ("typeParameters", .array [.array [.string "T"]]),
      ("type", .object [("elementType", .array [.string "intrinsic", .string "string"]),
        ("type", .string "array")]), ("name", .string "A"), ("id", .number (.unsigned 1))]
    let items : List Json := [.number (.unsigned 1), .string "A", .string "", .object [], .null,
      .array [], .object array, .array [.object parameter]]
    (∃ d, readDeclaration .text 4 (.object fields) = .ok d ∧
      readDeclaration .text 4 other = .ok d ∧ readDeclaration .text 4 (.array items) = .ok d) ∧
    readType .text 4 (.array [.string "intrinsic", .string "string"]) =
      .ok (.intrinsic "string") := by
  intro parameter text array fields other items
  have hread : ∃ d, readDeclaration .text 4 (.object fields) = .ok d := ⟨_, rfl⟩
  obtain ⟨d, hd⟩ := hread
  have hparameter : Recast (.record .parameter) (.object parameter) (.array [.string "T"]) :=
    .positional (by simp [Role.outline, Record.outline])
      ⟨by decide, .present rfl (.dropped (by simp))⟩
  have htext : Recast .type (.object text) (.array [.string "intrinsic", .string "string"]) :=
    .positional (List.cons_ne_nil _ _)
      ⟨by decide, .present rfl (.present rfl (.dropped (by simp)))⟩
  have harray : Recast (.option .type) (.object array.reverse)
      (.object [("elementType", .array [.string "intrinsic", .string "string"]),
        ("type", .string "array")]) :=
    @Recast.field _ ⟨"elementType", .type, none⟩ "elementType" _ _ [] [("type", .string "array")]
      (.tail _ (.head _)) rfl htext
  let name : String × Json := ("name", .string "A")
  let id : String × Json := ("id", .number (.unsigned 1))
  let typed := fun v : Json => [("type", v), name, id]
  let parameters := Json.array [.object parameter]
  have hreordered : Recast (.record .declaration) (.object fields)
      (.object (("typeParameter", parameters) :: typed (.object array))) :=
    .reorder (List.reverse_perm fields).symm
  have hinserted : Recast (.record .declaration)
      (.object (("typeParameter", parameters) :: typed (.object array)))
      (.object (("note", .array []) :: ("typeParameter", parameters) :: typed (.object array))) :=
    @Recast.insert _ "note" (.array []) [] _ rfl
  have hrespelled : Recast (.record .declaration)
      (.object (("note", .array []) :: ("typeParameter", parameters) :: typed (.object array)))
      (.object (("note", .array []) :: ("typeParameters", parameters) :: typed (.object array))) :=
    @Recast.respell _ "typeParameter" "typeParameters" _ _ [("note", .array [])] _ rfl rfl
  have hparameters : Recast (.record .declaration)
      (.object (("note", .array []) :: ("typeParameters", parameters) :: typed (.object array)))
      (.object (("note", .array []) :: ("typeParameters", .array [.array [.string "T"]]) ::
        typed (.object array))) :=
    @Recast.field _ ⟨"typeParameter", .list (.record .parameter), some (.array [])⟩ "typeParameters"
      _ _ [("note", .array [])] _ (by simp [Role.outline, Record.outline]) rfl
      (@Recast.item (.list (.record .parameter)) _ _ _ [] [] rfl hparameter)
  have htype : ∀ {v v' : Json}, Recast (.option .type) v v' → Recast (.record .declaration)
      (.object (("note", .array []) :: ("typeParameters", .array [.array [.string "T"]]) ::
        typed v))
      (.object (("note", .array []) :: ("typeParameters", .array [.array [.string "T"]]) ::
        typed v')) :=
    fun h => @Recast.field _ ⟨"type", .option .type, some .null⟩ "type" _ _
      [("note", .array []), ("typeParameters", .array [.array [.string "T"]])] [name, id]
      (by simp [Role.outline, Record.outline]) rfl h
  have halike : Alike (.record .declaration) 4 (.object fields) other :=
    .trans _ _ _ (.rel _ _ ⟨hreordered, rfl, rfl⟩) <|
    .trans _ _ _ (.rel _ _ ⟨hinserted, rfl, rfl⟩) <|
    .trans _ _ _ (.rel _ _ ⟨hrespelled, rfl, rfl⟩) <|
    .trans _ _ _ (.rel _ _ ⟨hparameters, rfl, rfl⟩) <|
    .trans _ _ _ (.rel _ _ ⟨htype (.reorder (List.reverse_perm array).symm), rfl, rfl⟩) <|
    .rel _ _ ⟨htype harray, rfl, rfl⟩
  have hitems : Record.declaration.outline.IsPositional fields items :=
    ⟨by decide, .present rfl <| .present rfl <| .absent rfl <| .absent rfl <| .absent rfl <|
      .absent rfl <| .present rfl <| .present rfl <| .dropped (by decide)⟩
  obtain ⟨hdeclarations, htypes, hpositional⟩ := reading_ignores_representation .text 4
  refine ⟨⟨d, hd, ?_, ?_⟩, ?_⟩
  · rw [← toOption_eq_some, ← hdeclarations halike, hd]
    rfl
  · exact (@hpositional (.record .declaration) _ _ rfl hd).2 items hitems rfl
  · rw [← toOption_eq_some, ← htypes (.rel _ _ ⟨htext, rfl, rfl⟩)]
    rfl

end ZigReflect
