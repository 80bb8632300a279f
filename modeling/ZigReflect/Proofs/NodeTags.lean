import ZigReflect.Proofs.Roles

/-!
# Tags of type nodes

A type node is an object that has one tag, anywhere among its keys, or an array whose first item is
the tag. Either way it comes apart into the tag and the rest, which is an object or array again and
is read as the record that goes with the tag. So two nodes are read alike if they have the same tag
and the rest of them is read alike (`readType_congr`).

The entries of a node are its tag and the entries of the rest (`known_node`), and its positional
form is the tag before the positional form of the rest (`isPositional_node`).
-/

namespace ZigReflect

open Json

variable {origin : Origin} {room : Nat}

/-! ## Tags -/

/-- The value of the only tag of an object. -/
def nodeTag? (fields : List (String × Json)) : Option Json :=
  match fields.filter fun e => e.1 == "type" with
  | [e] => some e.2
  | _ => none

/-- The fields of an object that are no tags. -/
def nodeBody (fields : List (String × Json)) : List (String × Json) :=
  fields.filter fun e => e.1 != "type"

theorem splitTag_other {key : String} (hkey : key ≠ "type") (v : Json)
    (rest seen : List (String × Json)) (tag? : Option String) :
    splitTag origin ((key, v) :: rest) tag? seen =
      splitTag origin rest tag? ((key, v) :: seen) := by
  cases tag? <;> simp [splitTag, hkey]

theorem toOption_splitTag_some (tag : String) : ∀ (fields seen : List (String × Json)),
    (splitTag origin fields (some tag) seen).toOption =
      match fields.filter fun e => e.1 == "type" with
      | [] => some (tag, .object (seen.reverse ++ nodeBody fields))
      | _ => none
  | [], seen => by simp [splitTag, nodeBody]
  | (key, v) :: rest, seen => by
    by_cases hkey : key = "type"
    · subst hkey
      simp [splitTag]
    · rw [splitTag_other hkey, toOption_splitTag_some]
      simp [nodeBody, hkey]

theorem toOption_splitTag_none : ∀ (fields seen : List (String × Json)),
    (splitTag origin fields none seen).toOption = (nodeTag? fields).bind fun v =>
      (readTag origin v).toOption.map fun tag => (tag, .object (seen.reverse ++ nodeBody fields))
  | [], seen => by simp [splitTag, nodeTag?]
  | (key, v) :: rest, seen => by
    by_cases hkey : key = "type"
    · subst hkey
      simp only [splitTag, toOption_bind, toOption_splitTag_some, nodeTag?, nodeBody,
        List.filter_cons, beq_self_eq_true, bne_self_eq_false, if_true]
      cases rest.filter fun e => e.1 == "type" <;> cases hread : readTag origin v <;> simp [hread]
    · rw [splitTag_other hkey, toOption_splitTag_none]
      simp [nodeTag?, nodeBody, hkey]

/-- An object is a type node if it has one tag that can be read. -/
theorem toOption_readTagged_object (fields : List (String × Json)) :
    (readTagged origin (.object fields)).toOption = (nodeTag? fields).bind fun v =>
      (readTag origin v).toOption.map fun tag => (tag, .object (nodeBody fields)) :=
  toOption_splitTag_none fields []

theorem toOption_readTagged_array (tag : Json) (items : List Json) :
    (readTagged origin (.array (tag :: items))).toOption =
      (readTag origin tag).toOption.map fun tag => (tag, .array items) := by
  simp only [readTagged, toOption_bind, toOption_pure]
  cases (readTag origin tag).toOption <;> rfl

theorem contains_of_readTag {v : Json} {tag : String} (h : readTag origin v = .ok tag) :
    typeTags.contains tag = true ∧ readTag .held v = .ok tag := by
  unfold readTag at h
  split at h
  · next s =>
    split at h
    · next hcontains =>
      cases h
      exact ⟨hcontains, if_pos hcontains⟩
    · cases h
  · next n =>
    cases origin with
    | text => cases h
    | held =>
      cases htag : typeTags[n]? with
      | none => simp [htag] at h
      | some name =>
        simp only [htag, Except.ok.injEq] at h
        subst h
        exact ⟨List.contains_iff_mem.2 (List.mem_of_getElem? htag), by simp [readTag, htag]⟩
  · cases h

theorem contains_of_readTagged {v body : Json} {tag : String}
    (h : readTagged origin v = .ok (tag, body)) : typeTags.contains tag = true := by
  rw [← toOption_eq_some] at h
  have hread : ∃ t, (readTag origin t).toOption = some tag := by
    cases v with
    | object fields =>
      rw [toOption_readTagged_object] at h
      obtain ⟨t, -, ht⟩ := Option.bind_eq_some_iff.1 h
      obtain ⟨tag', htag, heq⟩ := Option.map_eq_some_iff.1 ht
      cases heq
      exact ⟨t, htag⟩
    | array items =>
      cases items with
      | nil => cases h
      | cons t items =>
        rw [toOption_readTagged_array] at h
        obtain ⟨tag', htag, heq⟩ := Option.map_eq_some_iff.1 h
        cases heq
        exact ⟨t, htag⟩
    | _ => cases h
  obtain ⟨t, ht⟩ := hread
  exact (contains_of_readTag (toOption_eq_some.1 ht)).1

/-- Two nodes with their tags read have the same tag, and the rest of them is read alike. -/
def SameNode (room : Nat) (node node' : String × Json) : Prop :=
  node.1 = node'.1 ∧ ∀ reader : Json → Read TypeNode,
    ReadsRecord ⟨variantFields node.1, []⟩ .held room reader →
      (reader node.2).toOption = (reader node'.2).toOption

theorem readType_congr {v v' : Json} (hfits : v.fits (room + 1) = true)
    (hfits' : v'.fits (room + 1) = true)
    (h : Option.Rel (SameNode room) (readTagged origin v).toOption
      (readTagged origin v').toOption) :
    (readType origin (room + 1) v).toOption = (readType origin (room + 1) v').toOption := by
  generalize hnode : (readTagged origin v).toOption = node at h
  generalize hnode' : (readTagged origin v').toOption = node' at h
  cases h with
  | none =>
    rw [readType, readType, if_neg (by simp [hfits]), if_neg (by simp [hfits']), toOption_bind,
      toOption_bind, hnode, hnode']
  | @some node node' hsame =>
    obtain ⟨tag, body⟩ := node
    obtain ⟨tag', body'⟩ := node'
    obtain ⟨rfl, hbody⟩ := hsame
    rw [toOption_eq_some] at hnode hnode'
    rw [readType_of_readTagged hfits hnode, readType_of_readTagged hfits' hnode']
    exact hbody _ (readsRecord_variantReader (contains_of_readTagged hnode) room)

theorem sameNode_refl (node? : Option (String × Json)) :
    Option.Rel (SameNode room) node? node? := by
  cases node? with
  | none => exact .none
  | some node => exact .some ⟨rfl, fun _ _ => rfl⟩

/-- Nodes with the same tag are the same if the rest of them is read alike. -/
theorem sameNode_of_tag {t body body' : Json}
    (h : ∀ tag, readTag .held t = .ok tag → ∀ reader : Json → Read TypeNode,
      ReadsRecord ⟨variantFields tag, []⟩ .held room reader →
        (reader body).toOption = (reader body').toOption) :
    Option.Rel (SameNode room) ((readTag origin t).toOption.map fun tag => (tag, body))
      ((readTag origin t).toOption.map fun tag => (tag, body')) := by
  cases htag : readTag origin t with
  | error e => exact .none
  | ok tag => exact .some ⟨rfl, h tag (contains_of_readTag htag).2⟩

/-! ## Objects with a tag -/

theorem nodeTag?_perm {fields fields' : List (String × Json)} (h : fields.Perm fields') :
    nodeTag? fields = nodeTag? fields' := by
  have hsole : ∀ {tags tags' : List (String × Json)}, tags.Perm tags' →
      (match tags with | [e] => some e.2 | _ => none) =
        match tags' with | [e] => some e.2 | _ => none := by
    intro tags tags' hperm
    have hlength := hperm.length_eq
    rcases tags with _ | ⟨e, _ | ⟨e', tags⟩⟩ <;> rcases tags' with _ | ⟨f, _ | ⟨f', tags'⟩⟩ <;>
      simp at hlength hperm ⊢
    rw [hperm]
  exact hsole (h.filter fun e => e.1 == "type")

/-- A field that is no tag is part of the rest. -/
theorem nodeBody_middle {key : String} (hkey : key ≠ "type") (v : Json)
    (before after : List (String × Json)) :
    nodeBody (before ++ (key, v) :: after) = nodeBody before ++ (key, v) :: nodeBody after := by
  simp [nodeBody, hkey]

theorem nodeTag?_middle {key : String} (hkey : key ≠ "type") (v : Json)
    (before after : List (String × Json)) :
    nodeTag? (before ++ (key, v) :: after) = nodeTag? (before ++ after) := by
  simp [nodeTag?, hkey]

/-- A tag is the only one, whatever its value, or there are others. -/
theorem nodeTag?_tag (before after : List (String × Json)) :
    (∀ v, nodeTag? (before ++ ("type", v) :: after) = some v) ∨
      ∀ v, nodeTag? (before ++ ("type", v) :: after) = none := by
  simp only [nodeTag?, List.filter_append, List.filter_cons, beq_self_eq_true, if_true]
  cases before.filter fun e => e.1 == "type" with
  | nil =>
    cases after.filter fun e => e.1 == "type" with
    | nil => exact .inl fun v => rfl
    | cons e tags => exact .inr fun v => rfl
  | cons e tags =>
    refine .inr fun v => ?_
    cases tags <;> rfl

theorem nodeBody_tag (v : Json) (before after : List (String × Json)) :
    nodeBody (before ++ ("type", v) :: after) = nodeBody (before ++ after) := by
  simp [nodeBody]

/-- The only tag of an object, and the rest around it. -/
theorem exists_split_of_nodeTag? {fields : List (String × Json)} {t : Json}
    (h : nodeTag? fields = some t) : ∃ before after, fields = before ++ ("type", t) :: after ∧
      nodeBody fields = before ++ after ∧ ∀ e ∈ before ++ after, e.1 ≠ "type" := by
  unfold nodeTag? at h
  split at h
  · next e htags =>
    cases h
    obtain ⟨before, after, rfl, hbefore, htag, hafter⟩ := List.filter_eq_cons_iff.1 htags
    obtain ⟨key, t⟩ := e
    obtain rfl : key = "type" := by simpa using htag
    have hother : ∀ e ∈ before ++ after, e.1 ≠ "type" := by
      intro e he
      rcases List.mem_append.1 he with he | he
      · simpa using hbefore e he
      · simpa using List.filter_eq_nil_iff.1 hafter e he
    refine ⟨before, after, rfl, ?_, hother⟩
    have hrest : nodeBody (before ++ after) = before ++ after :=
      List.filter_eq_self.2 fun e he => by simpa using hother e he
    rw [← hrest]
    simp [nodeBody]
  · cases h

theorem lookup_of_nodeTag? {fields : List (String × Json)} {t : Json}
    (h : nodeTag? fields = some t) : tagValue? (.object fields) = some t := by
  obtain ⟨before, after, rfl, -, hother⟩ := exists_split_of_nodeTag? h
  have hnone : before.lookup "type" = none :=
    List.lookup_eq_none_iff.2 fun e he => by
      simpa using Ne.symm (hother e (List.mem_append_left _ he))
  simp [tagValue?, List.lookup_append, hnone]

/-- The fields of a node whose tag can be read. -/
theorem nodeOutline_fields {t : Json} {tag : String} (h : readTag .held t = .ok tag) :
    (nodeOutline (some t)).fields = ⟨"type", .scalar .tag, none⟩ :: variantFields tag := by
  simp [nodeOutline, h]

theorem name_ne_type_of_mem {tag : String} {x : Field} (hx : x ∈ variantFields tag) :
    x.name ≠ "type" := by
  unfold variantFields at hx
  split at hx <;> simp only [List.mem_cons, List.not_mem_nil, or_false] at hx <;>
    rcases hx with rfl | rfl <;> decide

/-- Without aliases a key stands for the field of its name. -/
theorem field?_of_fields {o : Outline} (h : o.aliases = []) (key : String) :
    o.shape.field? key = if key ∈ o.fields.map Field.name then some key else none := by
  simp [RecordShape.field?, Outline.shape, h, List.contains_eq_mem]

theorem eq_of_field? {o : Outline} (ho : o.aliases = []) {key name : String}
    (h : o.shape.field? key = some name) : key = name := by
  rw [field?_of_fields ho] at h
  split at h <;> cases h
  rfl

/-- In the fields of a node, a key that is not the tag's stands for one of those that go with the
tag. -/
theorem field?_variant {t : Json} {tag key : String} (h : readTag .held t = .ok tag)
    (hkey : key ≠ "type") :
    (Outline.mk (variantFields tag) []).shape.field? key =
      (nodeOutline (some t)).shape.field? key := by
  rw [field?_of_fields rfl, field?_of_fields rfl, nodeOutline_fields h]
  simp [hkey]

/-- A key that stands for the tag has the tag's role. -/
theorem role_of_tag {x : Field} {t? : Option Json} (hx : x ∈ (nodeOutline t?).fields)
    (hname : x.name = "type") : x = ⟨"type", .scalar .tag, none⟩ := by
  rcases List.mem_cons.1 hx with rfl | hx
  · rfl
  · split at hx
    · exact absurd hname (name_ne_type_of_mem hx)
    · simp at hx

/-! ## Positional forms -/

/-- The entries of a node are its tag and the entries of the rest. -/
theorem known_node {fields : List (String × Json)} {t : Json} {tag : String}
    (ht : nodeTag? fields = some t) (htag : readTag .held t = .ok tag) :
    ∃ before after, (nodeOutline (some t)).shape.known fields = before ++ ("type", t) :: after ∧
      (Outline.mk (variantFields tag) []).shape.known (nodeBody fields) = before ++ after := by
  obtain ⟨before, after, rfl, hbody, hother⟩ := exists_split_of_nodeTag? ht
  have hknown : ∀ part : List (String × Json), (∀ e ∈ part, e ∈ before ++ after) →
      (nodeOutline (some t)).shape.known part =
        (Outline.mk (variantFields tag) []).shape.known part := by
    intro part hpart
    refine List.filterMap_congr fun e he => ?_
    dsimp only
    rw [field?_variant htag (hother e (hpart e he))]
  have htype : (nodeOutline (some t)).shape.field? "type" = some "type" := by
    rw [field?_of_fields rfl]
    simp [nodeOutline]
  refine ⟨(Outline.mk (variantFields tag) []).shape.known before,
    (Outline.mk (variantFields tag) []).shape.known after, ?_, ?_⟩
  · rw [RecordShape.known_append, RecordShape.known_cons_some htype,
      hknown before fun e he => List.mem_append_left _ he,
      hknown after fun e he => List.mem_append_right _ he]
  · rw [hbody, RecordShape.known_append]

/-- The positional form of a node is its tag and the positional form of the rest. -/
theorem isPositional_node {fields : List (String × Json)} {items : List Json} {t : Json}
    {tag : String} (ht : nodeTag? fields = some t) (htag : readTag .held t = .ok tag) :
    (nodeOutline (some t)).IsPositional fields items ↔ ∃ items', items = t :: items' ∧
      (Outline.mk (variantFields tag) []).IsPositional (nodeBody fields) items' := by
  obtain ⟨before, after, hnode, hbody⟩ := known_node ht htag
  have hslots : (nodeOutline (some t)).slots =
      ("type", none) :: (Outline.mk (variantFields tag) []).slots := by
    rw [Outline.slots, nodeOutline_fields htag]
    rfl
  have hother : "type" ∉ (before ++ after).map Prod.fst := by
    intro hmem
    obtain ⟨e, he, hname⟩ := List.mem_map.1 hmem
    rw [← hbody] at he
    obtain ⟨⟨key, v⟩, -, hkey⟩ := List.mem_filterMap.1 he
    obtain ⟨name, hfield, rfl⟩ := Option.map_eq_some_iff.1 hkey
    rw [field?_of_fields rfl] at hfield
    split at hfield
    · next hmem =>
      cases hfield
      obtain ⟨x, hx, rfl⟩ := List.mem_map.1 hmem
      exact name_ne_type_of_mem hx hname
    · cases hfield
  have htype : (before ++ ("type", t) :: after).lookup "type" = some t := by
    have hnone : before.lookup "type" = none := by
      rw [← Option.not_isSome_iff_eq_none, RecordShape.lookup_isSome]
      exact fun hmem => hother (by simp [hmem])
    simp [List.lookup_append, hnone]
  have hlookup : ∀ slot ∈ (Outline.mk (variantFields tag) []).slots,
      (before ++ ("type", t) :: after).lookup slot.1 = (before ++ after).lookup slot.1 := by
    intro slot hslot
    obtain ⟨x, hx, rfl⟩ := List.mem_map.1 hslot
    have hne : (x.name == "type") = false := by simpa using name_ne_type_of_mem hx
    simp [List.lookup_append, List.lookup_cons, hne]
  rw [Outline.IsPositional, hnode, hslots]
  simp only [Outline.IsPositional, hbody]
  rw [List.map_append, List.map_cons, List.nodup_middle, List.nodup_cons, ← List.map_append]
  constructor
  · rintro ⟨⟨-, hnodup⟩, hitems⟩
    cases hitems with
    | dropped h =>
      have hnone := h ("type", none) List.mem_cons_self
      rw [htype] at hnone
      cases hnone
    | @present _ _ v _ items' h rest =>
      obtain rfl := Option.some.inj (htype.symm.trans h)
      exact ⟨items', rfl, hnodup, rest.congr fun slot hslot => (hlookup slot hslot).symm⟩
  · rintro ⟨items', rfl, hnodup, hitems⟩
    exact ⟨⟨hother, hnodup⟩, .present htype (hitems.congr hlookup)⟩

theorem lookup_eq_filter (name : String) : ∀ entries : List (String × Json),
    entries.lookup name = (entries.filter fun e => e.1 == name).head?.map Prod.snd
  | [] => rfl
  | (key, v) :: entries => by
    by_cases hkey : key = name
    · subst hkey
      simp
    · have hne : (name == key) = false := by simpa using Ne.symm hkey
      simp [List.lookup_cons, hne, hkey, lookup_eq_filter name entries]

/-- The tag is the only one if no field is repeated. -/
theorem lookup_known_type {t? : Option Json} {fields : List (String × Json)}
    (hnodup : (((nodeOutline t?).shape.known fields).map Prod.fst).Nodup) :
    ((nodeOutline t?).shape.known fields).lookup "type" = nodeTag? fields := by
  have htags : ∀ fields : List (String × Json),
      (((nodeOutline t?).shape.known fields).filter fun e => e.1 == "type") =
        fields.filter fun e => e.1 == "type" := by
    intro fields
    induction fields with
    | nil => rfl
    | cons e fields ih =>
      obtain ⟨key, v⟩ := e
      by_cases hkey : key = "type"
      · have htype : (nodeOutline t?).shape.field? key = some "type" := by
          rw [field?_of_fields rfl, hkey]
          simp [nodeOutline]
        rw [RecordShape.known_cons_some htype]
        simp [hkey, ih]
      · rw [List.filter_cons_of_neg (by simpa using hkey), ← ih]
        cases hfield : (nodeOutline t?).shape.field? key with
        | none => rw [RecordShape.known_cons_none hfield]
        | some name =>
          obtain rfl := eq_of_field? rfl hfield
          rw [RecordShape.known_cons_some hfield, List.filter_cons_of_neg (by simpa using hkey)]
  have hsole : ((fields.filter fun e => e.1 == "type").map Prod.fst).Nodup := by
    rw [← htags fields]
    exact hnodup.sublist (List.filter_sublist.map Prod.fst)
  have hname : ∀ e ∈ fields.filter fun e => e.1 == "type", e.1 = "type" := fun e he => by
    simpa using (List.mem_filter.1 he).2
  rw [lookup_eq_filter, htags, nodeTag?]
  generalize fields.filter (fun e => e.1 == "type") = tags at hsole hname
  rcases tags with _ | ⟨e, _ | ⟨e', tags⟩⟩
  · rfl
  · rfl
  · have hrepeated : e.1 = e'.1 := by rw [hname e (by simp), hname e' (by simp)]
    simp [hrepeated] at hsole

/-- In the positional form of a node the tag comes first. -/
theorem tag_of_isPositional {t? : Option Json} {fields : List (String × Json)} {items : List Json}
    (h : (nodeOutline t?).IsPositional fields items) :
    (nodeTag? fields = none ∧ items = []) ∨
      ∃ t rest, nodeTag? fields = some t ∧ items = t :: rest := by
  obtain ⟨hnodup, hitems⟩ := h
  have hlookup := lookup_known_type hnodup
  cases hitems with
  | dropped h => exact .inl ⟨hlookup.symm.trans (h _ List.mem_cons_self), rfl⟩
  | present h _ => exact .inr ⟨_, _, hlookup.symm.trans h, rfl⟩

end ZigReflect
