import Mathlib.Data.List.Nodup
import ZigReflect.Json.Record

/-!
# Records are read from their fields

A record is written as an object or as an array. Either way it comes down to its fields with their
values, its entries: for an object those whose keys stand for fields (`RecordShape.known`), for an
array the fields in their order, as many as there are items. `RecordShape.outcome` reads a record
from its entries, and the readers agree with it (`RecordShape.read_object` and
`RecordShape.read_array`).

Errors are found in the order of the text, so readings are compared by what they give, and all
failures are alike. If the fields of a record are read independently (`RecordShape.Orderly`), the
order of its entries does not matter.
-/

namespace ZigReflect.Json

variable {α β δ : Type}

/-! ## What a reading gives -/

@[simp]
theorem toOption_ok (a : α) : (Except.ok a : Read α).toOption = some a := rfl

@[simp]
theorem toOption_error (e : ReadError) : (Except.error e : Read α).toOption = none := rfl

theorem ok_bind (a : α) (f : α → Read β) : (Except.ok a >>= f) = f a := rfl

/-- Which error it is does not matter to what follows. -/
@[simp]
theorem toOption_bind (x : Read α) (f : α → Read β) :
    (x >>= f).toOption = x.toOption.bind fun a => (f a).toOption := by
  cases x <;> rfl

@[simp]
theorem toOption_map (f : α → β) (x : Read α) : (f <$> x).toOption = x.toOption.map f := by
  cases x <;> rfl

@[simp]
theorem toOption_pure (a : α) : (pure a : Read α).toOption = some a := rfl

theorem toOption_eq_some {x : Read α} {a : α} : x.toOption = some a ↔ x = .ok a := by
  cases x <;> simp

/-- A field that is needed has its value, or nothing is read. -/
@[simp]
theorem toOption_need (absent : String → ReadError) (name : String) (a? : Option α) :
    (need absent name a?).toOption = a? := by
  cases a? <;> rfl

namespace RecordShape

variable {shape : RecordShape} {origin : Origin} {start : δ} {put : δ → String → Json → Read δ}
  {finish : (String → ReadError) → δ → Read α} {room : Nat}

/-! ## Entries -/

/-- The fields of an object whose keys stand for fields of the record. -/
def known (shape : RecordShape) (fields : List (String × Json)) : List (String × Json) :=
  fields.filterMap fun (key, v) => (shape.field? key).map fun name => (name, v)

@[simp]
theorem known_nil (shape : RecordShape) : shape.known [] = [] := rfl

@[simp]
theorem known_append (shape : RecordShape) (fields fields' : List (String × Json)) :
    shape.known (fields ++ fields') = shape.known fields ++ shape.known fields' :=
  List.filterMap_append

/-- A key that stands for no field is passed over. -/
theorem known_cons_none {key : String} (h : shape.field? key = none) (v : Json)
    (fields : List (String × Json)) : shape.known ((key, v) :: fields) = shape.known fields := by
  simp [known, h]

/-- A key stands for its field, however it is spelled. -/
theorem known_cons_some {key name : String} (h : shape.field? key = some name) (v : Json)
    (fields : List (String × Json)) :
    shape.known ((key, v) :: fields) = (name, v) :: shape.known fields := by
  simp [known, h]

theorem lookup_isSome {entries : List (String × Json)} {name : String} :
    (entries.lookup name).isSome = true ↔ name ∈ entries.map Prod.fst := by
  rw [List.lookup_isSome_iff, List.mem_map]
  exact exists_congr fun e => and_congr_right fun _ => beq_iff_eq.trans eq_comm

/-- The record so far after some entries. -/
def collect (put : δ → String → Json → Read δ) (start : δ) (entries : List (String × Json)) :
    Option δ :=
  entries.foldl (fun d? e => d?.bind fun d => (put d e.1 e.2).toOption) (some start)

/-- What is read from some entries. -/
def outcome (put : δ → String → Json → Read δ) (finish : (String → ReadError) → δ → Read α)
    (start : δ) (entries : List (String × Json)) : Option α :=
  (collect put start entries).bind fun d => (finish .missingField d).toOption

/-- Errors apart, the entries are put into the record one by one. -/
theorem toOption_foldlM (put : δ → String → Json → Read δ) (entries : List (String × Json))
    (start : δ) :
    (entries.foldlM (fun d (name, v) => put d name v) start).toOption =
      collect put start entries := by
  have hnone : ∀ entries : List (String × Json),
      entries.foldl (fun d? e => d?.bind fun d => (put d e.1 e.2).toOption) none = none := by
    intro entries
    induction entries with
    | nil => rfl
    | cons e entries ih => exact ih
  induction entries generalizing start with
  | nil => rfl
  | cons e entries ih =>
    rw [List.foldlM_cons, toOption_bind, collect, List.foldl_cons, Option.bind_some]
    cases (put start e.1 e.2).toOption with
    | none => exact (hnone entries).symm
    | some d => exact ih d

/-- The known fields of an object are found, all of them, unless one is repeated. -/
theorem layFields_eq (shape : RecordShape) : ∀ (fields seen : List (String × Json)),
    (seen.map Prod.fst).Nodup →
      if ((seen.reverse ++ shape.known fields).map Prod.fst).Nodup then
        shape.layFields fields seen = (seen.reverse ++ shape.known fields, none)
      else (shape.layFields fields seen).2.isSome
  | [], seen, hseen => by simp [layFields, hseen]
  | (key, v) :: rest, seen, hseen => by
    cases hkey : shape.field? key with
    | none =>
      simp only [layFields, hkey, known_cons_none hkey]
      exact layFields_eq shape rest seen hseen
    | some name =>
      simp only [layFields, hkey, known_cons_some hkey]
      by_cases hrepeated : (seen.lookup name).isSome = true
      · rw [if_pos hrepeated, if_neg]
        · rfl
        · intro hnodup
          rw [List.map_append, List.map_reverse, List.nodup_append'] at hnodup
          exact hnodup.2.2 (List.mem_reverse.2 (lookup_isSome.1 hrepeated)) (by simp)
      · have hnext := layFields_eq shape rest ((name, v) :: seen)
          (List.nodup_cons.2 ⟨fun h => hrepeated (lookup_isSome.2 h), hseen⟩)
        rw [if_neg hrepeated]
        simpa using hnext

/-! ## Objects and arrays -/

/-- Inside the room, a record is laid out, filled and finished. -/
theorem read_succ (v : Json) :
    shape.read origin start put finish (room + 1) v = (do
      let laid ← shape.lay origin v
      let record ← laid.entries.foldlM (fun record (name, v) => put record name v) start
      match laid.fault with
      | some e => .error e
      | none => finish laid.absent record) := by
  cases v <;> rfl

/-- An object is read from its known fields, if none of them is repeated. -/
theorem read_object (fields : List (String × Json)) :
    (shape.read origin start put finish (room + 1) (.object fields)).toOption =
      if ((shape.known fields).map Prod.fst).Nodup then
        outcome put finish start (shape.known fields)
      else none := by
  have hlaid := layFields_eq shape fields [] List.nodup_nil
  rw [read_succ]
  simp only [lay, toOption_bind, toOption_ok, Option.bind_some]
  split at hlaid
  · next hnodup =>
    rw [if_pos (by simpa using hnodup), hlaid]
    simp [toOption_foldlM, outcome]
  · next hrepeated =>
    rw [if_neg (by simpa using hrepeated)]
    obtain ⟨e, he⟩ := Option.isSome_iff_exists.1 hlaid
    rw [he]
    simp

/-- The fields of a record are read independently of each other, and a record that lacks one fails
whatever the error says. -/
structure Orderly (shape : RecordShape) (put : δ → String → Json → Read δ)
    (finish : (String → ReadError) → δ → Read α) : Prop where
  nodup : shape.fields.Nodup
  aliases : ∀ entry ∈ shape.aliases, entry.2 ∈ shape.fields
  commute : ∀ name ∈ shape.fields, ∀ name' ∈ shape.fields, name ≠ name' → ∀ d v v',
    ((put d name v).toOption.bind fun d => (put d name' v').toOption) =
      (put d name' v').toOption.bind fun d => (put d name v).toOption
  finish : ∀ absent d, (finish absent d).toOption = (finish .missingField d).toOption

/-- An array is read as the fields in their order, if it has no item too many. -/
theorem read_array (h : shape.Orderly put finish) (items : List Json) :
    (shape.read origin start put finish (room + 1) (.array items)).toOption =
      if items.length ≤ shape.fields.length then
        outcome put finish start (shape.fields.zip items)
      else none := by
  rw [read_succ]
  simp only [lay, surplus, toOption_bind, toOption_ok, Option.bind_some]
  by_cases hlength : items.length ≤ shape.fields.length
  · simp [hlength, toOption_foldlM, outcome, h.finish]
  · cases origin <;> simp [hlength]

/-! ## Other orders -/

theorem Orderly.mem_fields (h : shape.Orderly put finish) {key name : String}
    (hkey : shape.field? key = some name) : name ∈ shape.fields := by
  unfold field? at hkey
  split at hkey
  · next hcontains =>
    cases hkey
    simpa using hcontains
  · obtain ⟨before, after, hsplit, -⟩ := List.lookup_eq_some_iff.1 hkey
    exact h.aliases (key, name) (hsplit ▸ by simp)

/-- What is known is an entry of a field. -/
theorem Orderly.mem_known (h : shape.Orderly put finish) {fields : List (String × Json)}
    {e : String × Json} (he : e ∈ shape.known fields) : e.1 ∈ shape.fields := by
  obtain ⟨⟨key, v⟩, -, hkey⟩ := List.mem_filterMap.1 he
  obtain ⟨name, hname, rfl⟩ := Option.map_eq_some_iff.1 hkey
  exact h.mem_fields hname

/-- Entries can be read in any order. -/
theorem Orderly.outcome_perm (h : shape.Orderly put finish)
    {entries entries' : List (String × Json)} (hperm : entries.Perm entries') (hnodup : (entries.map Prod.fst).Nodup)
    (hnames : ∀ e ∈ entries, e.1 ∈ shape.fields) :
    outcome put finish start entries = outcome put finish start entries' := by
  rw [outcome, outcome, collect, collect]
  congr 1
  refine hperm.foldl_eq' (fun e he e' he' d? => ?_) (some start)
  cases d? with
  | none => rfl
  | some d =>
    by_cases hname : e.1 = e'.1
    · rw [List.inj_on_of_nodup_map hnodup he he' hname]
    · exact h.commute e.1 (hnames e he) e'.1 (hnames e' he') hname d e.2 e'.2

/-- Values that are put alike can stand for each other. -/
theorem outcome_congr {name : String} {v v' : Json} (before after : List (String × Json))
    (h : ∀ d, (put d name v).toOption = (put d name v').toOption) :
    outcome put finish start (before ++ (name, v) :: after) =
      outcome put finish start (before ++ (name, v') :: after) := by
  have hstep : ∀ d? : Option δ, (d?.bind fun d => (put d name v).toOption) =
      d?.bind fun d => (put d name v').toOption := fun d? => by simp only [h]
  simp only [outcome, collect, List.foldl_append, List.foldl_cons, hstep]

/-- Entries that leave the record as it starts are not seen at the front. -/
theorem outcome_append_of_idle {entries : List (String × Json)} : ∀ {extra : List (String × Json)},
    (∀ e ∈ extra, (put start e.1 e.2).toOption = some start) →
      outcome put finish start (extra ++ entries) = outcome put finish start entries
  | [], _ => rfl
  | e :: extra, h => by
    have hrest : outcome put finish start (extra ++ entries) = outcome put finish start entries :=
      outcome_append_of_idle fun e he => h e (List.mem_cons_of_mem _ he)
    rw [← hrest]
    simp only [outcome, collect, List.cons_append, List.foldl_cons, Option.bind_some,
      h e List.mem_cons_self]

/-! ## The positional form -/

/-- The items of an array that stands for some entries, the fields in their order, each with its
default if it has one: an absent field is written as its default, or dropped if all that follow are
absent, too. -/
inductive Positional (entries : List (String × Json)) :
    List (String × Option Json) → List Json → Prop
  | dropped {slots} (h : ∀ slot ∈ slots, entries.lookup slot.1 = none) : Positional entries slots []
  | present {name default? v slots items} (h : entries.lookup name = some v)
    (rest : Positional entries slots items) :
    Positional entries ((name, default?) :: slots) (v :: items)
  | absent {name v slots items} (h : entries.lookup name = none)
    (rest : Positional entries slots items) :
    Positional entries ((name, some v) :: slots) (v :: items)

/-- A positional form has no more items than there are slots. -/
theorem Positional.length_le {entries : List (String × Json)} {slots : List (String × Option Json)}
    {items : List Json} (h : Positional entries slots items) : items.length ≤ slots.length := by
  induction h with
  | dropped => simp
  | present _ _ ih => simpa using ih
  | absent _ _ ih => simpa using ih

/-- Only the values of the fields matter. -/
theorem Positional.congr {entries entries' : List (String × Json)}
    {slots : List (String × Option Json)} {items : List Json} (h : Positional entries slots items)
    (hlookup : ∀ slot ∈ slots, entries'.lookup slot.1 = entries.lookup slot.1) :
    Positional entries' slots items := by
  induction h with
  | dropped h => exact .dropped fun slot hslot => (hlookup slot hslot).trans (h slot hslot)
  | present h _ ih =>
    exact .present ((hlookup _ List.mem_cons_self).trans h)
      (ih fun slot hslot => hlookup slot (List.mem_cons_of_mem _ hslot))
  | absent h _ ih =>
    exact .absent ((hlookup _ List.mem_cons_self).trans h)
      (ih fun slot hslot => hlookup slot (List.mem_cons_of_mem _ hslot))

/-- The entries of some names are that of the first one and those of the others. -/
theorem filter_names_cons_of_present {entries : List (String × Json)} {name : String} {v : Json}
    {names : List String} (h : entries.lookup name = some v)
    (hnodup : (entries.map Prod.fst).Nodup) (hname : name ∉ names) :
    (entries.filter fun e => e.1 ∈ name :: names).Perm
      ((name, v) :: entries.filter fun e => e.1 ∈ names) := by
  obtain ⟨before, after, rfl, -⟩ := List.lookup_eq_some_iff.1 h
  have hother : ∀ e ∈ before ++ after, e.1 ≠ name := by
    intro e he heq
    rw [List.map_append, List.map_cons, List.nodup_middle, ← List.map_append] at hnodup
    exact (List.nodup_cons.1 hnodup).1 (List.mem_map.2 ⟨e, he, heq⟩)
  have hsame : ∀ part : List (String × Json), (∀ e ∈ part, e ∈ before ++ after) →
      (part.filter fun e => e.1 ∈ name :: names) = part.filter fun e => e.1 ∈ names := by
    intro part hpart
    refine List.filter_congr fun e he => ?_
    simp [hother e (hpart e he)]
  rw [List.filter_append, List.filter_append, hsame before (by simp +contextual),
    List.filter_cons_of_pos (by simp), List.filter_cons_of_neg (by simpa using hname),
    hsame after (by simp +contextual)]
  exact List.perm_middle

/-- The entries of a positional form are those it stands for, and defaults. -/
theorem Positional.perm {entries : List (String × Json)} {slots : List (String × Option Json)}
    {items : List Json} (h : Positional entries slots items)
    (hnodup : (entries.map Prod.fst).Nodup) (hslots : (slots.map Prod.fst).Nodup) :
    ∃ extra, ((slots.map Prod.fst).zip items).Perm
        (extra ++ entries.filter fun e => e.1 ∈ slots.map Prod.fst) ∧
      ∀ e ∈ extra, (e.1, some e.2) ∈ slots := by
  induction h with
  | @dropped slots h =>
    refine ⟨[], ?_, by simp⟩
    rw [List.zip_nil_right, List.nil_append, List.filter_eq_nil_iff.2]
    intro e he hmem
    obtain ⟨slot, hslot, heq⟩ := List.mem_map.1 (of_decide_eq_true hmem)
    have hsome := lookup_isSome.2 (List.mem_map_of_mem (f := Prod.fst) he)
    rw [← heq, h slot hslot] at hsome
    exact Bool.noConfusion hsome
  | @present name default? v slots items h rest ih =>
    obtain ⟨hname, hslots⟩ := List.nodup_cons.1 hslots
    obtain ⟨extra, hperm, hextra⟩ := ih hslots
    refine ⟨extra, ?_, fun e he => List.mem_cons_of_mem _ (hextra e he)⟩
    have hfront := filter_names_cons_of_present h hnodup hname
    exact (hperm.cons (name, v)).trans (List.perm_middle.symm.trans (hfront.symm.append_left extra))
  | @absent name v slots items h rest ih =>
    obtain ⟨-, hslots⟩ := List.nodup_cons.1 hslots
    obtain ⟨extra, hperm, hextra⟩ := ih hslots
    refine ⟨(name, v) :: extra, ?_, ?_⟩
    · have hsame : (entries.filter fun e => e.1 ∈ name :: slots.map Prod.fst) =
          entries.filter fun e => e.1 ∈ slots.map Prod.fst := by
        refine List.filter_congr fun e he => ?_
        have hne : e.1 ≠ name := by
          rintro rfl
          have hsome := lookup_isSome.2 (List.mem_map_of_mem (f := Prod.fst) he)
          rw [h] at hsome
          exact Bool.noConfusion hsome
        simp [hne]
      rw [List.map_cons, hsame]
      exact hperm.cons (name, v)
    · intro e he
      rcases List.mem_cons.1 he with rfl | he
      · exact List.mem_cons_self
      · exact List.mem_cons_of_mem _ (hextra e he)

/-- Entries that have all fields without a default have a positional form. -/
theorem exists_positional {entries : List (String × Json)} :
    ∀ {slots : List (String × Option Json)},
    (∀ name, (name, none) ∈ slots → name ∈ entries.map Prod.fst) →
      ∃ items, Positional entries slots items
  | [], _ => ⟨[], .dropped (by simp)⟩
  | (name, default?) :: slots, h => by
    obtain ⟨items, hitems⟩ := exists_positional fun name hname =>
      h name (List.mem_cons_of_mem _ hname)
    cases hlookup : entries.lookup name with
    | some v => exact ⟨v :: items, .present hlookup hitems⟩
    | none =>
      cases default? with
      | some v => exact ⟨v :: items, .absent hlookup hitems⟩
      | none =>
        have hsome := lookup_isSome.2 (h name List.mem_cons_self)
        rw [hlookup] at hsome
        exact Bool.noConfusion hsome

/-! ## Readings that agree -/

section

variable (h : shape.Orderly put finish)
include h

/-- The order of the keys does not matter. -/
theorem read_reorder {fields fields' : List (String × Json)} (hperm : fields.Perm fields') :
    (shape.read origin start put finish (room + 1) (.object fields)).toOption =
      (shape.read origin start put finish (room + 1) (.object fields')).toOption := by
  have hknown : (shape.known fields).Perm (shape.known fields') := hperm.filterMap _
  rw [read_object, read_object]
  by_cases hnodup : ((shape.known fields).map Prod.fst).Nodup
  · rw [if_pos hnodup, if_pos ((hknown.map _).nodup_iff.1 hnodup)]
    exact h.outcome_perm hknown hnodup fun e he => h.mem_known he
  · rw [if_neg hnodup, if_neg (mt (hknown.map _).nodup_iff.2 hnodup)]

omit h in
/-- Only the entries that are known matter. -/
theorem read_known {fields fields' : List (String × Json)}
    (hknown : shape.known fields = shape.known fields') :
    (shape.read origin start put finish (room + 1) (.object fields)).toOption =
      (shape.read origin start put finish (room + 1) (.object fields')).toOption := by
  rw [read_object, read_object, hknown]

omit h in
theorem read_field {key name : String} {v v' : Json} (before after : List (String × Json))
    (hkey : shape.field? key = some name)
    (hv : ∀ d, (put d name v).toOption = (put d name v').toOption) :
    (shape.read origin start put finish (room + 1)
        (.object (before ++ (key, v) :: after))).toOption =
      (shape.read origin start put finish (room + 1)
        (.object (before ++ (key, v') :: after))).toOption := by
  rw [read_object, read_object, known_append, known_append, known_cons_some hkey,
    known_cons_some hkey, outcome_congr _ _ hv]
  simp only [List.map_append, List.map_cons]

theorem read_item {name : String} {v v' : Json} (before after : List Json)
    (hname : shape.fields[before.length]? = some name)
    (hv : ∀ d, (put d name v).toOption = (put d name v').toOption) :
    (shape.read origin start put finish (room + 1) (.array (before ++ v :: after))).toOption =
      (shape.read origin start put finish (room + 1)
        (.array (before ++ v' :: after))).toOption := by
  obtain ⟨names, names', hnames, hlength⟩ : ∃ names names',
      shape.fields = names ++ name :: names' ∧ names.length = before.length := by
    obtain ⟨hlt, hget⟩ := List.getElem?_eq_some_iff.1 hname
    refine ⟨shape.fields.take before.length, shape.fields.drop (before.length + 1), ?_, ?_⟩
    · rw [← hget, List.getElem_cons_drop, List.take_append_drop]
    · rw [List.length_take]
      exact Nat.min_eq_left (Nat.le_of_lt hlt)
  have hzip : ∀ v : Json, shape.fields.zip (before ++ v :: after) =
      names.zip before ++ (name, v) :: names'.zip after := by
    intro v
    rw [hnames, List.zip_append hlength, List.zip_cons_cons]
  rw [read_array h, read_array h, hzip, hzip, outcome_congr _ _ hv]
  simp only [List.length_append, List.length_cons]

theorem read_surplus {items : List Json} (hlength : shape.fields.length < items.length) :
    (shape.read origin start put finish (room + 1) (.array items)).toOption = none := by
  rw [read_array h, if_neg (Nat.not_le.2 hlength)]

/-- An object without repeated fields and its positional form are read alike. -/
theorem read_positional {fields : List (String × Json)} {slots : List (String × Option Json)}
    {items : List Json} (hslots : slots.map Prod.fst = shape.fields)
    (hidle : ∀ slot ∈ slots, ∀ v ∈ slot.2, v ∈ items → (put start slot.1 v).toOption = some start)
    (hnodup : ((shape.known fields).map Prod.fst).Nodup)
    (hitems : Positional (shape.known fields) slots items) :
    (shape.read origin start put finish (room + 1) (.object fields)).toOption =
      (shape.read origin start put finish (room + 1) (.array items)).toOption := by
  have hfields := hslots ▸ h.nodup
  obtain ⟨extra, hperm, hextra⟩ := hitems.perm hnodup hfields
  have hall : ((shape.known fields).filter fun e => e.1 ∈ slots.map Prod.fst) =
      shape.known fields :=
    List.filter_eq_self.2 fun e he => by simpa [hslots] using h.mem_known he
  rw [hall, hslots] at hperm
  have hlength : items.length ≤ shape.fields.length := by
    simpa [← hslots] using hitems.length_le
  rw [read_object, if_pos hnodup, read_array h, if_pos hlength, h.outcome_perm hperm]
  · refine (outcome_append_of_idle fun e he => hidle _ (hextra e he) e.2 rfl ?_).symm
    exact (List.of_mem_zip (hperm.mem_iff.2 (List.mem_append_left _ he))).2
  · rw [List.zip_eq_zip_take_min, List.map_fst_zip (by simp)]
    exact h.nodup.sublist (List.take_sublist _ _)
  · exact fun e he => (List.of_mem_zip he).1

end

/-- A field is present if the record is incomplete as long as it is absent. -/
theorem mem_of_outcome {name : String} {a : α} {entries : List (String × Json)}
    (missing : δ → Prop) (hstart : missing start)
    (hput : ∀ {d d' other v}, other ∈ shape.fields → other ≠ name → put d other v = .ok d' →
      missing d → missing d')
    (hfinish : ∀ {d}, missing d → (finish .missingField d).toOption = none)
    (hfields : ∀ e ∈ entries, e.1 ∈ shape.fields)
    (h : outcome put finish start entries = some a) : name ∈ entries.map Prod.fst := by
  by_contra hname
  have hmissing : ∀ (entries : List (String × Json)) (start : δ),
      (∀ e ∈ entries, e.1 ∈ shape.fields) → name ∉ entries.map Prod.fst → missing start →
        ∀ d ∈ collect put start entries, missing d := by
    intro entries
    induction entries with
    | nil =>
      rintro start - - hstart d hd
      cases hd
      exact hstart
    | cons e entries ih =>
      intro start hfields hnames hstart d hd
      rw [List.map_cons, List.mem_cons, not_or] at hnames
      rw [← toOption_foldlM, List.foldlM_cons, toOption_bind] at hd
      obtain ⟨d', hd', hrest⟩ := Option.mem_bind_iff.1 hd
      rw [toOption_foldlM] at hrest
      have hstep : missing d' :=
        hput (hfields e List.mem_cons_self) (Ne.symm hnames.1) (toOption_eq_some.1 hd') hstart
      exact ih d' (fun e he => hfields e (List.mem_cons_of_mem _ he)) hnames.2 hstep d hrest
  obtain ⟨d, hd, hfinished⟩ := Option.bind_eq_some_iff.1 h
  rw [hfinish (hmissing entries start hfields hname hstart d hd)] at hfinished
  cases hfinished

end RecordShape

end ZigReflect.Json
