import ZigReflect.Proofs.RecordReading
import ZigReflect.Reflection.Read

/-!
# What JSON values are read as

A `Role` is what a value is read as: a scalar, a list, a record, a type node. The outline of a
record says what it has: its fields, each with its role and with the value that stands for it when
it is absent, and the other spellings of its keys. The outline of a type node depends on its tag.

Every record is read field by field as its outline says (`Record.readsRecord`), and so is the rest
of a type node when its tag is known (`readsRecord_variantReader`). What is read from a record is
then independent of its layout: the order of its keys, keys that stand for no field, its spelling,
and whether it is an object or an array (`ReadsRecord.reorder` to `ReadsRecord.positional`).
-/

namespace ZigReflect

open Json

/-- What opens no container. -/
inductive Scalar where
  | nat
  | text
  | bool
  | literal
  /-- The tag of a type node. -/
  | tag

/-- The records. -/
inductive Record where
  | flags
  | part
  | comment
  | parameter
  | source
  | declaration

/-- What a value is read as. -/
inductive Role where
  | scalar (s : Scalar)
  | option (role : Role)
  | list (role : Role)
  | record (r : Record)
  | type

/-! ## Readers -/

/-- The values of a scalar. -/
def Scalar.Value : Scalar → Type
  | .nat => Nat
  | .text => String
  | .bool => Bool
  | .literal => Literal
  | .tag => String

/-- Reads a scalar. -/
def Scalar.read (origin : Origin) : (s : Scalar) → Json → Read s.Value
  | .nat => readNat
  | .text => readString
  | .bool => readBool
  | .literal => Literal.ofJson
  | .tag => readTag origin

/-- The values of a record. -/
def Record.Value : Record → Type
  | .flags => Bool
  | .part => String
  | .comment => Comment
  | .parameter => String
  | .source => String
  | .declaration => Declaration

/-- Reads a record. -/
def Record.read (origin : Origin) (room : Nat) : (r : Record) → Json → Read r.Value
  | .flags => readFlags origin room
  | .part => readPart origin room
  | .comment => Comment.ofJson origin room
  | .parameter => readParameter origin room
  | .source => readSource origin room
  | .declaration => readDeclaration origin room

/-- The values of a role. -/
def Role.Value : Role → Type
  | .scalar s => s.Value
  | .option role => Option role.Value
  | .list role => List role.Value
  | .record r => r.Value
  | .type => TypeNode

/-- Reads a value in its role, within a number of nested containers. -/
def Role.read (origin : Origin) : (role : Role) → Nat → Json → Read role.Value
  | .scalar s, _, v => s.read origin v
  | .option role, room, v => readOption (role.read origin room) v
  | .list role, room, v => readList (role.read origin (room - 1)) room v
  | .record r, room, v => r.read origin room v
  | .type, room, v => readType origin room v

/-! ## Outlines -/

/-- A field of a record. -/
structure Field where
  name : String
  role : Role
  /-- What stands for the field when it is absent, unless it is needed. -/
  default? : Option Json := none

/-- What a record has. -/
structure Outline where
  fields : List Field
  /-- Other spellings of keys, each with the field it stands for. -/
  aliases : List (String × String) := []

namespace Outline

/-- The keys of a record. -/
def shape (o : Outline) : RecordShape :=
  { title := "", fields := o.fields.map Field.name, aliases := o.aliases }

/-- The fields with their defaults. -/
def slots (o : Outline) : List (String × Option Json) :=
  o.fields.map fun x => (x.name, x.default?)

/-- The items are the positional form of an object: each field has the value that it has in the
object, or its default, and is dropped only at the end. -/
def IsPositional (o : Outline) (fields : List (String × Json)) (items : List Json) : Prop :=
  ((o.shape.known fields).map Prod.fst).Nodup ∧
    RecordShape.Positional (o.shape.known fields) o.slots items

end Outline

/-- The outlines of the records. -/
def Record.outline : Record → Outline
  | .flags => { fields := [⟨"isOptional", .scalar .bool, some (.bool false)⟩] }
  | .part => { fields := [⟨"text", .scalar .text, some (.string "")⟩] }
  | .comment =>
    { fields := [
        ⟨"shortText", .option (.scalar .text), some .null⟩,
        ⟨"summary", .list (.record .part), some (.array [])⟩] }
  | .parameter => { fields := [⟨"name", .scalar .text, none⟩] }
  | .source => { fields := [⟨"fileName", .scalar .text, none⟩] }
  | .declaration =>
    { fields := [
        ⟨"id", .scalar .nat, none⟩,
        ⟨"name", .scalar .text, none⟩,
        ⟨"kindString", .scalar .text, some (.string "")⟩,
        ⟨"flags", .record .flags, some (.object [])⟩,
        ⟨"comment", .option (.record .comment), some .null⟩,
        ⟨"children", .list (.record .declaration), some (.array [])⟩,
        ⟨"type", .option .type, some .null⟩,
        ⟨"typeParameter", .list (.record .parameter), some (.array [])⟩,
        ⟨"target", .option (.scalar .nat), some .null⟩,
        ⟨"sources", .list (.record .source), some (.array [])⟩,
        ⟨"defaultValue", .option (.scalar .text), some .null⟩,
        ⟨"signatures", .list (.record .declaration), some (.array [])⟩]
      aliases := [("typeParameters", "typeParameter")] }

/-- The fields of a type node besides its tag. -/
def variantFields (tag : String) : List Field :=
  match tag with
  | "intrinsic" => [⟨"name", .scalar .text, none⟩]
  | "reference" =>
    [⟨"name", .scalar .text, none⟩, ⟨"typeArguments", .list .type, some (.array [])⟩]
  | "array" => [⟨"elementType", .type, none⟩]
  | "literal" => [⟨"value", .scalar .literal, none⟩]
  | "union" => [⟨"types", .list .type, none⟩]
  | "tuple" => [⟨"elements", .list .type, some (.array [])⟩]
  | "intersection" => [⟨"types", .list .type, none⟩]
  | "indexedAccess" =>
    [⟨"objectType", .option .type, some .null⟩, ⟨"indexType", .option .type, some .null⟩]
  | "query" => [⟨"queryType", .option .type, some .null⟩]
  | _ => [⟨"declaration", .record .declaration, none⟩]

/-- The tag of a type node, still unread. -/
def tagValue? : Json → Option Json
  | .object fields => fields.lookup "type"
  | .array (tag :: _) => some tag
  | _ => none

/-- The outline of a type node: its tag and then the fields that go with it. -/
def nodeOutline (tag? : Option Json) : Outline where
  fields := ⟨"type", .scalar .tag, none⟩ ::
    match tag?.bind fun v => (readTag .held v).toOption with
    | some tag => variantFields tag
    | none => []

/-- The outline of a value in its role; only records and type nodes have fields. -/
def Role.outline : Role → Json → Outline
  | .scalar _, _ => ⟨[], []⟩
  | .option role, v => role.outline v
  | .list _, _ => ⟨[], []⟩
  | .record r, _ => r.outline
  | .type, v => nodeOutline (tagValue? v)

/-! ## Records that are read as their outlines say -/

/-- For each of some fields, what its value makes of the record so far. -/
def Setters (δ : Type) : List Field → Type
  | [] => Unit
  | x :: fields => (x.role.Value → δ → δ) × Setters δ fields

namespace Setters

variable {δ : Type}

/-- All fields are set as the predicate says. -/
def All (P : (x : Field) → (x.role.Value → δ → δ) → Prop) :
    {fields : List Field} → Setters δ fields → Prop
  | [], _ => True
  | x :: _, (set, rest) => P x set ∧ rest.All P

/-- The order in which fields are set does not matter. -/
def Commute : {fields : List Field} → Setters δ fields → Prop
  | [], _ => True
  | _ :: _, (set, rest) => rest.All (fun _ set' => ∀ a b d, set' b (set a d) = set a (set' b d)) ∧
      rest.Commute

theorem All.exists {P : (x : Field) → (x.role.Value → δ → δ) → Prop} {x : Field} :
    ∀ {fields : List Field} {setters : Setters δ fields}, setters.All P → x ∈ fields →
      ∃ set, P x set
  | [], _, _, hx => by simp at hx
  | y :: fields, (set, rest), h, hx => by
    rcases List.mem_cons.1 hx with rfl | hx
    · exact ⟨set, h.1⟩
    · exact All.exists h.2 hx

theorem All.and {P Q : (x : Field) → (x.role.Value → δ → δ) → Prop} :
    ∀ {fields : List Field} {setters : Setters δ fields}, setters.All P → setters.All Q →
      setters.All fun x set => P x set ∧ Q x set
  | [], _, _, _ => trivial
  | _ :: _, (_, _), h, h' => ⟨⟨h.1, h'.1⟩, All.and h.2 h'.2⟩

/-- Any two different fields have setters with some property that commute. -/
theorem Commute.exists {P : (x : Field) → (x.role.Value → δ → δ) → Prop} {x y : Field} :
    ∀ {fields : List Field} {setters : Setters δ fields}, setters.Commute → setters.All P →
      x ∈ fields → y ∈ fields → x.name ≠ y.name →
        ∃ set set', P x set ∧ P y set' ∧ ∀ a b d, set' b (set a d) = set a (set' b d)
  | [], _, _, _, hx, _, _ => by simp at hx
  | _ :: fields, (set, rest), hcommute, h, hx, hy, hne => by
    rcases List.mem_cons.1 hx with rfl | hx' <;> rcases List.mem_cons.1 hy with rfl | hy'
    · exact absurd rfl hne
    · obtain ⟨set', hset', hswap⟩ := All.exists (h.2.and hcommute.1) hy'
      exact ⟨set, set', h.1, hset', hswap⟩
    · obtain ⟨set', hset', hswap⟩ := All.exists (h.2.and hcommute.1) hx'
      exact ⟨set', set, hset', h.1, fun a b d => (hswap b a d).symm⟩
    · exact Commute.exists hcommute.2 h.2 hx' hy' hne

end Setters

/-- The reader reads the fields of objects and arrays independently of each other, each in its
role. A default that is written out where it fits leaves the record as it starts, and nothing is
read without the fields that have no default. -/
inductive ReadsRecord {α : Type} (o : Outline) (origin : Origin) (room : Nat)
    (reader : Json → Read α) : Prop
  | intro {δ : Type} (title : String) (start : δ) (put : δ → String → Json → Read δ)
    (finish : (String → ReadError) → δ → Read α)
    (reads : ∀ v, reader v =
      RecordShape.read { o.shape with title := title } origin start put finish (room + 1) v)
    (orderly : RecordShape.Orderly { o.shape with title := title } put finish)
    (agree : ∀ x ∈ o.fields, ∀ {v v'},
      (x.role.read origin room v).toOption = (x.role.read origin room v').toOption →
        ∀ d, (put d x.name v).toOption = (put d x.name v').toOption)
    (idle : ∀ x ∈ o.fields, ∀ v ∈ x.default?, v.fits room →
      (put start x.name v).toOption = some start)
    (needed : ∀ x ∈ o.fields, x.default? = none → ∀ {entries a},
      (∀ e ∈ entries, e.1 ∈ o.shape.fields) →
        RecordShape.outcome put finish start entries = some a → x.name ∈ entries.map Prod.fst)

variable {origin : Origin} {room : Nat}

/-- A record is read as its outline says if its fields are set to what is read in their roles. -/
theorem readsRecord_of_setters {α δ : Type} {o : Outline} {reader : Json → Read α} (title : String)
    (start : δ) (put : δ → String → Json → Read δ) (finish : (String → ReadError) → δ → Read α)
    (setters : Setters δ o.fields)
    (reads : ∀ v, reader v =
      RecordShape.read { o.shape with title := title } origin start put finish (room + 1) v)
    (names : o.shape.fields.Nodup) (aliases : ∀ entry ∈ o.aliases, entry.2 ∈ o.shape.fields)
    (sets : setters.All fun x set => ∀ d v,
      (put d x.name v).toOption = (x.role.read origin room v).toOption.map fun a => set a d)
    (commute : setters.Commute)
    (absent : ∀ absent d, (finish absent d).toOption = (finish .missingField d).toOption)
    (idle : ∀ x ∈ o.fields, ∀ v ∈ x.default?, v.fits room →
      (put start x.name v).toOption = some start)
    (needed : ∀ x ∈ o.fields, x.default? = none → ∃ missing : δ → Prop, missing start ∧
      (setters.All fun y set => y.name ≠ x.name → ∀ a d, missing d → missing (set a d)) ∧
      ∀ d, missing d → (finish .missingField d).toOption = none) :
    ReadsRecord o origin room reader := by
  refine .intro title start put finish reads ⟨names, aliases, ?_, absent⟩ ?_ idle ?_
  · intro name hname name' hname' hne d v v'
    obtain ⟨x, hx, rfl⟩ := List.mem_map.1 hname
    obtain ⟨y, hy, rfl⟩ := List.mem_map.1 hname'
    obtain ⟨set, set', hset, hset', hswap⟩ := commute.exists sets hx hy hne
    simp only [hset, hset']
    cases (x.role.read origin room v).toOption <;> cases (y.role.read origin room v').toOption <;>
      simp [hswap]
  · intro x hx v v' hv d
    obtain ⟨set, hset⟩ := sets.exists hx
    rw [hset, hset, hv]
  · intro x hx hdefault entries a hfields h
    obtain ⟨missing, hstart, hkept, hfinish⟩ := needed x hx hdefault
    refine RecordShape.mem_of_outcome missing hstart ?_ (hfinish _) hfields h
    intro d d' other v hother hne hput hmissing
    obtain ⟨y, hy, rfl⟩ := List.mem_map.1 hother
    obtain ⟨set, hset, hkeeps⟩ := (sets.and hkept).exists hy
    rw [← toOption_eq_some, hset] at hput
    obtain ⟨a, -, rfl⟩ := Option.map_eq_some_iff.1 hput
    exact hkeeps hne a d hmissing

/-- A value that is read and set. -/
theorem toOption_set {α δ : Type} (x : Read α) (set : α → δ) :
    (do return set (← x) : Read δ).toOption = x.toOption.map set := by
  cases x <;> rfl

/-- The empty list is read where a list can be opened. -/
theorem toOption_emptyList {α : Type} (read : Json → Read α) (h : (Json.array []).fits room) :
    (readList read room (.array [])).toOption = some [] := by
  cases room with
  | zero => simp [Json.fits] at h
  | succ room => rfl

/-- No flag is set by flags without fields. -/
theorem toOption_emptyFlags (h : (Json.object []).fits room) :
    (readFlags origin room (.object [])).toOption = some false := by
  cases room with
  | zero => simp [Json.fits] at h
  | succ room => rfl

/-- The record has one field, which is needed. -/
theorem readsRecord_sole {β : Type} {x : Field} {reader : Json → Read β} (title : String)
    (finish : (String → ReadError) → Option x.role.Value → Read β) (build : x.role.Value → β)
    (hfinish : ∀ absent a?, (finish absent a?).toOption = a?.map build)
    (hdefault : x.default? = none)
    (reads : ∀ v, reader v = RecordShape.read ⟨title, [x.name], []⟩ origin none
      (fun _ _ v => some <$> x.role.read origin room v) finish (room + 1) v) :
    ReadsRecord ⟨[x], []⟩ origin room reader := by
  refine readsRecord_of_setters title none _ finish (fun a _ => some a, ()) reads
    (List.nodup_singleton _) (by simp)
    ⟨fun d v => toOption_map _ _, trivial⟩ ⟨trivial, trivial⟩ (by simp [hfinish]) ?_ ?_
  · intro y hy v hv
    obtain rfl := List.mem_singleton.1 hy
    simp [hdefault] at hv
  · intro y hy _
    obtain rfl := List.mem_singleton.1 hy
    exact ⟨(· = none), rfl, ⟨fun hne => absurd rfl hne, trivial⟩, fun d hd => by simp [hfinish, hd]⟩

/-- The record has one field, which has a default. -/
theorem readsRecord_sole_default {β : Type} {x : Field} {reader : Json → Read β} (title : String)
    (start : x.role.Value) (build : x.role.Value → β)
    (hstart : ∀ v ∈ x.default?, v.fits room → (x.role.read origin room v).toOption = some start)
    (hdefault : x.default? ≠ none)
    (reads : ∀ v, reader v = RecordShape.read ⟨title, [x.name], []⟩ origin start
      (fun _ _ v => x.role.read origin room v) (fun _ a => .ok (build a)) (room + 1) v) :
    ReadsRecord ⟨[x], []⟩ origin room reader := by
  refine readsRecord_of_setters title start _ _ (fun a _ => a, ()) reads
    (List.nodup_singleton _) (by simp)
    ⟨fun d v => Option.map_id_apply.symm, trivial⟩ ⟨trivial, trivial⟩ (fun absent d => rfl) ?_ ?_
  · intro y hy
    obtain rfl := List.mem_singleton.1 hy
    exact hstart
  · intro y hy hneeded
    obtain rfl := List.mem_singleton.1 hy
    exact absurd hneeded hdefault

theorem readsRecord_flags : ReadsRecord Record.flags.outline origin room
    (readFlags origin (room + 1)) := by
  refine readsRecord_sole_default "struct Flags" false id ?_ (by simp) fun v => rfl
  rintro v ⟨⟩ -
  rfl

theorem readsRecord_part : ReadsRecord Record.part.outline origin room
    (readPart origin (room + 1)) := by
  refine readsRecord_sole_default "struct CommentPart" "" id ?_ (by simp) fun v => rfl
  rintro v ⟨⟩ -
  rfl

/-- A record of one text. -/
theorem readsRecord_soleText {title name : String} :
    ReadsRecord ⟨[⟨name, .scalar .text, none⟩], []⟩ origin room
      (readSoleText ⟨title, [name], []⟩ name origin (room + 1)) :=
  readsRecord_sole title (fun absent s => need absent name s) id
    (fun absent a? => by cases a? <;> rfl) rfl fun v => rfl

theorem readsRecord_comment : ReadsRecord Record.comment.outline origin room
    (Comment.ofJson origin (room + 1)) := by
  refine readsRecord_of_setters "struct Comment" ({} : Comment) _ _
    (fun a c => { c with shortText := a }, fun a c => { c with summary := a }, ())
    (fun v => rfl) (by decide) (by decide)
    ⟨fun d v => toOption_set _ _, fun d v => toOption_set _ _, trivial⟩
    ⟨⟨fun a b d => rfl, trivial⟩, trivial, trivial⟩ (fun absent d => rfl) ?_ ?_
  · intro x hx v hv hfits
    simp only [Record.outline, List.mem_cons, List.not_mem_nil, or_false] at hx
    rcases hx with rfl | rfl <;> cases hv
    · rfl
    · exact (toOption_set _ _).trans (congrArg _ (toOption_emptyList _ hfits))
  · simp [Record.outline]

theorem readDeclarations_eq (v : Json) : readDeclarations origin room v =
    readList (readDeclaration origin (room - 1)) room v := by
  cases room with
  | zero => rw [readDeclarations]; cases v <;> rfl
  | succ room => rw [readDeclarations]; rfl

theorem readTypes_eq (v : Json) :
    readTypes room v = readList (readType .held (room - 1)) room v := by
  cases room with
  | zero => rw [readTypes]; cases v <;> rfl
  | succ room => rw [readTypes]; rfl

theorem readsRecord_declaration : ReadsRecord Record.declaration.outline origin room
    (readDeclaration origin (room + 1)) := by
  refine readsRecord_of_setters "struct Declaration" ({} : DeclarationDraft) _ _
    (fun a d => { d with id := some a }, fun a d => { d with name := some a },
      fun a d => { d with rest.kind := Kind.ofTitle a }, fun a d => { d with rest.isOptional := a },
      fun a d => { d with rest.comment := a }, fun a d => { d with rest.children := a },
      fun a d => { d with rest.type := a }, fun a d => { d with rest.typeParameters := a },
      fun a d => { d with rest.target := a }, fun a d => { d with rest.sources := a },
      fun a d => { d with rest.defaultValue := a }, fun a d => { d with rest.signatures := a }, ())
    (fun v => by rw [readDeclaration]; simp only [readDeclarations_eq]; rfl)
    (by decide) (by decide) ?_ ?_ (fun absent d => ?_) ?_ ?_
  · exact ⟨fun d v => toOption_set _ _, fun d v => toOption_set _ _, fun d v => toOption_set _ _,
      fun d v => toOption_set _ _, fun d v => toOption_set _ _, fun d v => toOption_set _ _,
      fun d v => toOption_set _ _, fun d v => toOption_set _ _, fun d v => toOption_set _ _,
      fun d v => toOption_set _ _, fun d v => toOption_set _ _, fun d v => toOption_set _ _,
      trivial⟩
  · simp [Setters.Commute, Setters.All, Record.outline]
  · simp only [toOption_bind, toOption_need]
  · intro x hx v hv hfits
    simp only [Record.outline, List.mem_cons, List.not_mem_nil, or_false] at hx
    rcases hx with rfl | rfl | rfl | rfl | rfl | rfl | rfl | rfl | rfl | rfl | rfl | rfl <;>
      cases hv
    any_goals rfl
    · exact (toOption_set _ _).trans (congrArg _ (toOption_emptyFlags hfits))
    all_goals exact (toOption_set _ _).trans (congrArg _ (toOption_emptyList _ hfits))
  · intro x hx hneeded
    simp only [Record.outline, List.mem_cons, List.not_mem_nil, or_false] at hx
    rcases hx with rfl | rfl | rfl | rfl | rfl | rfl | rfl | rfl | rfl | rfl | rfl | rfl <;>
      cases hneeded
    · refine ⟨fun d => d.id = none, rfl, ?_, ?_⟩
      · simp [Setters.All, Record.outline]
      · intro d hd
        simp [hd]
    · refine ⟨fun d => d.name = none, rfl, ?_, ?_⟩
      · simp [Setters.All, Record.outline]
      · intro d hd
        simp [hd]

/-- Every record is read as its outline says. -/
theorem Record.readsRecord (r : Record) :
    ReadsRecord r.outline origin room (r.read origin (room + 1)) := by
  cases r with
  | flags => exact readsRecord_flags
  | part => exact readsRecord_part
  | comment => exact readsRecord_comment
  | parameter => exact readsRecord_soleText
  | source => exact readsRecord_soleText
  | declaration => exact readsRecord_declaration

/-! ## What does not matter in a record -/

namespace ReadsRecord

variable {α : Type} {o : Outline} {reader : Json → Read α} (h : ReadsRecord o origin room reader)
include h

theorem reorder {fields fields' : List (String × Json)} (hperm : fields.Perm fields') :
    (reader (.object fields)).toOption = (reader (.object fields')).toOption := by
  obtain ⟨title, start, put, finish, reads, orderly, -, -, -⟩ := h
  rw [reads, reads]
  exact RecordShape.read_reorder orderly hperm

theorem known {fields fields' : List (String × Json)}
    (hknown : o.shape.known fields = o.shape.known fields') :
    (reader (.object fields)).toOption = (reader (.object fields')).toOption := by
  obtain ⟨title, start, put, finish, reads, -, -, -, -⟩ := h
  rw [reads, reads]
  exact RecordShape.read_known hknown

theorem field {x : Field} {key : String} {v v' : Json} (before after : List (String × Json))
    (hx : x ∈ o.fields) (hkey : o.shape.field? key = some x.name)
    (hv : (x.role.read origin room v).toOption = (x.role.read origin room v').toOption) :
    (reader (.object (before ++ (key, v) :: after))).toOption =
      (reader (.object (before ++ (key, v') :: after))).toOption := by
  obtain ⟨title, start, put, finish, reads, -, agree, -, -⟩ := h
  rw [reads, reads]
  exact RecordShape.read_field before after hkey (agree x hx hv)

theorem item {x : Field} {v v' : Json} (before after : List Json)
    (hx : o.fields[before.length]? = some x)
    (hv : (x.role.read origin room v).toOption = (x.role.read origin room v').toOption) :
    (reader (.array (before ++ v :: after))).toOption =
      (reader (.array (before ++ v' :: after))).toOption := by
  obtain ⟨title, start, put, finish, reads, orderly, agree, -, -⟩ := h
  rw [reads, reads]
  refine RecordShape.read_item orderly before after ?_ (agree x (List.mem_of_getElem? hx) hv)
  simp [Outline.shape, hx]

theorem surplus {items : List Json} (hlength : o.fields.length < items.length) :
    (reader (.array items)).toOption = none := by
  obtain ⟨title, start, put, finish, reads, orderly, -, -, -⟩ := h
  rw [reads]
  exact RecordShape.read_surplus orderly (by simpa [Outline.shape] using hlength)

theorem positional {fields : List (String × Json)} {items : List Json}
    (hitems : o.IsPositional fields items) (hfits : ∀ v ∈ items, v.fits room) :
    (reader (.object fields)).toOption = (reader (.array items)).toOption := by
  obtain ⟨title, start, put, finish, reads, orderly, -, idle, -⟩ := h
  rw [reads, reads]
  refine RecordShape.read_positional orderly ?_ ?_ hitems.1 hitems.2
  · simp [Outline.slots, Outline.shape]
  · intro slot hslot v hv hmem
    obtain ⟨x, hx, rfl⟩ := List.mem_map.1 hslot
    exact idle x hx v hv (hfits v hmem)

/-- An object that is read has a positional form. -/
theorem exists_positional {fields : List (String × Json)} {a : α}
    (ha : reader (.object fields) = .ok a) : ∃ items, o.IsPositional fields items := by
  obtain ⟨title, start, put, finish, reads, orderly, -, -, needed⟩ := h
  rw [reads, ← toOption_eq_some, RecordShape.read_object] at ha
  split at ha
  · next hnodup =>
    obtain ⟨items, hitems⟩ := RecordShape.exists_positional fun name hname => by
      obtain ⟨x, hx, heq⟩ := List.mem_map.1 (show (name, none) ∈ o.slots from hname)
      obtain ⟨rfl, hdefault⟩ := Prod.mk.inj heq
      exact needed x hx hdefault (fun e he => orderly.mem_known he) ha
    exact ⟨items, hnodup, hitems⟩
  · cases ha

end ReadsRecord

/-! ## Type nodes -/

/-- A type node of one field, which is needed. -/
theorem readsRecord_readSole {x : Field} {title : String} {build : x.role.Value → TypeNode}
    {read : Json → Read x.role.Value} (hread : ∀ v, read v = x.role.read .held room v)
    (hdefault : x.default? = none) :
    ReadsRecord ⟨[x], []⟩ .held room (readSole title x.name build read (room + 1)) :=
  readsRecord_sole _ (fun absent a => build <$> need absent x.name a) build
    (fun absent a? => by simp) hdefault fun v => by rw [← funext hread]; rfl

/-- How the rest of a type node that was held back is read, inside the room. -/
def variantReader (room : Nat) : String → Json → Read TypeNode :=
  readVariant (readType .held room) (readTypes room) (readDeclaration .held room) (room + 1)

/-- Inside the room, a type node is read by its tag. -/
theorem readType_of_readTagged {tag : String} {v body : Json} (hfits : v.fits (room + 1) = true)
    (h : readTagged origin v = .ok (tag, body)) :
    readType origin (room + 1) v = variantReader room tag body := by
  rw [readType, if_neg (by simp [hfits]), h, ok_bind]
  rfl

/-- The rest of a type node is read from the fields that go with its tag. -/
theorem readsRecord_variantReader {tag : String} (htag : typeTags.contains tag = true)
    (room : Nat) : ReadsRecord ⟨variantFields tag, []⟩ .held room (variantReader room tag) := by
  simp only [typeTags, List.contains_eq_mem, List.mem_cons, List.not_mem_nil, or_false,
    decide_eq_true_eq] at htag
  rcases htag with rfl | rfl | rfl | rfl | rfl | rfl | rfl | rfl | rfl | rfl
  · exact readsRecord_readSole (fun v => rfl) rfl
  · refine readsRecord_of_setters (variantTitle "Reference") ({} : ReferenceDraft) _ _
      (fun a d => { d with name := some a }, fun a d => { d with arguments := a }, ())
      (fun v => by simp only [variantReader, readVariant, readTypes_eq]; rfl) (by decide) (by simp)
      ⟨fun d v => toOption_set _ _, fun d v => toOption_set _ _, trivial⟩
      ⟨⟨fun a b d => rfl, trivial⟩, trivial, trivial⟩
      (fun absent d => by simp only [toOption_bind, toOption_need]) ?_ ?_
    · intro x hx v hv hfits
      simp only [variantFields, List.mem_cons, List.not_mem_nil, or_false] at hx
      rcases hx with rfl | rfl <;> cases hv
      exact (toOption_set _ _).trans (congrArg _ (toOption_emptyList _ hfits))
    · intro x hx hneeded
      simp only [variantFields, List.mem_cons, List.not_mem_nil, or_false] at hx
      rcases hx with rfl | rfl <;> cases hneeded
      exact ⟨fun d => d.name = none, rfl,
        ⟨fun hne => absurd rfl hne, fun _ a d hd => hd, trivial⟩, fun d hd => by simp [hd]⟩
  · exact readsRecord_readSole (fun v => rfl) rfl
  · exact readsRecord_readSole (fun v => rfl) rfl
  · exact readsRecord_readSole readTypes_eq rfl
  · refine readsRecord_sole_default (variantTitle "Tuple") [] .tuple ?_ (by simp) fun v => ?_
    · rintro v ⟨⟩ hfits
      exact toOption_emptyList _ hfits
    · simp only [variantReader, readVariant, readTypes_eq]
      rfl
  · exact readsRecord_readSole readTypes_eq rfl
  · refine readsRecord_of_setters (variantTitle "IndexedAccess")
      ((none, none) : Option TypeNode × Option TypeNode) _ _
      (fun a d => (a, d.2), fun a d => (d.1, a), ())
      (fun v => by simp only [variantReader, readVariant]; rfl) (by decide) (by simp)
      ⟨fun d v => toOption_set _ _, fun d v => toOption_set _ _, trivial⟩
      ⟨⟨fun a b d => rfl, trivial⟩, trivial, trivial⟩ (fun absent d => by rfl) ?_ ?_
    · intro x hx v hv hfits
      simp only [variantFields, List.mem_cons, List.not_mem_nil, or_false] at hx
      rcases hx with rfl | rfl <;> cases hv <;> rfl
    · simp [variantFields]
  · refine readsRecord_sole_default (variantTitle "Query") none .query ?_ (by simp) fun v => rfl
    rintro v ⟨⟩ -
    rfl
  · exact readsRecord_readSole (fun v => rfl) rfl

end ZigReflect
