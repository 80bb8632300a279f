import ZigReflect.Proofs.SettingsLayers
import ZigReflect.Proofs.WrittenTables
import ZigReflect.Settings.Save

/-!
# Saved settings

Settings that have been saved to a file are loaded from there again
(`Machine.saved_settings_load_back`). The text of saved settings is read as the table of their
values (`Settings.parse?_save`), every one of which is read as the setting that it was written for
(`Settings.Field.read_of_written?`), and the layer of this table, in whatever order its fields come,
sets all settings but a preamble that there is none of (`Settings.Field.valueIn?_saved`). Nothing is
asked of what the lower layers say of the other settings.

A file is looked at for settings only when its name has an ending, which `.toml` alone has not, and
a variable sets a setting over every file, in whatever case its name is
(`Machine.saved_settings_not_loaded`).
-/

namespace ZigReflect

open Toml

namespace Settings

namespace Field

/-! ## Layers of the right shape -/

/-- What an assignment says of the setting has the right shape: it leaves the section a table, and
sets the setting to a value that it can have. -/
structure Fits (f : Field) (a : Assignment) : Prop where
  undisturbed : ¬f.IsDisturbedBy a
  readable : ∀ path, a.path = f.steps ++ path → path = [] ∧ ∃ value, f.read a.value = .ok value

theorem isTable_of_read {f : Field} {v : Toml} {value : f.Value} (h : f.read v = .ok value) :
    v.isTable = false := by
  by_contra htable
  exact f.isUnreadable_of_isTable (by simpa using htable) value h

/-- An assignment of the right shape sets the setting or leaves it. -/
theorem lookup?_apply {f : Field} {a : Assignment}
    (hpath : ∃ name path, a.path = .key name :: path) (h : f.Fits a) (root : Toml) :
    f.lookup? (a.apply root) = (f.setBy? a).or (f.lookup? root) := by
  rcases section_of_quiet hpath h.undisturbed root with ⟨hset, hsection⟩ | ⟨key, path, hinside⟩
  · rw [hset, Option.none_or, lookup?, hsection]
    rfl
  obtain ⟨path', v⟩ := a
  obtain rfl : path' = .key f.sectionKey :: .key key :: path := hinside
  have hsection := fieldOrTable_assign_deeper v f.sectionKey path root (.key key)
  rw [lookup?, Assignment.apply, hsection]
  by_cases hkey : f.key = key
  · subst hkey
    obtain ⟨rfl, value, hvalue⟩ := h.readable path rfl
    have htable := isTable_of_read hvalue
    rw [lookup_assign_value _ _ _ htable, setBy?, if_pos ⟨rfl, htable⟩, Option.some_or]
  · have hset : f.setBy? ⟨.key f.sectionKey :: .key key :: path, v⟩ = none := by
      simp [setBy?, steps, Ne.symm hkey]
    rw [lookup_assign_of_ne _ _ _ _ hkey, fields_getD_nothing, hset, Option.none_or]
    rfl

/-- Where every step sets what is looked up or leaves it, the last one that sets it decides. -/
theorem lookup_foldl {α β γ : Type} {look : β → Option γ} {step : β → α → β}
    {value? : α → Option γ} : ∀ {xs : List α},
      (∀ a ∈ xs, ∀ b, look (step b a) = (value? a).or (look b)) → ∀ b,
        look (xs.foldl step b) = (xs.reverse.findSome? value?).or (look b)
  | [], _, b => rfl
  | a :: xs, h, b => by
    rw [List.forall_mem_cons] at h
    rw [List.foldl_cons, lookup_foldl h.2, h.1, List.reverse_cons, List.findSome?_append,
      Option.or_assoc]
    simp

/-- A layer of the right shape sets the setting or leaves it. -/
theorem lookup?_addLayer {f : Field} {layer : List (String × Toml)}
    (h : ∀ a ∈ assignments layer, f.Fits a) (below : Toml) :
    f.lookup? (addLayer below layer) = (f.valueIn? layer).or (f.lookup? below) := by
  rw [addLayer_eq_foldl]
  exact lookup_foldl
    (fun a ha root => lookup?_apply (path_head_of_mem_assignments ha) (h a ha) root) below

theorem lookup?_layers {f : Field} {layers : List (List (String × Toml))}
    (h : ∀ layer ∈ layers, ∀ a ∈ assignments layer, f.Fits a) :
    f.lookup? (layers.foldl addLayer (.table [])) = f.highest? layers := by
  have hempty : f.lookup? (.table []) = none := rfl
  rw [lookup_foldl (fun layer hlayer below => lookup?_addLayer (h layer hlayer) below), hempty,
    Option.or_none, highest?]

/-- The highest value of a setting can be read when all layers have the right shape. -/
theorem readSetting_highest? {f : Field} {layers : List (List (String × Toml))}
    (h : ∀ layer ∈ layers, ∀ a ∈ assignments layer, f.Fits a) :
    ∃ value, readSetting f.read (f.get {}) (f.highest? layers) = .ok value := by
  cases hhighest : f.highest? layers with
  | none => exact ⟨_, rfl⟩
  | some v =>
    obtain ⟨layer, hlayer, hvalue⟩ := List.exists_of_findSome?_eq_some hhighest
    obtain ⟨a, ha, hset⟩ := List.exists_of_findSome?_eq_some hvalue
    rw [List.mem_reverse] at hlayer ha
    unfold setBy? at hset
    split at hset
    · next hsets =>
      obtain rfl := Option.some.inj hset
      exact ((h layer hlayer a ha).readable [] (by simpa using hsets.1)).2
    · cases hset

/-! ## Settings as they are written -/

/-- The text that the setting is written as and the value that it spells, unless the setting is
left out. -/
def written? : (f : Field) → f.Value → Option (String × Toml)
  | .enabled => fun b => some (boolText b, .bool b)
  | .preamble => Option.map fun s => (stringText s, .string s)
  | .args | .excludePatterns | .excludedSources =>
    fun items => some (listText items, .array (items.map .string))
  | .types | .protocol | .path | .command | .requestSuffix | .requestUnion
  | .notificationSuffix | .notificationUnion => fun s => some (stringText s, .string s)

theorem spells_of_written? {f : Field} {x : f.Value} {text : String} {v : Toml}
    (h : f.written? x = some (text, v)) : Spells text v := by
  cases f with
  | preamble =>
    obtain ⟨s, -, heq⟩ := Option.map_eq_some_iff.1 h
    cases heq
    exact spells_string s
  | enabled =>
    cases h
    exact spells_bool _
  | args | excludePatterns | excludedSources =>
    cases h
    exact spells_list _
  | types | protocol | path | command | requestSuffix | requestUnion | notificationSuffix
  | notificationUnion =>
    cases h
    exact spells_string _

theorem toTexts_strings (items : List String) :
    toTexts (.array (items.map .string)) = .ok items := by
  induction items with
  | nil => rfl
  | cons s items ih =>
    rw [toTexts] at ih ⊢
    rw [List.map_cons, List.mapM_cons, ih]
    rfl

/-- What a setting is written as is read as the setting. -/
theorem read_of_written? {f : Field} {x : f.Value} {text : String} {v : Toml}
    (h : f.written? x = some (text, v)) : f.read v = .ok x := by
  cases f with
  | preamble =>
    obtain ⟨s, rfl, heq⟩ := Option.map_eq_some_iff.1 h
    cases heq
    rfl
  | enabled =>
    cases h
    rfl
  | args | excludePatterns | excludedSources =>
    cases h
    exact toTexts_strings _
  | types | protocol | path | command | requestSuffix | requestUnion | notificationSuffix
  | notificationUnion =>
    cases h
    rfl

/-- Only a preamble can be left out. -/
theorem written?_of_ne {f : Field} (h : f ≠ .preamble) (x : f.Value) :
    ∃ text v, f.written? x = some (text, v) := by
  cases f with
  | preamble => exact absurd rfl h
  | _ => exact ⟨_, _, rfl⟩

theorem isBareKey_key (f : Field) : IsBareKey f.key := by
  cases f <;> decide

/-- The settings of each section, in the order they are written in. -/
def layout : List (String × List Field) :=
  [("input", [.types, .protocol]), ("output", [.path, .preamble]),
    ("formatter", [.enabled, .command, .args]),
    ("filter", [.excludePatterns, .excludedSources]),
    ("summary", [.requestSuffix, .requestUnion, .notificationSuffix, .notificationUnion])]

theorem exists_mem_layout (f : Field) : ∃ x ∈ layout, f ∈ x.2 := by
  cases f <;> decide

end Field

variable (s : Settings)

/-- Settings of one section as they are written. -/
def entries (fields : List Field) : List Toml.Entry :=
  fields.filterMap fun f => (f.written? (f.get s)).map fun x => ⟨f.key, x.1, x.2⟩

/-- The sections as they are written. -/
def sections : List Toml.Section :=
  Field.layout.map fun x => ⟨x.1, s.entries x.2⟩

/-- The table that saved settings spell. -/
def table : List (String × Toml) :=
  s.sections.map fun x => (x.name, .table (x.entries.map Toml.Entry.field))

theorem save_eq_sections : s.save = "\n".intercalate (s.sections.map Toml.Section.text) := by
  obtain ⟨input, ⟨path, preamble⟩, formatter, filter, summary⟩ := s
  cases preamble <;> rfl

theorem keys_entries_sublist (fields : List Field) :
    ((s.entries fields).map Toml.Entry.key).Sublist (fields.map Field.key) := by
  induction fields with
  | nil => exact List.Sublist.slnil
  | cons f fields ih =>
    rw [entries, List.filterMap_cons, List.map_cons]
    cases f.written? (f.get s) with
    | none => exact ih.cons _
    | some x => exact ih.cons_cons _

theorem isWritten_sections : ∀ x ∈ s.sections, x.IsWritten := by
  rintro _ hx
  obtain ⟨⟨name, fields⟩, hmem, rfl⟩ := List.mem_map.1 hx
  have hname : ∀ x ∈ Field.layout, IsBareKey x.1 := by decide
  have hkeys : ∀ x ∈ Field.layout, (x.2.map Field.key).Nodup := by decide
  refine ⟨hname _ hmem, (s.keys_entries_sublist fields).nodup (hkeys _ hmem), fun e he => ?_⟩
  obtain ⟨f, -, hf⟩ := List.mem_filterMap.1 he
  obtain ⟨⟨text, v⟩, hwritten, rfl⟩ := Option.map_eq_some_iff.1 hf
  exact ⟨f.isBareKey_key, Field.spells_of_written? hwritten⟩

/-- The text of saved settings is read as the table of their values. -/
theorem parse?_save : parse? s.save = some s.table := by
  have hnames : (s.sections.map (·.name)).Nodup := by
    have hlayout : (Field.layout.map (·.1)).Nodup := by decide
    rwa [sections, List.map_map]
  rw [save_eq_sections, parse?_sections hnames s.isWritten_sections]
  rfl

theorem mem_ofEntry_section {x : String × List Field} (hx : x ∈ Field.layout) {a : Assignment} :
    a ∈ Assignment.ofEntry x.1 (.table ((s.entries x.2).map Toml.Entry.field)) ↔
      ∃ f ∈ x.2, ∃ text v, Field.written? f (f.get s) = some (text, v) ∧ a = ⟨f.steps, v⟩ := by
  have hpath : ∀ x ∈ Field.layout, keyPath (Text.lower x.1) = [.key x.1] := by decide +kernel
  have hsteps : ∀ x ∈ Field.layout, ∀ f ∈ x.2, [.key x.1, .key (Text.lower f.key)] = f.steps := by
    decide +kernel
  have hne : (s.entries x.2).map Toml.Entry.field ≠ [] := by
    have hfirst : ∀ x ∈ Field.layout, ∃ f ∈ x.2, f ≠ .preamble := by decide
    obtain ⟨f, hf, hpreamble⟩ := hfirst x hx
    obtain ⟨text, v, hwritten⟩ := f.written?_of_ne hpreamble (f.get s)
    have hmem : ⟨f.key, text, v⟩ ∈ s.entries x.2 :=
      List.mem_filterMap.2 ⟨f, hf, by rw [hwritten, Option.map_some]⟩
    exact List.ne_nil_of_mem (List.mem_map_of_mem hmem)
  rw [Assignment.ofEntry_of_table (hpath x hx) hne, List.map_map, List.mem_map]
  constructor
  · rintro ⟨e, he, rfl⟩
    obtain ⟨f, hf, heq⟩ := List.mem_filterMap.1 he
    obtain ⟨⟨text, v⟩, hwritten, rfl⟩ := Option.map_eq_some_iff.1 heq
    exact ⟨f, hf, text, v, hwritten, congrArg (Assignment.mk · v) (hsteps x hx f hf)⟩
  · rintro ⟨f, hf, text, v, hwritten, rfl⟩
    exact ⟨⟨f.key, text, v⟩, List.mem_filterMap.2 ⟨f, hf, by rw [hwritten, Option.map_some]⟩,
      congrArg (Assignment.mk · v) (hsteps x hx f hf)⟩

/-- The layer of saved settings assigns their values to them, and nothing else. -/
theorem mem_assignments_table {a : Assignment} : a ∈ assignments s.table ↔
    ∃ f text v, Field.written? f (f.get s) = some (text, v) ∧ a = ⟨f.steps, v⟩ := by
  rw [assignments, List.mem_flatMap]
  constructor
  · rintro ⟨_, hfield, ha⟩
    obtain ⟨_, hsection, rfl⟩ := List.mem_map.1 hfield
    obtain ⟨x, hx, rfl⟩ := List.mem_map.1 hsection
    obtain ⟨f, -, hf⟩ := (s.mem_ofEntry_section hx).1 ha
    exact ⟨f, hf⟩
  · rintro ⟨f, hf⟩
    obtain ⟨x, hx, hmem⟩ := f.exists_mem_layout
    exact ⟨_, List.mem_map_of_mem (List.mem_map_of_mem hx),
      (s.mem_ofEntry_section hx).2 ⟨f, hmem, hf⟩⟩

section

variable {s} {layer : List (String × Toml)} (h : Reordered (.table s.table) (.table layer))
include h

/-- In any order the layer of saved settings makes the same assignments. -/
theorem mem_assignments_saved {a : Assignment} : a ∈ assignments layer ↔
    ∃ f text v, Field.written? f (f.get s) = some (text, v) ∧ a = ⟨f.steps, v⟩ := by
  constructor
  · intro ha
    obtain ⟨b, hb, hpath, hvalue⟩ := h.exists_mem_assignments ha
    obtain ⟨f, text, v, hwritten, rfl⟩ := s.mem_assignments_table.1 hb
    have hv := Field.isTable_of_read (Field.read_of_written? hwritten)
    have hsame : a.value = v := hvalue.eq_of_not_table hv
    exact ⟨f, text, v, hwritten, by rw [← hsame, show f.steps = a.path from hpath]⟩
  · rintro ⟨f, text, v, hwritten, rfl⟩
    have hv := Field.isTable_of_read (Field.read_of_written? hwritten)
    have hmem := s.mem_assignments_table.2 ⟨f, text, v, hwritten, rfl⟩
    obtain ⟨⟨path, w⟩, hb, hpath, hvalue⟩ := h.symm.exists_mem_assignments hmem
    obtain rfl : path = f.steps := hpath
    obtain rfl : v = w := hvalue.eq_of_not_table (hvalue.isTable_eq ▸ hv)
    exact hb

end

namespace Field

/-- A value that can be read as the setting that it is assigned to has the right shape for all
settings. -/
theorem fits_steps (f : Field) {g : Field} {v : Toml} {value : g.Value} (h : g.read v = .ok value) :
    f.Fits ⟨g.steps, v⟩ := by
  refine ⟨f.not_isDisturbedBy_steps g v, fun path hpath => ?_⟩
  obtain rfl : path = [] := by
    have hlength := congrArg List.length hpath
    simpa [steps] using hlength
  obtain rfl : g = f := steps_injective (by simpa using hpath)
  exact ⟨rfl, value, h⟩

section

variable {s} {layer : List (String × Toml)} (h : Reordered (.table s.table) (.table layer))
include h

theorem fits_saved (f : Field) : ∀ a ∈ assignments layer, f.Fits a := by
  intro a ha
  obtain ⟨g, text, v, hwritten, rfl⟩ := (mem_assignments_saved h).1 ha
  exact f.fits_steps (read_of_written? hwritten)

theorem valueIn?_saved (f : Field) : f.valueIn? layer = (f.written? (f.get s)).map (·.2) := by
  have honly : ∀ a ∈ assignments layer, a.path = f.steps →
      ∃ text, f.written? (f.get s) = some (text, a.value) := by
    intro a ha hpath
    obtain ⟨g, text, v, hwritten, rfl⟩ := (mem_assignments_saved h).1 ha
    obtain rfl : g = f := steps_injective hpath
    exact ⟨text, hwritten⟩
  cases hwritten : f.written? (f.get s) with
  | none =>
    refine valueIn?_eq_none fun a ha hpath => ?_
    obtain ⟨text, hsome⟩ := honly a ha hpath
    rw [hwritten] at hsome
    cases hsome
  | some x =>
    refine valueIn?_of_unique ((mem_assignments_saved h).2 ⟨f, x.1, x.2, hwritten, rfl⟩)
      (isTable_of_read (read_of_written? hwritten)) fun a ha hpath => ?_
    obtain ⟨text, hsome⟩ := honly a ha hpath
    exact congrArg Prod.snd (Option.some.inj (hsome.symm.trans hwritten))

end

end Field

theorem Field.isTable_of_lookup? {f : Field} {root v : Toml} (h : f.lookup? root = some v) :
    root.isTable = true ∧ (fieldOrTable root.fields f.sectionKey).isTable = true := by
  have hfields {w : Toml} {key : String} {v : Toml} (h : w.fields.lookup key = some v) :
      w.isTable = true := by
    cases w <;> first | rfl | cases h
  refine ⟨?_, hfields h⟩
  cases hsection : root.fields.lookup f.sectionKey with
  | some w => exact hfields hsection
  | none =>
    rw [Field.lookup?, fieldOrTable, hsection] at h
    cases h

/-- Settings that are loaded over lower layers are the saved ones. A preamble that there is none of
is that of the lower layers; it stands in one section with a setting that is always saved. -/
theorem ofToml_addLayer_saved {below : Toml} {preamble : Option String}
    {layer : List (String × Toml)} (h : Reordered (.table s.table) (.table layer))
    (hpreamble : readSetting toOptionalText none (Field.preamble.lookup? below) = .ok preamble) :
    Settings.ofToml (addLayer below layer) = .ok { s with
      output := { s.output with preamble := s.output.preamble.or preamble } } := by
  have hlookup (f : Field) : f.lookup? (addLayer below layer) =
      ((f.written? (f.get s)).map (·.2)).or (f.lookup? below) := by
    rw [f.lookup?_addLayer (f.fits_saved h), f.valueIn?_saved h]
  have hsaved {f : Field} (hf : f ≠ .preamble) :
      ∃ v, f.lookup? (addLayer below layer) = some v ∧ f.read v = .ok (f.get s) := by
    obtain ⟨text, v, hwritten⟩ := f.written?_of_ne hf (f.get s)
    exact ⟨v, by rw [hlookup, hwritten]; rfl, Field.read_of_written? hwritten⟩
  have htables {f : Field} (hf : f ≠ .preamble) :
      (addLayer below layer).isTable = true ∧
        (fieldOrTable (addLayer below layer).fields f.sectionKey).isTable = true := by
    obtain ⟨v, hv, -⟩ := hsaved hf
    exact Field.isTable_of_lookup? hv
  obtain ⟨fields, hroot⟩ := isTable_iff.1 (htables (f := .types) (by decide)).1
  rw [hroot] at hlookup hsaved htables ⊢
  refine Field.ofToml_of_readSetting (fun f => ?_) fun f => ?_
  · by_cases hf : f = .preamble
    · subst hf
      exact (htables (f := .path) (by decide)).2
    · exact (htables hf).2
  · by_cases hf : f = .preamble
    · subst hf
      have hwritten : Field.preamble.written? (Field.preamble.get s) =
          s.output.preamble.map fun text => (stringText text, .string text) := rfl
      rw [hlookup, hwritten]
      cases s.output.preamble with
      | none => exact hpreamble
      | some text => rfl
    · obtain ⟨v, hv, hread⟩ := hsaved hf
      rw [hv]
      cases f with
      | preamble => exact absurd rfl hf
      | _ => exact hread

end Settings

/-! ## The file of saved settings -/

namespace FilePath

/-- A name that ends with `.toml` has this ending, unless nothing stands before it. -/
theorem extension?_of_endsWith {p : String} (hend : Text.endsWith p ".toml" = true)
    (hname : (ofText p).fileName? ≠ some ".toml") : (ofText p).extension? = some "toml" := by
  obtain ⟨front, hfile⟩ :=
    fileName?_of_suffix (List.isSuffixOf_iff_suffix.1 hend) (by decide) (by decide)
  have hchars : (front ++ ".toml").toList = front.toList ++ ['.', 't', 'o', 'm', 'l'] :=
    String.toList_append
  have hstem : front.toList ≠ [] := by
    intro hnil
    rw [String.toList_eq_nil_iff.1 hnil, String.empty_append] at hfile
    exact hname hfile
  rw [extension?, hfile, Option.bind_some, hchars]
  simp [hstem]

end FilePath

namespace Machine

open ZigReflect.Tree

variable {m : Machine} {s : Settings} {t t' : Tree} {path : String}

/-- Variables of other names set nothing. -/
theorem environmentLayer_eq_nil (h : ∀ x ∈ m.env,
    Environment.variablePrefix.isPrefixOf (Text.lower x.1).toList = false) :
    m.environmentLayer = [] := by
  have horder := m.reader.reordered .environment (Environment.layer m.env)
  rw [Environment.layer_eq_nil h] at horder
  rw [environmentLayer, Environment.layer_eq_nil h, horder.eq_nil]

section

variable (hcwd : t.content? m.cwd = some .dir)
include hcwd

/-- Where settings are saved to, there is a file with their text, and nothing else has changed. -/
theorem of_saveSettings (h : m.saveSettings t s path = .ok t') :
    ∃ l, t.place? m.cwd path = some l ∧ DiffersAt t t' l ∧
      t'.content? l = some (.file s.save.toUTF8) ∧
      t'.LeadsTo m.cwd (.ofText path) (.file l s.save.toUTF8) := by
  unfold saveSettings write at h
  cases hplace : t.writable m.cwd (.ofText path) with
  | error e =>
    rw [hplace] at h
    cases h
  | ok l =>
    rw [hplace] at h
    cases h
    obtain ⟨hl, hhas, hleads⟩ := place_of_writable hcwd hplace s.save.toUTF8
    obtain ⟨hdiffers, hfile⟩ := hhas.put s.save.toUTF8
    exact ⟨l, hl, hdiffers, hfile, hleads⟩

/-- The layer of a file of saved settings is their table in some order. -/
theorem fileLayer_of_saveSettings (h : m.saveSettings t s path = .ok t')
    (hext : (FilePath.ofText path).extension? = some "toml") (required : Bool) :
    ∃ layer, m.fileLayer t' required path = .ok layer ∧
      Reordered (.table s.table) (.table layer) := by
  obtain ⟨l, -, hdiffers, -, hleads⟩ := of_saveSettings hcwd h
  have hcwd' := hdiffers.content?_dir hcwd
  have hfile : m.isFile t' path = true := (isFile_iff hcwd').2 ⟨l, _, hleads⟩
  have hread : m.readText t' path = .ok s.save :=
    (readText_iff hcwd').2 ⟨l, _, hleads, fromUTF8?_toUTF8 _⟩
  have htext : m.settingsText? t' path = some (.toml, s.save) := by
    rw [settingsText?, settingsFile?_of_isFile hfile, hext]
    simp [hread, Except.toOption, SettingsFormat.ofEnding?, SettingsFormat.all,
      SettingsFormat.endings]
  refine ⟨_, ?_, m.reader.reordered (if required then .asked path else .standing path) s.table⟩
  rw [fileLayer, htext]
  simp only [SettingsReader.fields?, s.parse?_save]

/-- Settings that are saved elsewhere leave the layers of the standing files. -/
theorem standing_of_saveSettings (h : m.saveSettings t s path = .ok t')
    (hapart : ∀ other ∈ m.settingsPaths t none, t.place? m.cwd other ≠ t.place? m.cwd path) :
    (m.standingFiles t').mapM (m.fileLayer t' false) =
      (m.standingFiles t).mapM (m.fileLayer t false) := by
  obtain ⟨l, hl, hdiffers, hfile, -⟩ := of_saveSettings hcwd h
  rw [hl] at hapart
  obtain ⟨hstanding, htexts⟩ := settingsText?_of_differsAt hcwd hdiffers hfile hapart
  rw [hstanding]
  exact mapM_congr fun name hname => fileLayer_congr (htexts name (by simp [hname])) false

/-- Settings that have been saved to a file load back from it, whatever the standing files say of
all settings but the preamble. A preamble that there is none of is the one that the highest of the
standing files sets, if any of them sets it. Saving the settings to a place that is not looked at
for them leaves the standing files. -/
theorem saved_settings_load_back
    (henv : ∀ x ∈ m.env, Environment.variablePrefix.isPrefixOf (Text.lower x.1).toList = false)
    (hend : Text.endsWith path ".toml" = true)
    (hname : (FilePath.ofText path).fileName? ≠ some ".toml")
    (hsave : m.saveSettings t s path = .ok t') :
    ((∀ other ∈ m.settingsPaths t none, t.place? m.cwd other ≠ t.place? m.cwd path) →
      (m.standingFiles t').mapM (m.fileLayer t' false) =
        (m.standingFiles t).mapM (m.fileLayer t false)) ∧
    ∀ lower, (m.standingFiles t').mapM (m.fileLayer t' false) = .ok lower →
      (∀ layer ∈ lower, ∀ a ∈ assignments layer, Settings.Field.preamble.Fits a) →
      ∃ preamble,
        readSetting toOptionalText none (Settings.Field.preamble.highest? lower) = .ok preamble ∧
        m.loadSettings t' (some path) = .ok { s with
          output := { s.output with preamble := s.output.preamble.or preamble } } := by
  refine ⟨standing_of_saveSettings hcwd hsave, fun lower hlower hfits => ?_⟩
  obtain ⟨preamble, hpreamble⟩ := Settings.Field.readSetting_highest? hfits
  refine ⟨preamble, hpreamble, ?_⟩
  have hext := FilePath.extension?_of_endsWith hend hname
  obtain ⟨saved, hsaved, horder⟩ := fileLayer_of_saveSettings hcwd hsave hext true
  have hlayers : m.layers t' (some path) = .ok (lower ++ [saved] ++ [[]]) := by
    unfold layers
    rw [hlower, environmentLayer_eq_nil henv]
    simp only [Option.toList_some, List.mapM_cons, List.mapM_nil, hsaved]
    rfl
  have hmerged : (lower ++ [saved] ++ [[]]).foldl addLayer (.table []) =
      addLayer (lower.foldl addLayer (.table [])) saved := by
    simp [List.foldl_append]
  rw [loadSettings_of_layers hlayers, hmerged]
  refine s.ofToml_addLayer_saved horder ?_
  rw [Settings.Field.lookup?_layers hfits]
  exact hpreamble

end

/-- Settings with quotes and an empty list load back over two files, of which one sets a
preamble. -/
theorem saved_settings_load_back_over_files :
    let s : Settings := { formatter := { enabled := false, command := "it's\t\"", args := [] } }
    ∃ t', (bareMachine [("HOME", "x")]).saveSettings
        (twoFiles "output.preamble='x'" "formatter.command='y'") s "saved.toml" = .ok t' ∧
      (bareMachine [("HOME", "x")]).loadSettings t' (some "saved.toml") =
        .ok { s with output := { s.output with preamble := some "x" } } := by
  intro s
  have hlower : Toml.parse? "output.preamble='x'" =
      some [("output", .table [("preamble", .string "x")])] := by cbv
  have hhigher : Toml.parse? "formatter.command='y'" =
      some [("formatter", .table [("command", .string "y")])] := by cbv
  have hsave : (bareMachine [("HOME", "x")]).saveSettings
      (twoFiles "output.preamble='x'" "formatter.command='y'") s "saved.toml" = .ok _ :=
    write_of_writable (m := bareMachine []) (l := ["saved.toml"]) _ rfl
  obtain ⟨hsame, hload⟩ := saved_settings_load_back rfl (by decide) (by decide)
    (by decide +kernel) hsave
  have hapart := settings_apart_of_short (m := bareMachine [("HOME", "x")])
    (t := twoFiles "output.preamble='x'" "formatter.command='y'") (l := ["saved.toml"]) rfl
    (show (FilePath.ofText "saved.toml").fileName? = some "saved.toml" by decide +kernel)
    (by decide) rfl
  have hstanding := (hsame hapart).trans (standing_of_twoFiles hlower hhigher _)
  have hassigned : [[("output", Toml.table [("preamble", .string "x")])],
      [("formatter", .table [("command", .string "y")])], []].flatMap assignments =
        [⟨Settings.Field.preamble.steps, .string "x"⟩,
          ⟨Settings.Field.command.steps, .string "y"⟩] := rfl
  obtain ⟨preamble, hpreamble, hloaded⟩ := hload _ hstanding fun layer hlayer a ha => by
    have hmem := hassigned ▸ List.mem_flatMap.2 ⟨layer, hlayer, ha⟩
    simp only [List.mem_cons, List.not_mem_nil, or_false] at hmem
    rcases hmem with rfl | rfl
    · exact Settings.Field.fits_steps _
        (show toOptionalText (.string "x") = .ok (some "x") from rfl)
    · exact Settings.Field.fits_steps _ (show toText (.string "y") = .ok "y" from rfl)
  obtain rfl : some "x" = preamble := Except.ok.inj hpreamble
  exact ⟨_, hsave, hloaded⟩

/-- Over files that set nothing, a variable with the name of a setting, in either case, decides what
the setting is, whatever value has been saved. -/
theorem read_of_variable {f : Settings.Field} {name text : String} {loaded : Settings}
    {lower : List (List (String × Toml))} {saved : List (String × Toml)}
    (henv : m.env = [(name, text)]) (hname : Text.lower name = Text.lower f.variableName)
    (hlayer : m.fileLayer t true path = .ok saved)
    (horder : Reordered (.table s.table) (.table saved))
    (hload : m.loadSettings t (some path) = .ok loaded)
    (hlower : (m.standingFiles t).mapM (m.fileLayer t false) = .ok lower)
    (hempty : ∀ layer ∈ lower, layer = []) :
    f.read (Environment.value text) = .ok (f.get loaded) := by
  obtain ⟨standing, wanted, hstanding, hwanted, hmerged⟩ := layers_of_loadSettings hload
  obtain rfl : lower = standing := Except.ok.inj (hlower.symm.trans hstanding)
  simp only [Option.toList_some, List.mapM_cons, List.mapM_nil, hlayer] at hwanted
  obtain rfl : [saved] = wanted := Except.ok.inj hwanted
  have hkey := key?_of_lower hname
  have hassigned := assignments_of_variable text hkey
    (show keyPath (Text.lower (f.sectionKey ++ "." ++ f.key)) = .key f.sectionKey :: _ by
      rw [Environment.lower_of_key? hkey, keyPath_of_field, Settings.Field.steps])
  have hquiet : f.Undisturbed (lower ++ [saved] ++ [m.environmentLayer]) := by
    refine f.undisturbed_of_steps fun layer hlayer a ha => ?_
    simp only [List.mem_append, List.mem_singleton] at hlayer
    rcases hlayer with (hlayer | rfl) | rfl
    · rw [hempty layer hlayer] at ha
      cases ha
    · obtain ⟨g, _, _, -, rfl⟩ := (Settings.mem_assignments_saved horder).1 ha
      exact ⟨g, rfl⟩
    · obtain ⟨b, hb, hpath, -⟩ := (m.reader.reordered _ _).exists_mem_assignments ha
      rw [henv, hassigned, List.mem_singleton] at hb
      exact ⟨f, by rw [← hpath, hb, Settings.Field.steps]⟩
  have hvalue : f.valueIn? m.environmentLayer = some (Environment.value text) := by
    rw [valueIn?_environmentLayer, henv, List.reverse_singleton, List.find?_singleton, hkey]
    simp
  have hhighest : f.highest? (lower ++ [saved] ++ [m.environmentLayer]) =
      some (Environment.value text) := by
    simp [Settings.Field.highest?, hvalue]
  have hread := (Settings.Field.shows_layers hquiet).readSetting hmerged
  rwa [hhighest] at hread

/-- In an empty directory the standing files are not there, and nothing is set. -/
theorem standing_of_empty (env : List (String × String)) :
    ((bareMachine env).standingFiles (.dir [])).mapM ((bareMachine env).fileLayer (.dir []) false) =
      .ok [[], [], []] := by
  have hfile (path : String) : (bareMachine env).isFile (.dir []) path = false := isFile_dir_nil _
  have hnone (name : String) : (bareMachine env).fileLayer (.dir []) false name = .ok [] := by
    rw [fileLayer, settingsText?,
      (settingsFile?_eq_none_iff (hfile name)).2 (.inr fun _ _ => hfile _)]
    rfl
  rw [standingFiles_of_not_exists (by rw [userFile_bareMachine]; rfl)]
  simp only [standingNames, List.mapM_cons, List.mapM_nil, hnone]
  rfl

/-- The default settings are saved to a path with the right ending, beside standing files that are
not there, and are not what is loaded from it. -/
def LosesDefaults (m : Machine) (t : Tree) (path : String) : Prop :=
  Text.endsWith path ".toml" = true ∧
  (∀ other ∈ m.settingsPaths t none, t.place? m.cwd other ≠ t.place? m.cwd path) ∧
  (m.standingFiles t).mapM (m.fileLayer t false) = .ok [[], [], []] ∧
  ∃ t', m.saveSettings t {} path = .ok t' ∧ m.loadSettings t' (some path) ≠ .ok {}

/-- Saved settings do not load back from a file that has nothing but the ending for a name, and a
variable sets a setting over those that were saved although it is named in lower case. -/
theorem saved_settings_not_loaded :
    (bareMachine []).LosesDefaults (.dir []) ".toml" ∧
    "TYPEDOC_ZIG__".toList.isPrefixOf "typedoc_zig__formatter__command".toList = false ∧
    (bareMachine [("typedoc_zig__formatter__command", "x")]).LosesDefaults (.dir [])
      "saved.toml" := by
  let env := [("typedoc_zig__formatter__command", "x")]
  have hsave (env : List (String × String)) (path : String) {l : Location}
      (h : (Tree.dir []).writable [] (.ofText path) = .ok l) :
      (bareMachine env).saveSettings (.dir []) {} path =
        .ok ((Tree.dir []).put l (.file (Settings.save {}).toUTF8)) :=
    write_of_writable (m := bareMachine env) _ h
  have hsaved := hsave env "saved.toml" (l := ["saved.toml"]) rfl
  have hapart (env : List (String × String)) (path : String)
      (hname : (FilePath.ofText path).fileName? = some path)
      (hshort : path.length < "typedoc-zig.toml".length)
      (hplace : (Tree.dir []).place? [] path = some [path]) :
      ∀ other ∈ (bareMachine env).settingsPaths (.dir []) none,
        (Tree.dir []).place? [] other ≠ (Tree.dir []).place? [] path :=
    settings_apart_of_short (m := bareMachine env) rfl hname hshort hplace
  have hsavedApart := hapart env "saved.toml" (by decide +kernel) (by decide) rfl
  refine ⟨⟨by decide, hapart [] ".toml" (by decide +kernel) (by decide) rfl, standing_of_empty [], _,
    hsave [] ".toml" (l := [".toml"]) rfl, fun hload => ?_⟩, by decide,
    by decide, hsavedApart, standing_of_empty env, _, hsaved, fun hload => ?_⟩
  · have hnone : (bareMachine []).fileLayer ((Tree.dir []).put [".toml"]
        (.file (Settings.save {}).toUTF8)) true ".toml" = .error (.unavailable ".toml") := rfl
    obtain ⟨_, _, -, hwanted, -⟩ := layers_of_loadSettings hload
    simp only [Option.toList_some, List.mapM_cons, hnone] at hwanted
    cases hwanted
  · have hvalue : Environment.value "x" = .string "x" := by cbv
    obtain ⟨saved, hlayer, horder⟩ :=
      fileLayer_of_saveSettings rfl hsaved (by decide +kernel) true
    have hstanding := standing_of_saveSettings rfl hsaved hsavedApart
    have hread := read_of_variable (f := .command) rfl (by decide +kernel) hlayer horder hload
      (hstanding.trans (standing_of_empty env)) (by simp)
    rw [hvalue] at hread
    exact absurd (Except.ok.inj hread) (show "x" ≠ "zig" by decide)

end Machine

end ZigReflect
