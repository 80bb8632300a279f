import ZigReflect.Proofs.EnvironmentLayer
import ZigReflect.Proofs.OutputFile

/-!
# Settings by layers

Every setting of a run is decided on its own: by the command line, or else by the highest layer
that sets it, or else it has its default (`Machine.settings_of_layers`). A layer that sets one
setting of a section leaves the others, and a list is replaced by a list.

Layers can do more than set settings. A layer can give a section as a value that is no table, and
it can reach into an array by a key with a place in brackets. Both change settings that the layer
does not set (`Machine.settings_disturbed`), so a setting has to be undisturbed: a layer that
disturbs it lies below one that sets it (`Settings.Field.Undisturbed`).
-/

namespace ZigReflect

open Toml

theorem Coerced.bind_eq_ok {α β : Type} {x : Coerced α} {g : α → Coerced β} {b : β} :
    (x >>= g) = .ok b ↔ ∃ a, x = .ok a ∧ g a = .ok b := by
  cases x <;> simp [bind, Except.bind]

namespace Settings

/-- A setting of a run. -/
inductive Field where
  | types
  | protocol
  | path
  | preamble
  | enabled
  | command
  | args
  | excludePatterns
  | excludedSources
  | requestSuffix
  | requestUnion
  | notificationSuffix
  | notificationUnion
deriving DecidableEq

namespace Field

/-- The key of the section that the setting stands in. -/
def sectionKey : Field → String
  | .types | .protocol => "input"
  | .path | .preamble => "output"
  | .enabled | .command | .args => "formatter"
  | .excludePatterns | .excludedSources => "filter"
  | .requestSuffix | .requestUnion | .notificationSuffix | .notificationUnion => "summary"

/-- The key of the setting in its section. -/
def key : Field → String
  | .types => "types"
  | .protocol => "protocol"
  | .path => "path"
  | .preamble => "preamble"
  | .enabled => "enabled"
  | .command => "command"
  | .args => "args"
  | .excludePatterns => "exclude_patterns"
  | .excludedSources => "excluded_sources"
  | .requestSuffix => "request_suffix"
  | .requestUnion => "request_union"
  | .notificationSuffix => "notification_suffix"
  | .notificationUnion => "notification_union"

/-- Where layers set the setting. -/
def steps (f : Field) : List Toml.Step := [.key f.sectionKey, .key f.key]

/-- The variable that sets the setting. -/
def variableName (f : Field) : String :=
  "TYPEDOC_ZIG__" ++ f.sectionKey.toUpper ++ "__" ++ f.key.toUpper

/-- What the setting can be. -/
def Value : Field → Type
  | .enabled => Bool
  | .preamble => Option String
  | .args | .excludePatterns | .excludedSources => List String
  | .types | .protocol | .path | .command | .requestSuffix | .requestUnion
  | .notificationSuffix | .notificationUnion => String

/-- Whether the setting is a list. -/
def isList : Field → Bool
  | .args | .excludePatterns | .excludedSources => true
  | _ => false

/-- How the setting is read. -/
def read : (f : Field) → Toml → Coerced f.Value
  | .enabled => toTruth
  | .preamble => toOptionalText
  | .args | .excludePatterns | .excludedSources => toTexts
  | .types | .protocol | .path | .command | .requestSuffix | .requestUnion
  | .notificationSuffix | .notificationUnion => toText

/-- The setting among all settings. -/
def get (s : Settings) : (f : Field) → f.Value
  | .types => s.input.types
  | .protocol => s.input.protocol
  | .path => s.output.path
  | .preamble => s.output.preamble
  | .enabled => s.formatter.enabled
  | .command => s.formatter.command
  | .args => s.formatter.args
  | .excludePatterns => s.filter.excludePatterns
  | .excludedSources => s.filter.excludedSources
  | .requestSuffix => s.summary.requestSuffix
  | .requestUnion => s.summary.requestUnion
  | .notificationSuffix => s.summary.notificationSuffix
  | .notificationUnion => s.summary.notificationUnion

/-! ## What layers do to a setting -/

/-- The value that an assignment gives to the setting. A table is not one: it is merged. -/
def setBy? (f : Field) (a : Assignment) : Option Toml :=
  if a.path = f.steps ∧ a.value.isTable = false then some a.value else none

/-- An assignment can change the setting without setting it. -/
inductive IsDisturbedBy (f : Field) (a : Assignment) : Prop where
  /-- The section is given as a value that is no table. The fields of a table are assigned one by
  one, so only an empty one is under the name of a section. -/
  | replaced (hpath : a.path = [.key f.sectionKey]) (hvalue : a.value ≠ .table [])
  /-- The section is taken for an array. -/
  | placed {i : Int} {path : List Toml.Step}
    (hpath : a.path = .key f.sectionKey :: .place i :: path)
  /-- A place of the list is changed. -/
  | item {i : Int} {path : List Toml.Step} (hlist : f.isList = true)
    (hpath : a.path = .key f.sectionKey :: .key f.key :: .place i :: path)

/-- The value that a layer gives to the setting. -/
def valueIn? (f : Field) (layer : List (String × Toml)) : Option Toml :=
  (assignments layer).reverse.findSome? f.setBy?

/-- A layer gives to the setting the one value that it assigns to it. -/
theorem valueIn?_of_unique {f : Field} {layer : List (String × Toml)} {v : Toml}
    (hmem : ⟨f.steps, v⟩ ∈ assignments layer) (htable : v.isTable = false)
    (hunique : ∀ a ∈ assignments layer, a.path = f.steps → a.value = v) :
    f.valueIn? layer = some v := by
  have hset : ∀ a ∈ (assignments layer).reverse, ∀ w, f.setBy? a = some w → w = v := by
    intro a ha w hw
    unfold setBy? at hw
    split at hw
    · next hsets =>
      rw [← Option.some.inj hw]
      exact hunique a (List.mem_reverse.1 ha) hsets.1
    · cases hw
  cases hvalue : f.valueIn? layer with
  | some w =>
    obtain ⟨a, ha, hw⟩ := List.exists_of_findSome?_eq_some hvalue
    rw [hset a ha w hw]
  | none =>
    have hnone := List.findSome?_eq_none_iff.1 hvalue _ (List.mem_reverse.2 hmem)
    rw [setBy?, if_pos ⟨rfl, htable⟩] at hnone
    cases hnone

/-- A layer that assigns nothing to the setting gives it no value. -/
theorem valueIn?_eq_none {f : Field} {layer : List (String × Toml)}
    (h : ∀ a ∈ assignments layer, a.path ≠ f.steps) : f.valueIn? layer = none :=
  List.findSome?_eq_none_iff.2 fun a ha => if_neg fun hset => h a (List.mem_reverse.1 ha) hset.1

example : command.valueIn? [("formatter", .table [("Command", .string "x")])] =
    some (.string "x") := rfl

/-- The value that the highest layer gives to the setting of those that set it. -/
def highest? (f : Field) (layers : List (List (String × Toml))) : Option Toml :=
  layers.reverse.findSome? f.valueIn?

/-- A layer that disturbs the setting lies below one that sets it. -/
def Undisturbed (f : Field) (layers : List (List (String × Toml))) : Prop :=
  ∀ lower layer higher, layers = lower ++ layer :: higher →
    (∃ a ∈ assignments layer, f.IsDisturbedBy a) →
      ∃ above ∈ higher, (f.valueIn? above).isSome = true

/-- No assignment to a setting disturbs another one. -/
theorem not_isDisturbedBy_steps (f g : Field) (v : Toml) : ¬f.IsDisturbedBy ⟨g.steps, v⟩ := by
  rintro (⟨hpath, -⟩ | hpath | ⟨-, hpath⟩) <;> simp [steps] at hpath

theorem steps_injective : Function.Injective steps := by
  intro f g h
  cases f <;> cases g <;> first | rfl | simp [steps, sectionKey, key] at h

/-- An assignment to a setting leaves all other settings. -/
theorem setBy?_steps_of_ne {f g : Field} (h : g ≠ f) (v : Toml) : f.setBy? ⟨g.steps, v⟩ = none :=
  if_neg fun hset => h (steps_injective hset.1)

/-- Layers that only set settings disturb none. -/
theorem undisturbed_of_steps (f : Field) {layers : List (List (String × Toml))}
    (h : ∀ layer ∈ layers, ∀ a ∈ assignments layer, ∃ g : Field, a.path = g.steps) :
    f.Undisturbed layers := by
  rintro lower layer higher rfl ⟨⟨path, v⟩, ha, hdisturbs⟩
  obtain ⟨g, rfl⟩ := h layer (by simp) _ ha
  exact absurd hdisturbs (f.not_isDisturbedBy_steps g v)

/-! ## The last one wins -/

/-- When what sets a value shows it and everything else keeps the value that shows, the last one
that sets a value decides: what follows it neither sets nor disturbs. -/
theorem shows_foldl {α : Type} {step : Toml → α → Toml} {value? : α → Option Toml}
    {disturbs : α → Prop} {Shows : Toml → Option Toml → Prop} {xs : List α} {root : Toml}
    {start : Option Toml}
    (hset : ∀ a ∈ xs, ¬disturbs a → ∀ root v, value? a = some v → Shows (step root a) (some v))
    (hkeep : ∀ a ∈ xs, ¬disturbs a → ∀ root x, value? a = none → Shows root x →
      Shows (step root a) x)
    (hquiet : ∀ lower a higher, xs = lower ++ a :: higher → disturbs a →
      ∃ b ∈ higher, (value? b).isSome = true)
    (hstart : xs.reverse.findSome? value? = none → Shows root start) :
    Shows (xs.foldl step root) ((xs.reverse.findSome? value?).or start) := by
  induction xs using List.reverseRecOn with
  | nil => exact hstart rfl
  | append_singleton xs a ih =>
    have hmem : a ∈ xs ++ [a] := by simp
    have ha : ¬disturbs a := fun h => by
      obtain ⟨b, hb, -⟩ := hquiet xs a [] rfl h
      cases hb
    rw [List.foldl_append, List.foldl_cons, List.foldl_nil, List.reverse_append,
      List.reverse_singleton, List.singleton_append, List.findSome?_cons]
    cases hvalue : value? a with
    | some v => exact hset a hmem ha _ v hvalue
    | none =>
      refine hkeep a hmem ha _ _ hvalue (ih (fun b hb => hset b (by simp [hb]))
        (fun b hb => hkeep b (by simp [hb])) (fun lower b higher hxs hb => ?_) fun hnone => ?_)
      · obtain ⟨c, hc, hset⟩ := hquiet lower b (higher ++ [a]) (by simp [hxs]) hb
        rcases List.mem_append.1 hc with hc | hc
        · exact ⟨c, hc, hset⟩
        · rw [List.mem_singleton.1 hc, hvalue] at hset
          cases hset
      · refine hstart ?_
        rw [List.reverse_append, List.reverse_singleton, List.singleton_append,
          List.findSome?_cons, hvalue]
        exact hnone

/-! ## What a merged table shows of a setting -/

/-- A value that the setting cannot have. -/
def IsUnreadable (f : Field) (v : Toml) : Prop :=
  ∀ value, f.read v ≠ .ok value

theorem isUnreadable_of_isTable (f : Field) {v : Toml} (h : v.isTable = true) :
    f.IsUnreadable v := by
  obtain ⟨fields, rfl⟩ := isTable_iff.1 h
  intro value hvalue
  cases f <;> cases hvalue

theorem isUnreadable_array {f : Field} (h : f.isList = false) (items : List Toml) :
    f.IsUnreadable (.array items) := by
  intro value hvalue
  cases f <;> first | cases hvalue | cases h

/-- What a merged table holds of the setting. -/
def lookup? (f : Field) (root : Toml) : Option Toml :=
  (fieldOrTable root.fields f.sectionKey).fields.lookup f.key

/-- The section of the setting is a table, or there is none, and the setting is there as given or
cannot be read. -/
structure Shows (f : Field) (root : Toml) (x : Option Toml) : Prop where
  isTable : root.isTable = true
  isTable_section : (fieldOrTable root.fields f.sectionKey).isTable = true
  value : f.lookup? root = x ∨ ∃ v, f.lookup? root = some v ∧ f.IsUnreadable v

theorem Shows.congr {f : Field} {root root' : Toml} {x : Option Toml} (h : f.Shows root x)
    (hroot : root'.isTable = true) (hsection : fieldOrTable root'.fields f.sectionKey =
      fieldOrTable root.fields f.sectionKey) : f.Shows root' x := by
  refine ⟨hroot, hsection ▸ h.isTable_section, ?_⟩
  unfold lookup?
  rw [hsection]
  exact h.value

theorem shows_apply_of_set {f : Field} {a : Assignment} {v : Toml} (h : f.setBy? a = some v)
    (root : Toml) : f.Shows (a.apply root) (some v) := by
  obtain ⟨path, value⟩ := a
  unfold setBy? at h
  split at h
  case isFalse => cases h
  next hset =>
  obtain ⟨rfl, hvalue⟩ := hset
  cases h
  have hsection := fieldOrTable_assign_deeper value f.sectionKey [] root (.key f.key)
  exact {
    isTable := isTable_assign_key ..
    isTable_section := by
      unfold Assignment.apply steps
      rw [hsection]
      exact isTable_assign_key ..
    value := .inl <| by
      unfold lookup? Assignment.apply steps
      rw [hsection]
      exact lookup_assign_value _ _ _ hvalue }

/-- An assignment within the section that sets something else, or nothing that can be read. A table
without fields leaves a value that is there, so the value still shows. Any other table cannot be
read as a setting, whatever it is merged into. -/
theorem shows_apply_inside {f : Field} {v : Toml} {key : String} {path : List Toml.Step}
    {root : Toml} {x : Option Toml}
    (hset : f.setBy? ⟨.key f.sectionKey :: .key key :: path, v⟩ = none)
    (hquiet : ¬f.IsDisturbedBy ⟨.key f.sectionKey :: .key key :: path, v⟩) (h : f.Shows root x) :
    f.Shows (assign v (.key f.sectionKey :: .key key :: path) root) x := by
  have hsection := fieldOrTable_assign_deeper v f.sectionKey path root (.key key)
  have hfields := fields_getD_nothing f.sectionKey root.fields
  refine ⟨isTable_assign_key .., hsection ▸ isTable_assign_key .., ?_⟩
  unfold lookup?
  rw [hsection]
  by_cases hkey : f.key = key
  · subst hkey
    match path with
    | [] =>
      have htable : v.isTable = true := by simpa [setBy?, steps] using hset
      obtain ⟨incoming, rfl⟩ := isTable_iff.1 htable
      rw [lookup_assign_table, hfields]
      generalize hlookup : fieldOrTable (fieldOrTable root.fields f.sectionKey).fields f.key = w
      rcases mergeFields_eq_or_isTable w incoming with hsame | hmade
      · rw [hsame, ← hlookup, fieldOrTable]
        cases hthere : (fieldOrTable root.fields f.sectionKey).fields.lookup f.key with
        | some v => exact hthere ▸ h.value
        | none => exact .inr ⟨_, rfl, f.isUnreadable_of_isTable rfl⟩
      · exact .inr ⟨_, rfl, f.isUnreadable_of_isTable hmade⟩
    | .key name :: path =>
      exact .inr ⟨_, lookup_assign_deeper .., f.isUnreadable_of_isTable (isTable_assign_key ..)⟩
    | .place i :: path =>
      have hlist : f.isList = false := by
        by_contra hlist
        exact hquiet (.item (by simpa using hlist) rfl)
      exact .inr ⟨_, lookup_assign_deeper .., by rw [assign]; exact isUnreadable_array hlist _⟩
  · rw [lookup_assign_of_ne _ _ _ _ hkey, hfields]
    exact h.value

/-- An assignment that does not disturb the setting leaves its section or is within it. -/
theorem section_of_quiet {f : Field} {a : Assignment}
    (hpath : ∃ name path, a.path = .key name :: path) (hquiet : ¬f.IsDisturbedBy a) (root : Toml) :
    (f.setBy? a = none ∧ fieldOrTable (a.apply root).fields f.sectionKey =
        fieldOrTable root.fields f.sectionKey) ∨
      ∃ key path, a.path = .key f.sectionKey :: .key key :: path := by
  obtain ⟨path, v⟩ := a
  obtain ⟨name, path, rfl⟩ := hpath
  by_cases hname : f.sectionKey = name
  · subst hname
    match path with
    | [] =>
      have hv : v = .table [] := by
        by_contra hv
        exact hquiet (.replaced rfl hv)
      subst hv
      exact .inl ⟨by simp [setBy?, steps], fieldOrTable_assign_empty ..⟩
    | .key key :: path => exact .inr ⟨key, path, rfl⟩
    | .place i :: path => exact absurd (.placed rfl) hquiet
  · exact .inl ⟨by simp [setBy?, steps, Ne.symm hname], fieldOrTable_assign_of_ne _ _ _ _ hname⟩

/-- An assignment that does not disturb the setting and sets something else leaves what shows. -/
theorem shows_apply_of_quiet {f : Field} {a : Assignment} {root : Toml} {x : Option Toml}
    (hpath : ∃ name path, a.path = .key name :: path) (hset : f.setBy? a = none)
    (hquiet : ¬f.IsDisturbedBy a) (h : f.Shows root x) : f.Shows (a.apply root) x := by
  rcases section_of_quiet hpath hquiet root with ⟨-, hsection⟩ | ⟨key, path, hinside⟩
  · obtain ⟨name, path, hpath⟩ := hpath
    exact h.congr (by rw [Assignment.apply, hpath]; exact isTable_assign_key ..) hsection
  · obtain ⟨path, v⟩ := a
    cases hinside
    exact shows_apply_inside hset hquiet h

/-- A layer that does not disturb the setting sets it or leaves what shows. -/
theorem shows_addLayer {f : Field} {layer : List (String × Toml)} {root : Toml} {x : Option Toml}
    (hquiet : ¬∃ a ∈ assignments layer, f.IsDisturbedBy a)
    (h : f.valueIn? layer = none → f.Shows root x) :
    f.Shows (addLayer root layer) ((f.valueIn? layer).or x) := by
  rw [addLayer_eq_foldl]
  refine shows_foldl (fun a _ _ root v hv => shows_apply_of_set hv root)
    (fun a ha hquiet root x hx => shows_apply_of_quiet (path_head_of_mem_assignments ha) hx hquiet)
    (fun lower a higher hsplit ha => ?_) h
  exact absurd ⟨a, by simp [hsplit], ha⟩ hquiet

/-- The highest layer that sets an undisturbed setting decides. -/
theorem shows_layers {f : Field} {layers : List (List (String × Toml))}
    (h : f.Undisturbed layers) :
    f.Shows (layers.foldl addLayer (.table [])) (f.highest? layers) := by
  have hstart : f.Shows (.table []) none := ⟨rfl, rfl, .inl rfl⟩
  have hshows : f.Shows (layers.foldl addLayer (.table []))
      ((layers.reverse.findSome? f.valueIn?).or none) := shows_foldl
    (fun layer _ hquiet root v hv => by
      simpa [hv] using shows_addLayer (x := none) hquiet fun hnone => by simp [hv] at hnone)
    (fun layer _ hquiet root x hx hroot => by
      simpa [hx] using shows_addLayer hquiet fun _ => hroot)
    h (fun _ => hstart)
  rwa [Option.or_none] at hshows

/-! ## Reading a merged table -/

/-- A section that is not there is read as an empty one. -/
theorem readSetting_section_iff {α : Type} {ofToml : Toml → Coerced α} {base a : α}
    {fields : List (String × Toml)} {key : String} (hbase : ofToml (.table []) = .ok base) :
    readSetting ofToml base (fields.lookup key) = .ok a ↔
      ofToml (fieldOrTable fields key) = .ok a := by
  unfold fieldOrTable
  cases fields.lookup key with
  | none =>
    rw [Option.getD_none, hbase]
    rfl
  | some v => exact Iff.rfl

theorem ofToml_iff_sections {fields : List (String × Toml)} {s : Settings} :
    Settings.ofToml (.table fields) = .ok s ↔
      InputSettings.ofToml (fieldOrTable fields "input") = .ok s.input ∧
      OutputSettings.ofToml (fieldOrTable fields "output") = .ok s.output ∧
      FormatterSettings.ofToml (fieldOrTable fields "formatter") = .ok s.formatter ∧
      FilterSettings.ofToml (fieldOrTable fields "filter") = .ok s.filter ∧
      SummarySettings.ofToml (fieldOrTable fields "summary") = .ok s.summary := by
  have hinput : InputSettings.ofToml (.table []) = .ok {} := rfl
  have houtput : OutputSettings.ofToml (.table []) = .ok {} := rfl
  have hformatter : FormatterSettings.ofToml (.table []) = .ok {} := rfl
  have hfilter : FilterSettings.ofToml (.table []) = .ok {} := rfl
  have hsummary : SummarySettings.ofToml (.table []) = .ok {} := rfl
  simp only [Settings.ofToml, sectionFields, Coerced.bind_eq_ok, Except.ok.injEq, exists_eq_left',
    readSetting_section_iff hinput, readSetting_section_iff houtput,
    readSetting_section_iff hformatter, readSetting_section_iff hfilter,
    readSetting_section_iff hsummary]
  constructor
  · rintro ⟨_, hinput, _, houtput, _, hformatter, _, hfilter, _, hsummary, ⟨⟩⟩
    exact ⟨hinput, houtput, hformatter, hfilter, hsummary⟩
  · rintro ⟨hinput, houtput, hformatter, hfilter, hsummary⟩
    exact ⟨_, hinput, _, houtput, _, hformatter, _, hfilter, _, hsummary, rfl⟩

section

variable {fields : List (String × Toml)}

theorem input_ofToml_iff {s : InputSettings} : InputSettings.ofToml (.table fields) = .ok s ↔
    readSetting toText "types.json" (fields.lookup "types") = .ok s.types ∧
      readSetting toText "protocol.json" (fields.lookup "protocol") = .ok s.protocol := by
  simp only [InputSettings.ofToml, sectionFields, Coerced.bind_eq_ok]
  constructor
  · rintro ⟨_, ⟨⟩, types, htypes, protocol, hprotocol, ⟨⟩⟩
    exact ⟨htypes, hprotocol⟩
  · rintro ⟨htypes, hprotocol⟩
    exact ⟨_, rfl, _, htypes, _, hprotocol, rfl⟩

theorem output_ofToml_iff {s : OutputSettings} : OutputSettings.ofToml (.table fields) = .ok s ↔
    readSetting toText "types.zig" (fields.lookup "path") = .ok s.path ∧
      readSetting toOptionalText none (fields.lookup "preamble") = .ok s.preamble := by
  simp only [OutputSettings.ofToml, sectionFields, Coerced.bind_eq_ok]
  constructor
  · rintro ⟨_, ⟨⟩, path, hpath, preamble, hpreamble, ⟨⟩⟩
    exact ⟨hpath, hpreamble⟩
  · rintro ⟨hpath, hpreamble⟩
    exact ⟨_, rfl, _, hpath, _, hpreamble, rfl⟩

theorem formatter_ofToml_iff {s : FormatterSettings} :
    FormatterSettings.ofToml (.table fields) = .ok s ↔
      readSetting toTruth true (fields.lookup "enabled") = .ok s.enabled ∧
        readSetting toText "zig" (fields.lookup "command") = .ok s.command ∧
        readSetting toTexts ["fmt"] (fields.lookup "args") = .ok s.args := by
  simp only [FormatterSettings.ofToml, sectionFields, Coerced.bind_eq_ok]
  constructor
  · rintro ⟨_, ⟨⟩, enabled, henabled, command, hcommand, args, hargs, ⟨⟩⟩
    exact ⟨henabled, hcommand, hargs⟩
  · rintro ⟨henabled, hcommand, hargs⟩
    exact ⟨_, rfl, _, henabled, _, hcommand, _, hargs, rfl⟩

theorem filter_ofToml_iff {s : FilterSettings} : FilterSettings.ofToml (.table fields) = .ok s ↔
    readSetting toTexts (excludePatterns.get {}) (fields.lookup "exclude_patterns") =
        .ok s.excludePatterns ∧
      readSetting toTexts (excludedSources.get {}) (fields.lookup "excluded_sources") =
        .ok s.excludedSources := by
  simp only [FilterSettings.ofToml, sectionFields, Coerced.bind_eq_ok]
  constructor
  · rintro ⟨_, ⟨⟩, patterns, hpatterns, sources, hsources, ⟨⟩⟩
    exact ⟨hpatterns, hsources⟩
  · rintro ⟨hpatterns, hsources⟩
    exact ⟨_, rfl, _, hpatterns, _, hsources, rfl⟩

theorem summary_ofToml_iff {s : SummarySettings} :
    SummarySettings.ofToml (.table fields) = .ok s ↔
      readSetting toText "Request" (fields.lookup "request_suffix") = .ok s.requestSuffix ∧
        readSetting toText "Request" (fields.lookup "request_union") = .ok s.requestUnion ∧
        readSetting toText "Notification" (fields.lookup "notification_suffix") =
          .ok s.notificationSuffix ∧
        readSetting toText "Notification" (fields.lookup "notification_union") =
          .ok s.notificationUnion := by
  simp only [SummarySettings.ofToml, sectionFields, Coerced.bind_eq_ok]
  constructor
  · rintro ⟨_, ⟨⟩, suffix, hsuffix, union, hunion, suffix', hsuffix', union', hunion', ⟨⟩⟩
    exact ⟨hsuffix, hunion, hsuffix', hunion'⟩
  · rintro ⟨hsuffix, hunion, hsuffix', hunion'⟩
    exact ⟨_, rfl, _, hsuffix, _, hunion, _, hsuffix', _, hunion', rfl⟩

/-- A setting is read from what the merged table holds of it. -/
theorem readSetting_of_ofToml (f : Field) {s : Settings}
    (h : Settings.ofToml (.table fields) = .ok s)
    (hsection : (fieldOrTable fields f.sectionKey).isTable = true) :
    readSetting f.read (f.get {}) (f.lookup? (.table fields)) = .ok (f.get s) := by
  obtain ⟨hinput, houtput, hformatter, hfilter, hsummary⟩ := ofToml_iff_sections.1 h
  obtain ⟨inner, hinner⟩ := isTable_iff.1 hsection
  unfold lookup?
  rw [fields_table, hinner, fields_table]
  cases f <;> unfold sectionKey at hinner <;> dsimp only at hinner
  case types => exact (input_ofToml_iff.1 (hinner ▸ hinput)).1
  case protocol => exact (input_ofToml_iff.1 (hinner ▸ hinput)).2
  case path => exact (output_ofToml_iff.1 (hinner ▸ houtput)).1
  case preamble => exact (output_ofToml_iff.1 (hinner ▸ houtput)).2
  case enabled => exact (formatter_ofToml_iff.1 (hinner ▸ hformatter)).1
  case command => exact (formatter_ofToml_iff.1 (hinner ▸ hformatter)).2.1
  case args => exact (formatter_ofToml_iff.1 (hinner ▸ hformatter)).2.2
  case excludePatterns => exact (filter_ofToml_iff.1 (hinner ▸ hfilter)).1
  case excludedSources => exact (filter_ofToml_iff.1 (hinner ▸ hfilter)).2
  case requestSuffix => exact (summary_ofToml_iff.1 (hinner ▸ hsummary)).1
  case requestUnion => exact (summary_ofToml_iff.1 (hinner ▸ hsummary)).2.1
  case notificationSuffix => exact (summary_ofToml_iff.1 (hinner ▸ hsummary)).2.2.1
  case notificationUnion => exact (summary_ofToml_iff.1 (hinner ▸ hsummary)).2.2.2

/-- Settings are loaded from a table of tables when every setting is read from it. -/
theorem ofToml_of_readSetting {s : Settings}
    (hsections : ∀ f : Field, (fieldOrTable fields f.sectionKey).isTable = true)
    (h : ∀ f : Field, readSetting f.read (f.get {}) (f.lookup? (.table fields)) = .ok (f.get s)) :
    Settings.ofToml (.table fields) = .ok s := by
  have hread (f : Field) {inner : List (String × Toml)}
      (hinner : fieldOrTable fields f.sectionKey = .table inner) :
      readSetting f.read (f.get {}) (inner.lookup f.key) = .ok (f.get s) := by
    have hf := h f
    rwa [lookup?, fields_table, hinner, fields_table] at hf
  obtain ⟨input, hinput⟩ := isTable_iff.1 (hsections .types)
  obtain ⟨output, houtput⟩ := isTable_iff.1 (hsections .path)
  obtain ⟨formatter, hformatter⟩ := isTable_iff.1 (hsections .enabled)
  obtain ⟨filter, hfilter⟩ := isTable_iff.1 (hsections .excludePatterns)
  obtain ⟨summary, hsummary⟩ := isTable_iff.1 (hsections .requestSuffix)
  refine ofToml_iff_sections.2 ⟨?_, ?_, ?_, ?_, ?_⟩
  · exact (congrArg _ hinput).trans
      (input_ofToml_iff.2 ⟨hread .types hinput, hread .protocol hinput⟩)
  · exact (congrArg _ houtput).trans
      (output_ofToml_iff.2 ⟨hread .path houtput, hread .preamble houtput⟩)
  · exact (congrArg _ hformatter).trans (formatter_ofToml_iff.2
      ⟨hread .enabled hformatter, hread .command hformatter, hread .args hformatter⟩)
  · exact (congrArg _ hfilter).trans (filter_ofToml_iff.2
      ⟨hread .excludePatterns hfilter, hread .excludedSources hfilter⟩)
  · exact (congrArg _ hsummary).trans (summary_ofToml_iff.2
      ⟨hread .requestSuffix hsummary, hread .requestUnion hsummary,
        hread .notificationSuffix hsummary, hread .notificationUnion hsummary⟩)

end

/-- A setting that shows a value is read from it when the settings can be loaded. -/
theorem Shows.readSetting {f : Field} {root : Toml} {x : Option Toml} {s : Settings}
    (h : f.Shows root x) (hload : Settings.ofToml root = .ok s) :
    readSetting f.read (f.get {}) x = .ok (f.get s) := by
  obtain ⟨fields, rfl⟩ := isTable_iff.1 h.isTable
  have hread := readSetting_of_ofToml f hload h.isTable_section
  rcases h.value with hvalue | ⟨v, hvalue, hbad⟩
  · rwa [← hvalue]
  · rw [hvalue] at hread
    exact absurd hread (hbad _)

end Field

end Settings

/-- What the command line says of a setting. -/
def Options.override (o : Options) : (f : Settings.Field) → Option f.Value
  | .types => o.types
  | .protocol => o.protocol
  | .path => o.output
  | .enabled => if o.noFormat then some false else none
  | .preamble | .command | .args | .excludePatterns | .excludedSources | .requestSuffix
  | .requestUnion | .notificationSuffix | .notificationUnion => none

theorem Options.get_apply (o : Options) (s : Settings) (f : Settings.Field) :
    f.get (o.apply s) = (o.override f).getD (f.get s) := by
  cases f
  case enabled =>
    show (s.formatter.enabled && !o.noFormat) =
      (if o.noFormat then some false else none).getD s.formatter.enabled
    cases o.noFormat <;> simp
  all_goals rfl

namespace Machine

variable {m : Machine} {o : Options} {s : Settings} {t : Tree}

/-- The layers of a load: the standing files from the lowest to the one of the user, the file that
is asked for, and the environment. -/
theorem layers_of_loadSettings {asked : Option String} {loaded : Settings}
    (h : m.loadSettings t asked = .ok loaded) :
    ∃ standing wanted, (m.standingFiles t).mapM (m.fileLayer t false) = .ok standing ∧
      asked.toList.mapM (m.fileLayer t true) = .ok wanted ∧
      Settings.ofToml
        ((standing ++ wanted ++ [m.environmentLayer]).foldl addLayer (.table [])) =
          .ok loaded := by
  unfold loadSettings layers at h
  simp only [Coerced.bind_eq_ok] at h
  obtain ⟨_, ⟨standing, hstanding, wanted, hwanted, ⟨⟩⟩, hload⟩ := h
  exact ⟨standing, wanted, hstanding, hwanted, hload⟩

theorem key?_variableName (f : Settings.Field) :
    Environment.key? f.variableName = some (f.sectionKey ++ "." ++ f.key) := by
  cases f <;> decide +kernel

theorem keyPath_of_field (f : Settings.Field) :
    keyPath (f.sectionKey ++ "." ++ f.key) = f.steps := by
  cases f <;> decide +kernel

/-- A variable assigns its value to the path that its name spells. -/
theorem assignments_of_variable {name key first : String} {step : Toml.Step}
    {path : List Toml.Step} (text : String) (hkey : Environment.key? name = some key)
    (hpath : keyPath (Text.lower key) = .key first :: step :: path) :
    assignments (Environment.layer [(name, text)]) =
      [⟨.key first :: step :: path, Environment.value text⟩] := by
  have hlayer : Environment.layer [(name, text)] = [(key, Environment.value text)] := by
    simp [Environment.layer, Environment.addVariable, hkey, Keyed.set]
  rw [hlayer, assignments, List.flatMap_cons, List.flatMap_nil, List.append_nil]
  exact Assignment.ofEntry_of_deep hpath

/-- A variable with the name of a setting, in either case, sets the key of this setting. -/
theorem key?_of_lower {f : Settings.Field} {name : String}
    (h : Text.lower name = Text.lower f.variableName) :
    Environment.key? name = some (f.sectionKey ++ "." ++ f.key) := by
  rw [← key?_variableName, Environment.key?, Environment.key?, h]

/-- The last variable that sets the key of a setting decides what the environment gives it, in
whatever order its fields come. -/
theorem valueIn?_environmentLayer (m : Machine) (f : Settings.Field) :
    f.valueIn? m.environmentLayer = (m.env.reverse.find? fun x =>
      Environment.key? x.1 == some (f.sectionKey ++ "." ++ f.key)).map
        fun x => Environment.value x.2 := by
  have horder : Reordered (.table (Environment.layer m.env)) (.table m.environmentLayer) :=
    m.reader.reordered _ _
  have hassigned : ∀ a ∈ assignments m.environmentLayer, a.path = f.steps →
      (Environment.layer m.env).lookup (f.sectionKey ++ "." ++ f.key) = some a.value := by
    intro a ha hpath
    obtain ⟨b, hb, hsame, hvalue⟩ := horder.exists_mem_assignments ha
    obtain ⟨key, hlookup, hkey⟩ := Environment.mem_assignments_layer.1 hb
    have hsteps : keyPath key = f.steps := hkey.symm.trans (hsame.trans hpath)
    rw [hvalue.eq_of_not_table (Environment.of_lookup_layer hlookup).2, ← key_of_keyPath hsteps,
      hlookup]
  rw [← Environment.lookup_layer]
  cases hlookup : (Environment.layer m.env).lookup (f.sectionKey ++ "." ++ f.key) with
  | none =>
    refine Settings.Field.valueIn?_eq_none fun a ha hpath => ?_
    rw [hassigned a ha hpath] at hlookup
    cases hlookup
  | some v =>
    have hv := (Environment.of_lookup_layer hlookup).2
    have hmem : ⟨f.steps, v⟩ ∈ assignments (Environment.layer m.env) :=
      Environment.mem_assignments_layer.2 ⟨_, hlookup, (keyPath_of_field f).symm⟩
    obtain ⟨⟨path, w⟩, ha, hpath, hvalue⟩ := horder.symm.exists_mem_assignments hmem
    obtain rfl : path = f.steps := hpath
    obtain rfl : v = w := hvalue.eq_of_not_table (hvalue.isTable_eq ▸ hv)
    refine Settings.Field.valueIn?_of_unique ha hv fun b hb hpath' => ?_
    exact Option.some.inj ((hassigned b hb hpath').symm.trans hlookup)

/-- Every setting of a run is decided on its own. What the command line says of it comes first.
An undisturbed setting that the command line leaves is read from the value that the highest layer
gives it of those that set it, and has its default where no layer sets it. The layers are, from the
lowest, three files of the working directory, the file of the user if it is there, the file that
is asked for, and the environment, where the last variable that sets the key of the setting decides:
one with the name of the setting, in either case, sets it. An assignment to one setting neither sets
nor disturbs another. -/
theorem settings_of_layers (h : m.RunsUnder o t s) :
    ∃ standing wanted,
      (["typedoc-zig.toml", ".typedoc-zig.toml", "config/typedoc-zig.toml"] ++
          if t.exists? m.cwd (.ofText m.userFile) then [m.userFile] else []).mapM
        (m.fileLayer t false) = .ok standing ∧
      o.config.toList.mapM (m.fileLayer t true) = .ok wanted ∧
      ∀ f : Settings.Field,
        (∀ v, o.override f = some v → f.get s = v) ∧
        (o.override f = none →
          f.Undisturbed (standing ++ wanted ++ [m.environmentLayer]) →
          readSetting f.read (f.get {})
            (f.highest? (standing ++ wanted ++ [m.environmentLayer])) = .ok (f.get s)) ∧
        (f.valueIn? m.environmentLayer = (m.env.reverse.find? fun x =>
          Environment.key? x.1 == some (f.sectionKey ++ "." ++ f.key)).map
            fun x => Environment.value x.2) ∧
        (∀ name, Text.lower name = Text.lower f.variableName →
          Environment.key? name = some (f.sectionKey ++ "." ++ f.key)) ∧
        ∀ g ≠ f, ∀ v, f.setBy? ⟨g.steps, v⟩ = none ∧ ¬f.IsDisturbedBy ⟨g.steps, v⟩ := by
  obtain ⟨loaded, hload, rfl⟩ := h
  obtain ⟨standing, wanted, hstanding, hwanted, hmerged⟩ := layers_of_loadSettings hload
  refine ⟨standing, wanted, hstanding, hwanted, fun f => ⟨fun v hv => ?_, fun hnone hquiet => ?_,
    valueIn?_environmentLayer m f, fun name hname => key?_of_lower hname,
    fun g hg v => ⟨Settings.Field.setBy?_steps_of_ne hg v, f.not_isDisturbedBy_steps g v⟩⟩⟩
  · rw [o.get_apply, hv, Option.getD_some]
  · rw [o.get_apply, hnone, Option.getD_none]
    exact (Settings.Field.shows_layers hquiet).readSetting hmerged

/-- The options and the three files of the samples decide one setting each, and the others have
their defaults. -/
theorem settings_of_layers_samples :
    let o := { sampleOptions "z" with noFormat := true }
    ∃ s, sampleMachine.RunsUnder o (sampleFiles []) s ∧ s.formatter.enabled = false ∧
      s.formatter.command = "sed" ∧ s.formatter.args = ["-i", "d"] ∧
      s.summary.requestSuffix = "Request" := by
  intro o
  have hsamples : HasSamples (sampleFiles []) := hasSamples_sampleFiles rfl
  have hruns : sampleMachine.RunsUnder o (sampleFiles []) (o.apply sampleSettings) :=
    ⟨_, loadSettings_of_samples hsamples, rfl⟩
  obtain ⟨standing, wanted, hstanding, hwanted, hfields⟩ := settings_of_layers hruns
  have hlayers : standing = sampleLayers :=
    Except.ok.inj (hstanding.symm.trans (mapM_fileLayer_of_settings hsamples.toHasSettings))
  obtain rfl : wanted = [] := Except.ok.inj hwanted.symm
  subst hlayers
  have hassigned : (sampleLayers ++ [] ++ [sampleMachine.environmentLayer]).flatMap
      assignments = [⟨Settings.Field.excludePatterns.steps, .array []⟩,
        ⟨Settings.Field.args.steps, .array [.string "-i", .string "d"]⟩,
        ⟨Settings.Field.command.steps, .string "sed"⟩] := rfl
  have hquiet (f : Settings.Field) :
      f.Undisturbed (sampleLayers ++ [] ++ [sampleMachine.environmentLayer]) := by
    refine f.undisturbed_of_steps fun layer hlayer a ha => ?_
    have hmem := hassigned ▸ List.mem_flatMap.2 ⟨layer, hlayer, ha⟩
    simp only [List.mem_cons, List.not_mem_nil, or_false] at hmem
    rcases hmem with rfl | rfl | rfl <;> exact ⟨_, rfl⟩
  refine ⟨_, hruns, (hfields .enabled).1 false rfl, ?_, ?_, ?_⟩
  · exact (Except.ok.inj ((hfields .command).2.1 rfl (hquiet _))).symm
  · exact (Except.ok.inj ((hfields .args).2.1 rfl (hquiet _))).symm
  · exact (Except.ok.inj ((hfields .requestSuffix).2.1 rfl (hquiet _))).symm

/-- A machine with nothing but an environment. -/
def bareMachine (env : List (String × String)) : Machine where
  cwd := []
  env := env
  configHome := "x"
  scratch := "tmp/s"
  launch t _ _ := (t, .exited 0 "")

/-- Two settings files, the lower one first. -/
def twoFiles (lower higher : String) : Tree :=
  .dir [("typedoc-zig.toml", .file lower.toUTF8), (".typedoc-zig.toml", .file higher.toUTF8)]

theorem userFile_bareMachine (env : List (String × String)) :
    (bareMachine env).userFile = "x/typedoc-zig/typedoc-zig.toml" := by
  show FilePath.join "x" "typedoc-zig/typedoc-zig.toml" = _
  decide +kernel

theorem standing_of_twoFiles {lower higher : String} {below above : List (String × Toml)}
    (hbelow : Toml.parse? lower = some below) (habove : Toml.parse? higher = some above)
    (env : List (String × String)) :
    ((bareMachine env).standingFiles (twoFiles lower higher)).mapM
      ((bareMachine env).fileLayer (twoFiles lower higher) false) = .ok [below, above, []] := by
  have hstanding : (bareMachine env).standingFiles (twoFiles lower higher) = standingNames :=
    standingFiles_of_not_exists (by rw [userFile_bareMachine]; rfl)
  have hlower : (bareMachine env).settingsText? (twoFiles lower higher) "typedoc-zig.toml" =
      some (.toml, lower) := settingsText?_of_bytes rfl rfl
  have hhigher : (bareMachine env).settingsText? (twoFiles lower higher) ".typedoc-zig.toml" =
      some (.toml, higher) := settingsText?_of_bytes rfl rfl
  have hsteps : (FilePath.ofText "config/typedoc-zig.toml").steps =
      ["config", "typedoc-zig.toml"] := by decide +kernel
  have hname : (FilePath.ofText "config/typedoc-zig.toml").fileName? =
      some "typedoc-zig.toml" := by decide +kernel
  have hmissing : (bareMachine env).settingsFile? (twoFiles lower higher)
      "config/typedoc-zig.toml" = none :=
    settingsFile?_of_missing rfl hsteps hname (by decide) (by decide) rfl
  have hnone : (bareMachine env).fileLayer (twoFiles lower higher) false
      "config/typedoc-zig.toml" = .ok [] := by
    rw [fileLayer, settingsText?, hmissing]
    rfl
  simp only [hstanding, standingNames, List.mapM_cons, List.mapM_nil, fileLayer_of_text hlower,
    fileLayer_of_text hhigher, hbelow, habove, hnone]
  rfl

theorem layers_of_twoFiles {lower higher : String} {below above : List (String × Toml)}
    (hbelow : Toml.parse? lower = some below) (habove : Toml.parse? higher = some above)
    (env : List (String × String)) :
    (bareMachine env).layers (twoFiles lower higher) none =
      .ok [below, above, [], Environment.layer env] := by
  unfold layers
  rw [standing_of_twoFiles hbelow habove]
  rfl

/-- A run has another value of a setting than the highest layer gives it of those that set it. -/
def Overrules (m : Machine) (t : Tree) (f : Settings.Field) : Prop :=
  ∃ layers s v value, m.layers t none = .ok layers ∧ m.RunsUnder {} t s ∧
    f.highest? layers = some v ∧ f.read v = .ok value ∧ f.get s ≠ value

theorem overrules_of_layers {f : Settings.Field} {layers : List (List (String × Toml))} {v : Toml}
    {value : f.Value} (hlayers : m.layers t none = .ok layers)
    (hload : Settings.ofToml (layers.foldl addLayer (.table [])) = .ok s)
    (hhighest : f.highest? layers = some v) (hread : f.read v = .ok value)
    (hne : f.get s ≠ value) : m.Overrules t f := by
  have hloaded : m.loadSettings t none = .ok s := (loadSettings_of_layers hlayers).trans hload
  have hsame : Options.apply {} s = s := by simp [Options.apply]
  exact ⟨layers, s, v, value, hlayers, ⟨s, hloaded, hsame.symm⟩, hhighest, hread, hne⟩

/-- A variable overrules a file when it changes the setting without setting it. -/
theorem overrules_of_variable {f : Settings.Field} {lower name text key first : String}
    {below : List (String × Toml)} {step : Toml.Step} {path : List Toml.Step} {v : Toml}
    {value : f.Value} (hbelow : Toml.parse? lower = some below)
    (hkey : Environment.key? name = some key)
    (hpath : keyPath (Text.lower key) = .key first :: step :: path)
    (hload : Settings.ofToml (assign (Environment.value text) (.key first :: step :: path)
      (addLayer (.table []) below)) = .ok s)
    (hset : f.setBy? ⟨.key first :: step :: path, Environment.value text⟩ = none)
    (hvalue : f.valueIn? below = some v) (hread : f.read v = .ok value) (hne : f.get s ≠ value) :
    (bareMachine [(name, text)]).Overrules (twoFiles lower "") f := by
  have hempty : Toml.parse? "" = some [] := by cbv
  have hassigned := assignments_of_variable text hkey hpath
  have hmerged : addLayer (addLayer (.table []) below) (Environment.layer [(name, text)]) =
      assign (Environment.value text) (.key first :: step :: path)
        (addLayer (.table []) below) := by
    rw [addLayer_eq_foldl _ (Environment.layer _), hassigned]
    rfl
  have hnone : f.valueIn? (Environment.layer [(name, text)]) = none := by
    rw [Settings.Field.valueIn?, hassigned, List.reverse_singleton, List.findSome?_cons, hset]
    rfl
  refine overrules_of_layers (layers_of_twoFiles hbelow hempty _) ?_ ?_ hread hne
  · simpa only [List.foldl_cons, List.foldl_nil, addLayer_nil, hmerged] using hload
  · simp [Settings.Field.highest?, hnone, hvalue, show f.valueIn? [] = none from rfl]

/-- A layer can change a setting that it does not set: by a section that is an array, by a place of
a section, and by a place of a list. -/
theorem settings_disturbed :
    (bareMachine []).Overrules (twoFiles "formatter.command='x'" "formatter=[]") .command ∧
    (bareMachine [("TYPEDOC_ZIG__FORMATTER[0]", "no")]).Overrules
      (twoFiles "formatter.command='x'" "") .command ∧
    (bareMachine [("TYPEDOC_ZIG__FORMATTER__ARGS[0]", "c")]).Overrules
      (twoFiles "formatter.args=['a','b']" "") .args := by
  have hcommand : Toml.parse? "formatter.command='x'" =
      some [("formatter", .table [("command", .string "x")])] := by cbv
  have hargs : Toml.parse? "formatter.args=['a','b']" =
      some [("formatter", .table [("args", .array [.string "a", .string "b"])])] := by cbv
  have harray : Toml.parse? "formatter=[]" = some [("formatter", .array [])] := by cbv
  have hno : Environment.value "no" = .string "no" := by cbv
  have hc : Environment.value "c" = .string "c" := by cbv
  refine ⟨?_, ?_, ?_⟩
  · exact overrules_of_layers (s := {}) (v := .string "x")
      (layers_of_twoFiles hcommand harray []) rfl rfl rfl (show "zig" ≠ "x" by decide)
  · exact overrules_of_variable (s := { formatter := { enabled := false } }) hcommand
      (show Environment.key? _ = some "formatter[0]" by decide +kernel)
      (show keyPath _ = [.key "formatter", .place 0] by decide +kernel)
      (by rw [hno]; rfl) rfl rfl rfl (show "zig" ≠ "x" by decide)
  · exact overrules_of_variable (s := { formatter := { args := ["c", "b"] } }) hargs
      (show Environment.key? _ = some "formatter.args[0]" by decide +kernel)
      (show keyPath _ = [.key "formatter", .key "args", .place 0] by decide +kernel)
      (by rw [hc]; rfl) rfl rfl rfl (show ["c", "b"] ≠ ["a", "b"] by decide)

end Machine

end ZigReflect
