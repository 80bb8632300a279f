import Mathlib.Data.List.Find
import ZigReflect.Proofs.FileChange
import ZigReflect.Proofs.Splitting
import ZigReflect.Settings.Load

/-!
# Which files the settings come from

The name of a settings file stands for the file itself or for a file of that name with the
ending of a format behind it, which is in the same directory (`FilePath.steps_longer`). Trees that
have the same files at all these paths have the same settings under that name
(`Machine.settingsText?_congr`), so a file that is written elsewhere leaves the settings
(`Machine.loadSettings_of_differsAt`). This holds in whatever order the endings are tried. A path
leads to a place with its own file name (`Tree.getLast?_of_place?`), so a file with a short name is
written elsewhere (`Machine.settings_apart_of_short`).

Making directories adds no files, so it changes no settings file whose name led somewhere
(`Machine.settingsText?_grows`). The file of the user is the one exception: it is looked up
only when its path leads to something, and a directory that is made at that path is something
(`Machine.loadSettings_of_grows`).
-/

namespace ZigReflect

namespace FilePath

open ZigReflect.Text

/-- Pieces that a text can have between its slashes. -/
structure IsSplit (p : FilePath) : Prop where
  ne_nil : p.pieces ≠ []
  noSlash : ∀ piece ∈ p.pieces, '/' ∉ piece.toList
  relative : p.absolute = false → ∀ piece rest, p.pieces ≠ "" :: piece :: rest

theorem isSplit_ofText (s : String) : (ofText s).IsSplit := by
  have hne : (splitAt '/' s.toList).map String.ofList ≠ [] := by
    simpa using splitAt_ne_nil '/' s.toList
  have hslash : ∀ piece ∈ (splitAt '/' s.toList).map String.ofList, '/' ∉ piece.toList := by
    simp only [List.mem_map, forall_exists_index, and_imp]
    rintro _ piece hpiece rfl
    simpa using not_mem_of_mem_splitAt hpiece
  unfold ofText
  split
  · next piece rest heq =>
    rw [heq] at hslash
    exact ⟨by simp, fun q hq => hslash q (List.mem_cons_of_mem _ hq), by simp⟩
  · next heq =>
    exact ⟨hne, hslash, fun _ piece rest h => heq piece rest h⟩

/-- A path of such pieces is read from its text. -/
theorem ofText_text {p : FilePath} (h : p.IsSplit) : ofText p.text = p := by
  obtain ⟨absolute, pieces⟩ := p
  have hjoined : (splitAt '/' (['/'].intercalate (pieces.map String.toList))).map String.ofList =
      pieces := by
    rw [splitAt_intercalate (by simpa using h.ne_nil) (by simpa using h.noSlash)]
    simp
  cases absolute with
  | false =>
    have hchars : (text ⟨false, pieces⟩).toList =
        ['/'].intercalate (pieces.map String.toList) := by
      simp [text, String.toList_intercalate]
    unfold ofText
    rw [hchars, hjoined]
    split
    · next piece rest => exact (h.relative rfl piece rest rfl).elim
    · rfl
  | true =>
    have hchars : (text ⟨true, pieces⟩).toList =
        '/' :: ['/'].intercalate (pieces.map String.toList) := by
      simp [text, String.toList_intercalate]
    obtain ⟨piece, rest, rfl⟩ := List.exists_cons_of_ne_nil h.ne_nil
    unfold ofText
    rw [hchars, splitAt, if_pos rfl, List.map_cons, hjoined]
    rfl

/-- What is dropped at the end of pieces are empty ones and steps to the directory itself, and
it does not end so then. -/
theorem dropVoid_spec (absolute : Bool) : ∀ pieces : List String,
    ∃ voids, pieces = voids ++ dropVoid absolute pieces ∧ (∀ v ∈ voids, v = "" ∨ v = ".") ∧
      (dropVoid absolute pieces).head? ≠ some ""
  | [] => ⟨[], by simp [dropVoid]⟩
  | piece :: rest => by
    rw [dropVoid]
    split
    · next hvoid =>
      obtain ⟨voids, hpieces, hvoids, hhead⟩ := dropVoid_spec absolute rest
      refine ⟨piece :: voids, by rw [List.cons_append, ← hpieces], ?_, hhead⟩
      intro v hv
      rcases List.mem_cons.1 hv with rfl | hv
      · simp only [Bool.or_eq_true, beq_iff_eq, Bool.and_eq_true] at hvoid
        exact hvoid.imp_right And.left
      · exact hvoids v hv
    · next hvoid => exact ⟨[], rfl, by simp, by simp_all⟩

/-- The file name with what stands before it and what says nothing after it. -/
theorem pieces_of_fileName? {p : FilePath} {name : String} (h : p.fileName? = some name) :
    ∃ before voids, p.trimmed.pieces = before ++ [name] ∧ p.pieces = before ++ name :: voids ∧
      (∀ v ∈ voids, v = "" ∨ v = ".") ∧ name ≠ "" ∧ name ≠ ".." := by
  obtain ⟨voids, hpieces, hvoids, hhead⟩ := dropVoid_spec p.absolute p.pieces.reverse
  obtain ⟨hlast, hdots⟩ := Option.filter_eq_some_iff.1 h
  rw [trimmed, List.getLast?_reverse] at hlast
  obtain ⟨before, hbefore⟩ : ∃ before, dropVoid p.absolute p.pieces.reverse = name :: before :=
    List.head?_eq_some_iff.1 hlast
  rw [hbefore] at hpieces hhead
  refine ⟨before.reverse, voids.reverse, by simp [trimmed, hbefore], ?_, by simpa using hvoids,
    by simpa using hhead, ?_⟩
  · rw [← List.reverse_reverse p.pieces, hpieces]
    simp
  · rintro rfl
    simp [isDots] at hdots

theorem text_append {absolute : Bool} {before : List String} {last : String} (more : String) :
    text ⟨absolute, before ++ [last]⟩ ++ more = text ⟨absolute, before ++ [last ++ more]⟩ := by
  have hjoin : "/".intercalate (before ++ [last]) ++ more =
      "/".intercalate (before ++ [last ++ more]) := by
    induction before with
    | nil => simp
    | cons piece before ih =>
      cases before <;> simp_all [String.intercalate_cons_cons, String.append_assoc]
  rw [text, text, String.append_assoc, hjoin]

/-- The characters behind the last slash are in the last piece. -/
theorem pieces_of_suffix {p more : String} (h : more.toList <:+ p.toList)
    (hmore : '/' ∉ more.toList) :
    ∃ before last, (ofText p).pieces = before ++ [String.ofList (last ++ more.toList)] := by
  obtain ⟨front, hfront⟩ := h
  obtain ⟨before, last, hsplit⟩ := Text.splitAt_append_of_not_mem hmore front
  unfold ofText
  rw [← hfront, hsplit, List.map_append, List.map_singleton]
  split
  · next piece rest heq =>
    cases before with
    | nil => simp at heq
    | cons first before => exact ⟨before.map String.ofList, last, (List.cons.inj heq).2.symm⟩
  · exact ⟨before.map String.ofList, last, rfl⟩

/-- A last piece that is a name is the name of the file. -/
theorem fileName?_of_pieces {p : FilePath} {before : List String} {name : String}
    (h : p.pieces = before ++ [name]) (hempty : name ≠ "") (hdots : isDots name = false) :
    p.fileName? = some name := by
  have hdot : name ≠ "." := by
    rintro rfl
    cases hdots
  have htrimmed : p.trimmed.pieces = before ++ [name] := by
    rw [trimmed, h, List.reverse_append, List.reverse_singleton, List.singleton_append, dropVoid,
      if_neg (by simp [hempty, hdot])]
    simp
  rw [fileName?, htrimmed, List.getLast?_concat]
  simp [hdots]

/-- A path that ends with a text has a file name that ends with it, if the text is longer than the
steps that lead up or nowhere. -/
theorem fileName?_of_suffix {p more : String} (h : more.toList <:+ p.toList)
    (hslash : '/' ∉ more.toList) (hlong : 2 < more.length) :
    ∃ front, (ofText p).fileName? = some (front ++ more) := by
  obtain ⟨before, last, hpieces⟩ := pieces_of_suffix h hslash
  have hname : String.ofList (last ++ more.toList) = String.ofList last ++ more := by
    rw [String.ofList_append, String.ofList_toList]
  rw [hname] at hpieces
  have hne (short : String) (hshort : short.length ≤ 2) : String.ofList last ++ more ≠ short := by
    rintro rfl
    rw [String.length_append] at hshort
    omega
  have hdots : isDots (String.ofList last ++ more) = false := by
    simp [isDots, hne "." (by decide), hne ".." (by decide)]
  exact ⟨String.ofList last, fileName?_of_pieces hpieces (hne "" (by decide)) hdots⟩

/-- The longer name has the pieces of the name, up to the file name. -/
theorem ofText_longer {name last ending : String} (h : (ofText name).fileName? = some last)
    (hend : ending ∈ SettingsFormat.allEndings) :
    ∃ before voids, (ofText name).pieces = before ++ last :: voids ∧
      (∀ v ∈ voids, v = "" ∨ v = ".") ∧ last ≠ "" ∧ last ≠ ".." ∧
      ofText (longer name ending) =
        ⟨(ofText name).absolute, before ++ [last ++ ("." ++ ending)]⟩ := by
  obtain ⟨before, voids, htrimmed, hpieces, hvoids, hempty, hdots⟩ := pieces_of_fileName? h
  have hsplit := isSplit_ofText name
  have hendings : ∀ ending ∈ SettingsFormat.allEndings, '/' ∉ ending.toList := by decide
  have htext : longer name ending =
      text ⟨(ofText name).absolute, before ++ [last ++ ("." ++ ending)]⟩ := by
    rw [longer, ← text_append, ← htrimmed, String.append_assoc]
    rfl
  refine ⟨before, voids, hpieces, hvoids, hempty, hdots, ?_⟩
  rw [htext]
  refine ofText_text ⟨by simp, ?_, ?_⟩
  · intro piece hpiece
    rcases List.mem_append.1 hpiece with hpiece | hpiece
    · exact hsplit.noSlash piece (hpieces ▸ List.mem_append_left _ hpiece)
    · have hlast := hsplit.noSlash last (by simp [hpieces])
      rw [List.mem_singleton.1 hpiece, String.toList_append, String.toList_append]
      simp [hlast, hendings ending hend]
  · intro hrel piece rest heq
    cases before with
    | nil => simp_all
    | cons first before =>
      have hfirst : first = "" := (List.cons.inj heq).1
      cases before <;> exact hsplit.relative hrel _ _ (by rw [hpieces, hfirst]; rfl)

/-- With the ending of a format, a name is longer than the steps that lead up or nowhere. -/
theorem isDots_longer (last : String) {ending : String}
    (hend : ending ∈ SettingsFormat.allEndings) : isDots (last ++ ("." ++ ending)) = false := by
  have hendings : ∀ ending ∈ SettingsFormat.allEndings, 2 ≤ ending.length := by decide
  have hlength := hendings ending hend
  by_contra hdots
  have hshort : (last ++ ("." ++ ending)).length ≤ 2 := by
    simp only [isDots, Bool.not_eq_false, Bool.or_eq_true, beq_iff_eq] at hdots
    rcases hdots with h | h <;> rw [h] <;> decide
  rw [String.length_append, String.length_append, show ".".length = 1 from rfl] at hshort
  omega

/-- The longer name is that of a file in the same directory. -/
theorem steps_longer {name last ending : String} (h : (ofText name).fileName? = some last)
    (hend : ending ∈ SettingsFormat.allEndings) :
    (ofText (longer name ending)).absolute = (ofText name).absolute ∧
      ∃ before voids, (ofText name).steps = before ++ last :: voids ∧
        (ofText (longer name ending)).steps = before ++ [last ++ ("." ++ ending)] ∧
        ".." ∉ last :: voids ∧ last ++ ("." ++ ending) ≠ ".." := by
  obtain ⟨before, voids, hpieces, hvoids, hempty, hdots, hlonger⟩ := ofText_longer h hend
  have hlong : last ++ ("." ++ ending) ≠ "" := by simp
  refine ⟨by rw [hlonger], before.filter (· != ""), voids.filter (· != ""), ?_, ?_, ?_, ?_⟩
  · simp [steps, hpieces, hempty]
  · simp [steps, hlonger, hlong]
  · simp only [List.mem_cons, not_or, List.mem_filter]
    refine ⟨Ne.symm hdots, fun hmem => ?_⟩
    rcases hvoids _ hmem.1 with h | h <;> exact absurd h (by decide)
  · intro h
    have hnot := isDots_longer last hend
    rw [h] at hnot
    cases hnot

theorem fileName?_longer {name last ending : String} (h : (ofText name).fileName? = some last)
    (hend : ending ∈ SettingsFormat.allEndings) :
    (ofText (longer name ending)).fileName? = some (last ++ ("." ++ ending)) := by
  obtain ⟨before, -, -, -, -, -, hlonger⟩ := ofText_longer h hend
  rw [hlonger]
  exact fileName?_of_pieces rfl (by simp) (isDots_longer last hend)

/-- What stands behind the file name in the steps leads to the directory itself. -/
theorem steps_of_fileName? {p : FilePath} {name : String} (h : p.fileName? = some name) :
    ∃ before voids, p.steps = before ++ name :: voids ∧ (∀ v ∈ voids, v = ".") := by
  obtain ⟨before, voids, -, hpieces, hvoids, hempty, -⟩ := pieces_of_fileName? h
  refine ⟨before.filter (· != ""), voids.filter (· != ""), by simp [steps, hpieces, hempty], ?_⟩
  intro v hv
  obtain ⟨hmem, hne⟩ := List.mem_filter.1 hv
  exact (hvoids v hmem).resolve_left (by simpa using hne)

end FilePath

/-! ## Paths in a tree with more directories -/

namespace Tree

variable {t t' : Tree} {cwd : Location} {path path' : String}

/-- A path leads to the same file in both trees, or to none. -/
def SameFile (t t' : Tree) (cwd : Location) (path : String) : Prop :=
  ∀ l bytes, t.LeadsTo cwd (.ofText path) (.file l bytes) ↔
    t'.LeadsTo cwd (.ofText path) (.file l bytes)

/-- The first steps of a path lead to a directory, and the others do not go up. -/
def Anchored (t : Tree) (cwd : Location) (path : String) : Prop :=
  ∃ first rest d, (FilePath.ofText path).steps = first ++ rest ∧ ".." ∉ rest ∧
    t.Leads (startOf cwd (.ofText path)) first (.dir d)

theorem anchored_of_names (hcwd : t.content? cwd = some .dir)
    (h : ".." ∉ (FilePath.ofText path).steps) : t.Anchored cwd path :=
  ⟨[], _, _, rfl, h, .dir (content?_startOf hcwd _)⟩

theorem anchored_of_leadsTo (hcwd : t.content? cwd = some .dir) {r : Spot}
    (h : t.LeadsTo cwd (.ofText path) r) : t.Anchored cwd path := by
  rcases List.eq_nil_or_concat (FilePath.ofText path).steps with hnil | ⟨first, last, hsteps⟩
  · exact anchored_of_names hcwd (by simp [hnil])
  rw [List.concat_eq_append] at hsteps
  by_cases hup : last = ".."
  · obtain ⟨d, rfl⟩ := h.2.1.dir_of_dots (by simp [hsteps, hup, FilePath.isDots])
    exact ⟨_, [], d, (List.append_nil _).symm, by simp, h.2.1⟩
  · have hleads := h.2.1
    rw [hsteps] at hleads
    obtain ⟨d, hfirst, -⟩ := hleads.split (by simp)
    exact ⟨first, [last], d, hsteps, by simpa using Ne.symm hup, hfirst⟩

/-- Of two paths that have their first steps in common, the one is anchored if the other one is
and the steps it has for itself do not go up. The directory is reached before the paths part, or
after that. -/
theorem Anchored.of_steps {shared rest rest' : List String} (h : t.Anchored cwd path)
    (hstart : startOf cwd (.ofText path') = startOf cwd (.ofText path))
    (hsteps : (FilePath.ofText path).steps = shared ++ rest)
    (hsteps' : (FilePath.ofText path').steps = shared ++ rest')
    (hrest' : ".." ∉ rest') : t.Anchored cwd path' := by
  obtain ⟨first, last, d, hpath, hlast, hfirst⟩ := h
  rcases List.append_eq_append_iff.1 (hpath.symm.trans hsteps) with
    ⟨more, rfl, rfl⟩ | ⟨more, rfl, rfl⟩
  · refine ⟨first, more ++ rest', d, by rw [hsteps', List.append_assoc], ?_, hstart ▸ hfirst⟩
    simp_all
  · cases more with
    | nil =>
      rw [List.append_nil] at hfirst
      exact ⟨shared, rest', d, hsteps', hrest', hstart ▸ hfirst⟩
    | cons step more =>
      obtain ⟨d', hshared, -⟩ := hfirst.split (by simp)
      exact ⟨shared, rest', d', hsteps', hrest', hstart ▸ hshared⟩

/-- Directories that are made add no file at an anchored path. -/
theorem Anchored.sameFile (hgrows : Grows t t') (h : t.Anchored cwd path) :
    SameFile t t' cwd path := by
  obtain ⟨first, rest, d, hsteps, hrest, hfirst⟩ := h
  refine fun l bytes => ⟨fun hleads => hgrows.leadsTo hleads trivial, fun hleads => ?_⟩
  obtain ⟨hpath, hleads, hslash⟩ := hleads
  rw [hsteps] at hleads
  have hlast := hgrows.leads_of_file ((hgrows.leads hfirst trivial).rest hleads) hrest
  refine ⟨hpath, ?_, hslash⟩
  rw [hsteps]
  exact hfirst.append hlast

theorem anchored_longer_iff {name last ending : String}
    (h : (FilePath.ofText name).fileName? = some last) (hend : ending ∈ SettingsFormat.allEndings) :
    t.Anchored cwd (FilePath.longer name ending) ↔ t.Anchored cwd name := by
  obtain ⟨habsolute, before, voids, hsteps, hlonger, hup, hlong⟩ := FilePath.steps_longer h hend
  have hstart : startOf cwd (.ofText (FilePath.longer name ending)) =
      startOf cwd (.ofText name) := by
    rw [startOf, startOf, habsolute]
  exact ⟨fun ha => ha.of_steps hstart.symm hlonger hsteps hup,
    fun ha => ha.of_steps hstart hsteps hlonger (by simpa using Ne.symm hlong)⟩

/-- There is no file in a directory that is not there. -/
theorem isFile_of_missing (hcwd : t.content? cwd = some .dir) {p : FilePath} {first next : String}
    {rest : List String} (hsteps : p.steps = first :: next :: rest)
    (hdots : FilePath.isDots first = false)
    (hmissing : t.content? (startOf cwd p ++ [first]) = none) : t.isFile cwd p = false := by
  rw [← Bool.not_eq_true, isFile_iff hcwd]
  rintro ⟨l, bytes, hleads⟩
  have hwhole := hleads.2.1
  rw [hsteps] at hwhole
  cases hwhole with
  | stay _ _ => cases hdots
  | up _ _ => cases hdots
  | down _ _ hnext =>
    obtain ⟨c, hc⟩ := hnext.content?_start
    rw [hmissing] at hc
    cases hc

/-- Steps to the directory itself lead nowhere else. -/
theorem Leads.location_of_voids {here : Location} : ∀ {steps : List String} {r : Spot},
    t.Leads here steps r → (∀ step ∈ steps, step = ".") → r.location = here
  | [], _, h, _ => by cases h <;> rfl
  | step :: rest, r, h, hvoids => by
    obtain ⟨rfl, hrest⟩ := List.forall_mem_cons.1 hvoids
    rcases h.cons_inv with ⟨-, hnext⟩ | ⟨heq, -⟩ | ⟨hname, -⟩
    · exact hnext.location_of_voids hrest
    · exact absurd heq (by decide)
    · exact (hname.1 rfl).elim

/-- A path with a file name leads to a place with this name. -/
theorem getLast?_of_place? (hcwd : t.content? cwd = some .dir) {name : String} {l : Location}
    (h : (FilePath.ofText path).fileName? = some name) (hplace : t.place? cwd path = some l) :
    l.getLast? = some name := by
  obtain ⟨r, hleads, rfl⟩ := (place?_eq_some hcwd).1 hplace
  obtain ⟨before, voids, hsteps, hvoids⟩ := FilePath.steps_of_fileName? h
  have hdots : FilePath.isDots name = false := by simpa using (Option.filter_eq_some_iff.1 h).2
  have hwhole := hleads.2.1
  rw [hsteps] at hwhole
  obtain ⟨d, -, hlast⟩ := Leads.split (List.cons_ne_nil name voids) hwhole
  cases hlast with
  | stay _ _ => cases hdots
  | up _ _ => cases hdots
  | down _ _ next => rw [next.location_of_voids hvoids, List.getLast?_concat]
  | vacant _ _ _ => exact List.getLast?_concat

/-- Paths with different file names lead to different places. -/
theorem place?_ne (hcwd : t.content? cwd = some .dir) {name name' : String} {l : Location}
    (h : (FilePath.ofText path).fileName? = some name)
    (h' : (FilePath.ofText path').fileName? = some name') (hne : name ≠ name')
    (hplace : t.place? cwd path' = some l) : t.place? cwd path ≠ t.place? cwd path' := by
  intro heq
  have hlast := getLast?_of_place? hcwd h (heq.trans hplace)
  rw [getLast?_of_place? hcwd h' hplace] at hlast
  exact hne (Option.some.inj hlast).symm

theorem SameFile.isFile (h : SameFile t t' cwd path) (hcwd : t.content? cwd = some .dir)
    (hcwd' : t'.content? cwd = some .dir) :
    t'.isFile cwd (.ofText path) = t.isFile cwd (.ofText path) := by
  rw [Bool.eq_iff_iff, isFile_iff hcwd, isFile_iff hcwd']
  exact exists_congr fun l => exists_congr fun bytes => (h l bytes).symm

theorem SameFile.readText (h : SameFile t t' cwd path) (hcwd : t.content? cwd = some .dir)
    (hcwd' : t'.content? cwd = some .dir) {text : String} :
    t'.readText cwd path = .ok text ↔ t.readText cwd path = .ok text := by
  rw [readText_iff hcwd, readText_iff hcwd']
  exact exists_congr fun l => exists_congr fun bytes => and_congr_left' (h l bytes).symm

end Tree

/-! ## Layers of settings -/

namespace Machine

open ZigReflect.Tree

variable {m : Machine} {t t' : Tree} {asked : Option String}

/-- The paths that can be looked at for the name of a settings file. -/
def settingsPathsOf (m : Machine) (t : Tree) (name : String) : List String :=
  if m.isFile t name then [name]
  else name :: SettingsFormat.allEndings.map (FilePath.longer name)

/-- The paths that can be looked at for settings. -/
def settingsPaths (m : Machine) (t : Tree) (asked : Option String) : List String :=
  m.userFile :: (m.standingFiles t ++ asked.toList).flatMap (m.settingsPathsOf t)

/-- The names that are tried have the endings of the formats. -/
theorem mem_longerNames {r : SettingsReader} {name : String} {x : String × SettingsFormat}
    (h : x ∈ r.longerNames name) :
    ∃ ending ∈ SettingsFormat.allEndings, x.1 = FilePath.longer name ending := by
  obtain ⟨format, -, hx⟩ := List.mem_flatMap.1 h
  obtain ⟨ending, hending, rfl⟩ := List.mem_map.1 hx
  have hall : format ∈ SettingsFormat.all := by cases format <;> decide
  exact ⟨ending, List.mem_flatMap.2 ⟨format, hall, hending⟩, rfl⟩

/-- Every name with the ending of a format is tried. -/
theorem exists_mem_longerNames (r : SettingsReader) {name ending : String}
    (h : ending ∈ SettingsFormat.allEndings) :
    ∃ x ∈ r.longerNames name, x.1 = FilePath.longer name ending := by
  obtain ⟨format, -, hending⟩ := List.mem_flatMap.1 h
  exact ⟨(FilePath.longer name ending, format),
    List.mem_flatMap.2 ⟨format, r.mem_formats format, List.mem_map_of_mem hending⟩, rfl⟩

theorem settingsFile?_of_isFile {name : String} (h : m.isFile t name = true) :
    m.settingsFile? t name =
      ((FilePath.ofText name).extension?.bind SettingsFormat.ofEnding?).map (name, ·) := by
  simp [settingsFile?, h]

theorem settingsFile?_of_not_isFile {name : String} (h : m.isFile t name = false) :
    m.settingsFile? t name = (FilePath.ofText name).fileName?.bind fun _ =>
      (m.reader.longerNames name).find? fun x => m.isFile t x.1 := by
  cases hname : (FilePath.ofText name).fileName? with
  | none => simp [settingsFile?, h, hname]
  | some last =>
    simp only [settingsFile?, h, hname, Bool.false_eq_true, if_false, Option.isNone_some,
      Option.bind_some]

/-- Whether a name that is no file stands for a settings file does not depend on the order in which
the formats are tried. -/
theorem settingsFile?_eq_none_iff {name : String} (h : m.isFile t name = false) :
    m.settingsFile? t name = none ↔ (FilePath.ofText name).fileName? = none ∨
      ∀ ending ∈ SettingsFormat.allEndings, m.isFile t (FilePath.longer name ending) = false := by
  rw [settingsFile?_of_not_isFile h]
  cases (FilePath.ofText name).fileName? with
  | none => simp
  | some last =>
    rw [Option.bind_some, List.find?_eq_none]
    simp only [reduceCtorEq, false_or, Bool.not_eq_true]
    constructor
    · intro hnone ending hending
      obtain ⟨x, hx, hlonger⟩ := exists_mem_longerNames m.reader hending
      exact hlonger ▸ hnone x hx
    · intro hnone x hx
      obtain ⟨ending, hending, hlonger⟩ := mem_longerNames hx
      exact hlonger ▸ hnone ending hending

/-- A name in a directory that is not there stands for no settings file. -/
theorem settingsFile?_of_missing (hcwd : t.content? m.cwd = some .dir) {name : String}
    {first next last : String} {rest : List String}
    (hsteps : (FilePath.ofText name).steps = first :: next :: rest)
    (hlast : (FilePath.ofText name).fileName? = some last) (hne : last ≠ first)
    (hdots : FilePath.isDots first = false)
    (hmissing : t.content? (startOf m.cwd (.ofText name) ++ [first]) = none) :
    m.settingsFile? t name = none := by
  rw [settingsFile?_eq_none_iff (isFile_of_missing hcwd hsteps hdots hmissing)]
  refine .inr fun ending hending => ?_
  obtain ⟨habsolute, before, voids, hname, hlonger, -⟩ := FilePath.steps_longer hlast hending
  rw [startOf, ← habsolute, ← startOf] at hmissing
  cases before with
  | nil => exact (hne (List.cons.inj (hname.symm.trans hsteps)).1).elim
  | cons step before =>
    obtain rfl : step = first := (List.cons.inj (hname.symm.trans hsteps)).1
    obtain ⟨second, more, hmore⟩ :=
      List.exists_cons_of_ne_nil (List.append_ne_nil_of_right_ne_nil before
        (List.cons_ne_nil (last ++ ("." ++ ending)) []))
    rw [List.cons_append, hmore] at hlonger
    exact isFile_of_missing hcwd hlonger hdots hmissing

/-- Machines that differ in their readers look at the same files for the name of a settings file. -/
theorem settingsFile?_eq_none_congr (reader : SettingsReader) {name : String} :
    { m with reader }.settingsFile? t name = none ↔ m.settingsFile? t name = none := by
  rcases Bool.eq_false_or_eq_true (m.isFile t name) with hn | hn
  · rw [settingsFile?_of_isFile hn, settingsFile?_of_isFile (m := { m with reader }) hn]
  · rw [settingsFile?_eq_none_iff hn, settingsFile?_eq_none_iff (m := { m with reader }) hn]
    exact Iff.rfl

theorem mapM_congr {α β ε : Type} {f g : α → Except ε β} :
    ∀ {xs : List α}, (∀ x ∈ xs, f x = g x) → xs.mapM f = xs.mapM g
  | [], _ => rfl
  | x :: xs, h => by
    rw [List.mapM_cons, List.mapM_cons, h x (List.mem_cons_self ..),
      mapM_congr fun y hy => h y (List.mem_cons_of_mem _ hy)]

theorem fileLayer_congr {name : String} (h : m.settingsText? t' name = m.settingsText? t name)
    (required : Bool) : m.fileLayer t' required name = m.fileLayer t required name := by
  unfold fileLayer
  rw [h]

theorem loadSettings_of_layers {found : List (List (String × Toml))}
    (h : m.layers t asked = .ok found) :
    m.loadSettings t asked = Settings.ofToml (found.foldl Toml.addLayer (.table [])) := by
  unfold loadSettings
  rw [h]
  rfl

/-- The same texts under the same names are the same settings. -/
theorem loadSettings_congr (hstanding : m.standingFiles t' = m.standingFiles t)
    (h : ∀ name ∈ m.standingFiles t ++ asked.toList,
      m.settingsText? t' name = m.settingsText? t name) :
    m.loadSettings t' asked = m.loadSettings t asked := by
  have hlayers : m.layers t' asked = m.layers t asked := by
    unfold layers
    rw [hstanding,
      mapM_congr fun name hname => fileLayer_congr (h name (List.mem_append_left _ hname)) false,
      mapM_congr fun name hname => fileLayer_congr (h name (List.mem_append_right _ hname)) true]
  unfold loadSettings
  rw [hlayers]

/-- One more standing file that is not there sets nothing. -/
theorem loadSettings_congr_of_absent {extra : String}
    (hstanding : m.standingFiles t' = m.standingFiles t ++ [extra])
    (hextra : m.settingsText? t' extra = none)
    (h : ∀ name ∈ m.standingFiles t ++ asked.toList,
      m.settingsText? t' name = m.settingsText? t name) :
    m.loadSettings t' asked = m.loadSettings t asked := by
  have hlayer : m.fileLayer t' false extra = .ok [] := by
    simp [fileLayer, hextra]
  unfold loadSettings layers
  rw [hstanding, List.mapM_append, List.mapM_cons, hlayer,
    mapM_congr fun name hname => fileLayer_congr (h name (List.mem_append_left _ hname)) false,
    mapM_congr fun name hname => fileLayer_congr (h name (List.mem_append_right _ hname)) true]
  cases (m.standingFiles t).mapM (m.fileLayer t false) with
  | error e => rfl
  | ok standing =>
    cases asked.toList.mapM (m.fileLayer t true) with
    | error e => rfl
    | ok wanted =>
      simp [bind, Except.bind, pure, Except.pure, List.foldl_append, Toml.addLayer]

/-- The file that is asked for is there when the settings have been loaded. -/
theorem settingsText?_of_asked {name : String} {loaded : Settings}
    (h : m.loadSettings t (some name) = .ok loaded) :
    ∃ text, m.settingsText? t name = some text := by
  cases htext : m.settingsText? t name with
  | some text => exact ⟨text, rfl⟩
  | none =>
    have hlayer : m.fileLayer t true name = .error (.unavailable name) := by
      simp [fileLayer, htext]
    unfold loadSettings layers at h
    cases hstanding : (m.standingFiles t).mapM (m.fileLayer t false) with
    | error e => simp [hstanding, bind, Except.bind] at h
    | ok standing => simp [hstanding, hlayer, bind, Except.bind] at h

/-- The names of settings files in the working directory. -/
def standingNames : List String :=
  ["typedoc-zig.toml", ".typedoc-zig.toml", "config/typedoc-zig.toml"]

theorem standingFiles_of_exists (h : t.exists? m.cwd (.ofText m.userFile) = true) :
    m.standingFiles t = standingNames ++ [m.userFile] := by
  simp [standingFiles, h, standingNames]

theorem standingFiles_of_not_exists (h : t.exists? m.cwd (.ofText m.userFile) = false) :
    m.standingFiles t = standingNames := by
  simp [standingFiles, h, standingNames]

theorem suffix_userFile (m : Machine) : "typedoc-zig.toml".toList <:+ m.userFile.toList := by
  have hfile : "typedoc-zig.toml".toList <:+ "typedoc-zig/typedoc-zig.toml".toList := by decide
  have hjoined (dir : String) : "typedoc-zig.toml".toList <:+
      (dir ++ "typedoc-zig/typedoc-zig.toml").toList := by
    rw [String.toList_append]
    exact hfile.trans (List.suffix_append ..)
  unfold userFile FilePath.join
  split
  · exact hfile
  split
  · exact hjoined _
  · exact hjoined _

/-- The standing files have the same file name, but for what stands before it. -/
theorem fileName?_of_mem_standingFiles {name : String}
    (h : name ∈ m.userFile :: m.standingFiles t) :
    ∃ front, (FilePath.ofText name).fileName? = some (front ++ "typedoc-zig.toml") := by
  have hnames : ∀ name ∈ standingNames, "typedoc-zig.toml".toList <:+ name.toList := by decide
  have hsuffix : "typedoc-zig.toml".toList <:+ name.toList := by
    rcases Bool.eq_false_or_eq_true (t.exists? m.cwd (.ofText m.userFile)) with hthere | hgone
    · rw [standingFiles_of_exists hthere] at h
      simp only [List.mem_cons, List.mem_append, List.not_mem_nil, or_false] at h
      rcases h with rfl | h | rfl
      · exact m.suffix_userFile
      · exact hnames _ h
      · exact m.suffix_userFile
    · rw [standingFiles_of_not_exists hgone] at h
      rcases List.mem_cons.1 h with rfl | h
      · exact m.suffix_userFile
      · exact hnames _ h
  exact FilePath.fileName?_of_suffix hsuffix (by decide) (by decide)

/-- A path that is looked at for settings, and not asked for, has the file name of the standing
files in its own. -/
theorem fileName?_of_mem_settingsPaths {path : String} (h : path ∈ m.settingsPaths t none) :
    ∃ front back, (FilePath.ofText path).fileName? = some (front ++ "typedoc-zig.toml" ++ back) := by
  have hstanding {name : String} (hname : name ∈ m.userFile :: m.standingFiles t) :
      ∃ front back,
        (FilePath.ofText name).fileName? = some (front ++ "typedoc-zig.toml" ++ back) := by
    obtain ⟨front, hfront⟩ := fileName?_of_mem_standingFiles hname
    exact ⟨front, "", by rw [hfront, String.append_empty]⟩
  rcases List.mem_cons.1 h with rfl | h
  · exact hstanding (List.mem_cons_self ..)
  obtain ⟨name, hname, hpath⟩ := List.mem_flatMap.1 h
  have hmem : name ∈ m.userFile :: m.standingFiles t :=
    List.mem_cons_of_mem _ (by simpa using hname)
  unfold settingsPathsOf at hpath
  split at hpath
  · rw [List.mem_singleton.1 hpath]
    exact hstanding hmem
  rcases List.mem_cons.1 hpath with rfl | hpath
  · exact hstanding hmem
  obtain ⟨ending, hending, rfl⟩ := List.mem_map.1 hpath
  obtain ⟨front, hfront⟩ := fileName?_of_mem_standingFiles hmem
  exact ⟨front, "." ++ ending, FilePath.fileName?_longer hfront hending⟩

/-- A file whose name is too short for a settings file is apart from those. -/
theorem settings_apart_of_short (hcwd : t.content? m.cwd = some .dir) {path name : String}
    {l : Location} (hname : (FilePath.ofText path).fileName? = some name)
    (hshort : name.length < "typedoc-zig.toml".length) (hplace : t.place? m.cwd path = some l) :
    ∀ other ∈ m.settingsPaths t none, t.place? m.cwd other ≠ t.place? m.cwd path := by
  intro other hmem
  obtain ⟨front, back, hother⟩ := fileName?_of_mem_settingsPaths hmem
  refine place?_ne hcwd hother hname ?_ hplace
  rintro rfl
  rw [String.length_append, String.length_append] at hshort
  omega

section

variable (hcwd : t.content? m.cwd = some .dir) (hcwd' : t'.content? m.cwd = some .dir)
include hcwd hcwd'

theorem readText_toOption {path : String} (h : SameFile t t' m.cwd path) :
    (m.readText t' path).toOption = (m.readText t path).toOption := by
  have hiff : ∀ text, m.readText t' path = .ok text ↔ m.readText t path = .ok text :=
    fun _ => h.readText hcwd hcwd'
  cases ht : m.readText t path with
  | ok text => rw [(hiff text).2 ht]
  | error e =>
    cases ht' : m.readText t' path with
    | ok text => simp [(hiff text).1 ht'] at ht
    | error e' => rfl

/-- The same files at the paths that are looked at hold the same text. -/
theorem settingsText?_congr {name : String} (hname : SameFile t t' m.cwd name)
    (hlonger : m.isFile t name = false → ∀ last, (FilePath.ofText name).fileName? = some last →
      ∀ ending ∈ SettingsFormat.allEndings, SameFile t t' m.cwd (FilePath.longer name ending)) :
    m.settingsText? t' name = m.settingsText? t name := by
  have hisFile : m.isFile t' name = m.isFile t name := hname.isFile hcwd hcwd'
  unfold settingsText?
  rcases Bool.eq_false_or_eq_true (m.isFile t name) with hn | hn
  · rw [settingsFile?_of_isFile hn, settingsFile?_of_isFile (hisFile.trans hn), Option.bind_map,
      Option.bind_map]
    simp only [Function.comp_def, readText_toOption hcwd hcwd' hname]
  · rw [settingsFile?_of_not_isFile hn, settingsFile?_of_not_isFile (hisFile.trans hn)]
    cases hlast : (FilePath.ofText name).fileName? with
    | none => simp only [Option.bind_none]
    | some last =>
      have hsame : ∀ x ∈ m.reader.longerNames name, SameFile t t' m.cwd x.1 := by
        intro x hx
        obtain ⟨ending, hending, hx⟩ := mem_longerNames hx
        exact hx ▸ hlonger hn last hlast ending hending
      have hfind : ((m.reader.longerNames name).find? fun x => m.isFile t' x.1) =
          (m.reader.longerNames name).find? fun x => m.isFile t x.1 :=
        List.find?_congr fun x hx => (hsame x hx).isFile hcwd hcwd'
      rw [Option.bind_some, Option.bind_some, hfind]
      cases hfound : (m.reader.longerNames name).find? fun x => m.isFile t x.1 with
      | none => simp only [Option.bind_none]
      | some x =>
        have hx := hsame x (List.mem_of_find?_eq_some hfound)
        rw [Option.bind_some, Option.bind_some, readText_toOption hcwd hcwd' hx]

end

section

variable (hcwd : t.content? m.cwd = some .dir)
include hcwd

/-- A file at a path that is not looked at for settings leaves the text of every settings file. -/
theorem settingsText?_of_differsAt {l : Location} {bytes : ByteArray} (h : DiffersAt t t' l)
    (hfile : t'.content? l = some (.file bytes))
    (hpaths : ∀ path ∈ m.settingsPaths t asked, t.place? m.cwd path ≠ some l) :
    m.standingFiles t' = m.standingFiles t ∧
      ∀ name ∈ m.standingFiles t ++ asked.toList,
        m.settingsText? t' name = m.settingsText? t name := by
  have hcwd' := h.content?_dir hcwd
  have hsame : ∀ path ∈ m.settingsPaths t asked, SameFile t t' m.cwd path :=
    fun path hpath _ _ => h.leadsTo_iff hcwd hfile (hpaths path hpath)
  have hmem : ∀ {name path}, name ∈ m.standingFiles t ++ asked.toList →
      path ∈ m.settingsPathsOf t name → path ∈ m.settingsPaths t asked :=
    fun hname hpath => List.mem_cons_of_mem _ (List.mem_flatMap.2 ⟨_, hname, hpath⟩)
  have huser : t'.exists? m.cwd (.ofText m.userFile) = t.exists? m.cwd (.ofText m.userFile) := by
    rw [Bool.eq_iff_iff, exists?_iff hcwd, exists?_iff hcwd']
    exact exists_congr fun r => and_congr_left'
      (h.leadsTo_iff hcwd hfile (hpaths _ (List.mem_cons_self ..))).symm
  refine ⟨by rw [standingFiles, standingFiles, huser], fun name hname => ?_⟩
  refine settingsText?_congr hcwd hcwd' (hsame _ (hmem hname ?_)) fun hn _ _ ending hending =>
    hsame _ (hmem hname ?_)
  · unfold settingsPathsOf
    split <;> simp
  · rw [settingsPathsOf, hn]
    exact List.mem_cons_of_mem _ (List.mem_map_of_mem hending)

/-- A file at a path that is not looked at for settings leaves the settings. -/
theorem loadSettings_of_differsAt {l : Location} {bytes : ByteArray} (h : DiffersAt t t' l)
    (hfile : t'.content? l = some (.file bytes))
    (hpaths : ∀ path ∈ m.settingsPaths t asked, t.place? m.cwd path ≠ some l) :
    m.loadSettings t' asked = m.loadSettings t asked := by
  obtain ⟨hstanding, htexts⟩ := settingsText?_of_differsAt hcwd h hfile hpaths
  exact loadSettings_congr hstanding htexts

/-- Directories that are made change no settings file whose name led somewhere. -/
theorem settingsText?_grows (hgrows : Grows t t') {name : String}
    (h : t.Anchored m.cwd name) : m.settingsText? t' name = m.settingsText? t name :=
  settingsText?_congr hcwd (hgrows.kept hcwd) (h.sameFile hgrows) fun _ _ hlast _ hending =>
    ((anchored_longer_iff hlast hending).2 h).sameFile hgrows

/-- The name of a settings file that is there leads somewhere. -/
theorem anchored_of_settingsText? {name : String} {text : SettingsFormat × String}
    (h : m.settingsText? t name = some text) : t.Anchored m.cwd name := by
  obtain ⟨x, hpath, -⟩ := Option.bind_eq_some_iff.1 h
  have hanchored : ∀ {path}, m.isFile t path = true → t.Anchored m.cwd path := by
    intro path hfile
    obtain ⟨l, bytes, hleads⟩ := (isFile_iff hcwd).1 hfile
    exact anchored_of_leadsTo hcwd hleads
  rcases Bool.eq_false_or_eq_true (m.isFile t name) with hn | hn
  · exact hanchored hn
  · rw [settingsFile?_of_not_isFile hn] at hpath
    obtain ⟨last, hlast, hpath⟩ := Option.bind_eq_some_iff.1 hpath
    obtain ⟨ending, hending, hx⟩ := mem_longerNames (List.mem_of_find?_eq_some hpath)
    have hfile : m.isFile t x.1 = true := by simpa using List.find?_some hpath
    exact (anchored_longer_iff hlast hending).1 (hx ▸ hanchored hfile)

/-- Directories that are made leave the settings, unless the path of the user's settings comes to
stand for a file. -/
theorem loadSettings_of_grows (hgrows : Grows t t') {loaded : Settings}
    (hload : m.loadSettings t asked = .ok loaded)
    (huser : t.exists? m.cwd (.ofText m.userFile) = false →
      m.settingsFile? t' m.userFile = none) :
    m.loadSettings t' asked = .ok loaded := by
  rw [← hload]
  have hasked : ∀ name ∈ asked.toList, m.settingsText? t' name = m.settingsText? t name := by
    intro name hname
    cases asked with
    | none => simp at hname
    | some name' =>
      cases List.mem_singleton.1 hname
      obtain ⟨text, htext⟩ := settingsText?_of_asked hload
      exact settingsText?_grows hcwd hgrows (anchored_of_settingsText? hcwd htext)
  have hnamed : ∀ name ∈ standingNames, m.settingsText? t' name = m.settingsText? t name := by
    intro name hname
    refine settingsText?_grows hcwd hgrows (anchored_of_names hcwd ?_)
    revert name
    decide
  rcases Bool.eq_false_or_eq_true (t.exists? m.cwd (.ofText m.userFile)) with hthere | hgone
  · obtain ⟨r, hleads, hfound⟩ := (exists?_iff hcwd).1 hthere
    have hthere' : t'.exists? m.cwd (.ofText m.userFile) = true :=
      (exists?_iff (hgrows.kept hcwd)).2 ⟨r, hgrows.leadsTo hleads hfound, hfound⟩
    have huser := settingsText?_grows hcwd hgrows (anchored_of_leadsTo hcwd hleads)
    refine loadSettings_congr
      (by rw [standingFiles_of_exists hthere, standingFiles_of_exists hthere']) ?_
    rw [standingFiles_of_exists hthere]
    simp only [List.mem_append, List.mem_singleton]
    rintro name ((hname | rfl) | hname)
    · exact hnamed name hname
    · exact huser
    · exact hasked name hname
  have hnames : ∀ name ∈ m.standingFiles t ++ asked.toList,
      m.settingsText? t' name = m.settingsText? t name := by
    rw [standingFiles_of_not_exists hgone]
    simp only [List.mem_append]
    rintro name (hname | hname)
    · exact hnamed name hname
    · exact hasked name hname
  rcases Bool.eq_false_or_eq_true (t'.exists? m.cwd (.ofText m.userFile)) with hthere' | hgone'
  · refine loadSettings_congr_of_absent
      (by rw [standingFiles_of_not_exists hgone, standingFiles_of_exists hthere']) ?_ hnames
    rw [settingsText?, huser hgone, Option.bind_none]
  · exact loadSettings_congr
      (by rw [standingFiles_of_not_exists hgone, standingFiles_of_not_exists hgone']) hnames

end

end Machine

end ZigReflect
