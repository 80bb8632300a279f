import Mathlib
import ZigReflect.Command.Run
import ZigReflect.Proofs.FirstWriter
import ZigReflect.Proofs.SettingsFiles

/-!
# A check after a write

A run that writes its output formats it in place. A run that checks the output formats the
same code in the scratch file, or takes the code as it is when the formatter is disabled or
fails. Both come to the same text when what the formatter does to a file depends on the bytes
of the file alone (`Machine.FormatsByContent`), so a check that follows a write finds the output
up to date (`Machine.run_check_after_run`).

The check sees the tree that the write left, and there it has to find the same settings and
documents again, and a place for its scratch file. Making the output's directories can change
the settings, and there may be no place for the scratch file. The check may also come upon its
settings in an order of its own, which the settings must not depend on
(`Machine.run_check_fails`).
-/

namespace ZigReflect

namespace Machine

open ZigReflect.Tree

variable {m : Machine} {o : Options} {s : Settings} {t : Tree}

/-- A path leads to a file from the working directory. -/
def HasFile (m : Machine) (t : Tree) (path : String) (l : Location) (bytes : ByteArray) : Prop :=
  t.content? m.cwd = some .dir ∧ t.LeadsTo m.cwd (.ofText path) (.file l bytes)

/-- What the formatter does to a file depends on the bytes of the file: it leaves text when it
succeeds, and the file as it was when it fails or cannot be started. Nothing else is changed. -/
structure FormatsByContent (m : Machine) (s : FormatterSettings) (format : ByteArray → ByteArray) :
    Prop where
  tree : ∀ {t : Tree} {path : String} {l : Location} {bytes : ByteArray},
    m.HasFile t path l bytes →
      (m.launch t s.command (s.args ++ [path])).1 = t.put l (.file (format bytes))
  text : ∀ {t : Tree} {path : String} {l : Location} {bytes : ByteArray},
    m.HasFile t path l bytes →
      FormatOutcome.ofEnding (m.launch t s.command (s.args ++ [path])).2 = .formatted →
        (String.fromUTF8? (format bytes)).isSome
  untouched : ∀ {t : Tree} {path : String} {l : Location} {bytes : ByteArray},
    m.HasFile t path l bytes →
      FormatOutcome.ofEnding (m.launch t s.command (s.args ++ [path])).2 ≠ .formatted →
        format bytes = bytes

/-- The bytes of the output when the formatter is done. -/
def finalBytes (s : FormatterSettings) (format : ByteArray → ByteArray) (bytes : ByteArray) :
    ByteArray :=
  if s.enabled then format bytes else bytes

/-- The paths that a run reads or writes beside the output. -/
def otherPaths (m : Machine) (t : Tree) (o : Options) (s : Settings) : List String :=
  [s.input.types, s.input.protocol] ++ s.output.preamble.toList ++ m.settingsPaths t o.config ++
    if s.formatter.enabled then [m.scratch] else []

theorem fromUTF8?_toUTF8 (text : String) : String.fromUTF8? text.toUTF8 = some text := by
  unfold String.fromUTF8?
  exact dif_pos text.isValidUTF8

/-- The output is none of the files that a run reads or writes beside it. -/
def OutputApart (m : Machine) (o : Options) (s : Settings) (t : Tree) : Prop :=
  ∀ path ∈ m.otherPaths t o s, t.place? m.cwd path ≠ t.place? m.cwd s.output.path

/-- The files once the directory of the output has been made. -/
def withOutputDir (m : Machine) (s : Settings) (t : Tree) : Tree :=
  (t.makeParent m.cwd s.output.path).1

theorem grows_withOutputDir (hcwd : t.content? m.cwd = some .dir) :
    Grows t (m.withOutputDir s t) :=
  grows_makeParent hcwd s.output.path

/-! ## Writing -/

theorem write_of_writable {path : String} {l : Location} (bytes : ByteArray)
    (h : t.writable m.cwd (.ofText path) = .ok l) :
    t.write m.cwd path bytes = .ok (t.put l (.file bytes)) := by
  rw [write, h]
  rfl

/-- Output is delivered when its directory can be made and there is a place for it. -/
theorem deliverOutput_of_writable {ready : Tree} {l : Location} (g : Generated)
    (hmade : t.makeParent m.cwd s.output.path = (ready, .ok ()))
    (hplace : ready.writable m.cwd (.ofText s.output.path) = .ok l) :
    (m.deliverOutput s g t).result = .ok .generated ∧ (m.deliverOutput s g t).tree =
      (m.runFormatter s.formatter s.output.path (ready.put l (.file g.code.toUTF8))).1 := by
  unfold deliverOutput writeOutput
  simp only [hmade, write_of_writable _ hplace, and_self]

/-- Output that has been delivered had a place once its directory was made. -/
theorem writable_of_deliverOutput {g : Generated} {v : Verdict}
    (h : (m.deliverOutput s g t).result = .ok v) :
    ∃ l, t.makeParent m.cwd s.output.path = (m.withOutputDir s t, .ok ()) ∧
      (m.withOutputDir s t).writable m.cwd (.ofText s.output.path) = .ok l := by
  unfold deliverOutput writeOutput at h
  unfold withOutputDir
  rcases hmade : t.makeParent m.cwd s.output.path with ⟨ready, _ | _⟩
  · simp [hmade] at h
  · cases hplace : ready.writable m.cwd (.ofText s.output.path) with
    | error e => simp [hmade, write, hplace, Except.map] at h
    | ok l => exact ⟨l, rfl, rfl⟩

/-- The text of the scratch file once the formatter has been run on it. -/
theorem formatText_of_read {code text : String} {t₁ : Tree} (henabled : s.formatter.enabled = true)
    (hwrite : t.write m.cwd m.scratch code.toUTF8 = .ok t₁)
    (hread : m.readText (m.runFormatter s.formatter m.scratch t₁).1 m.scratch = .ok text)
    (hfailed : (m.runFormatter s.formatter m.scratch t₁).2 ≠ .formatted → text = code) :
    (m.formatText s.formatter code t).result = .ok text ∧
      (m.formatText s.formatter code t).tree =
        m.clearScratch (m.runFormatter s.formatter m.scratch t₁).1 := by
  unfold formatText
  rw [if_pos henabled, hwrite]
  dsimp only
  generalize m.runFormatter s.formatter m.scratch t₁ = formatted at *
  obtain ⟨t₂, outcome⟩ := formatted
  cases outcome with
  | formatted => simp only [hread, and_self]
  | disabled => simp [hfailed]
  | failed reason => simp [hfailed]

section

variable {format : ByteArray → ByteArray}
  (hformat : s.formatter.enabled = true → m.FormatsByContent s.formatter format)
include hformat

/-- The formatter leaves its bytes in the file it is run on. -/
theorem runFormatter_tree {path : String} {l : Location} {bytes : ByteArray}
    (hcwd : t.content? m.cwd = some .dir)
    (h : t.LeadsTo m.cwd (.ofText path) (.file l bytes)) :
    DiffersAt t (m.runFormatter s.formatter path t).1 l ∧
      (m.runFormatter s.formatter path t).1.LeadsTo m.cwd (.ofText path)
        (.file l (finalBytes s.formatter format bytes)) := by
  have hfile : t.content? l = some (.file bytes) := h.2.1.content?_spot
  unfold runFormatter finalBytes
  split
  · next henabled =>
    have hput := (hasPlace_of_file hcwd hfile).put (format bytes)
    rw [(hformat henabled).tree ⟨hcwd, h⟩]
    exact ⟨hput.1, hput.1.leadsTo_file hput.2 h rfl (h.2.2 l bytes rfl)⟩
  · exact ⟨⟨fun _ _ => rfl, by simp [hfile], by simp [hfile]⟩, h⟩

/-- Output that has been delivered is where its path leads once its directory has been made, and
nothing else has changed since. -/
theorem deliverOutput_ok {g : Generated} {v : Verdict} (hcwd : t.content? m.cwd = some .dir)
    (h : (m.deliverOutput s g t).result = .ok v) :
    ∃ l, (m.withOutputDir s t).place? m.cwd s.output.path = some l ∧
      DiffersAt (m.withOutputDir s t) (m.deliverOutput s g t).tree l ∧
      (m.deliverOutput s g t).tree.LeadsTo m.cwd (.ofText s.output.path)
        (.file l (finalBytes s.formatter format g.code.toUTF8)) := by
  have hready := (grows_withOutputDir (s := s) hcwd).kept hcwd
  obtain ⟨l, hmade, hwritable⟩ := writable_of_deliverOutput h
  obtain ⟨hplace, hhas, hleads⟩ := place_of_writable hready hwritable g.code.toUTF8
  have hdiffers := (hhas.put g.code.toUTF8).1
  have hformatted := runFormatter_tree hformat (hdiffers.content?_dir hready) hleads
  rw [(deliverOutput_of_writable g hmade hwritable).2]
  exact ⟨l, hplace, hdiffers.trans hformatted.1, hformatted.2⟩

/-! ## Checking -/

/-- When the formatter is done with a file, the file holds text: what the formatter left, or the
text that was there. -/
theorem fromUTF8?_finalBytes {path code : String} {l : Location}
    (hcwd : t.content? m.cwd = some .dir)
    (h : t.LeadsTo m.cwd (.ofText path) (.file l code.toUTF8)) :
    ∃ text, String.fromUTF8? (finalBytes s.formatter format code.toUTF8) = some text ∧
      ((m.runFormatter s.formatter path t).2 ≠ .formatted → text = code) := by
  unfold runFormatter finalBytes
  split
  · next henabled =>
    by_cases hended : FormatOutcome.ofEnding
        (m.launch t s.formatter.command (s.formatter.args ++ [path])).2 = .formatted
    · obtain ⟨text, htext⟩ := Option.isSome_iff_exists.1 ((hformat henabled).text ⟨hcwd, h⟩ hended)
      exact ⟨text, htext, fun hne => (hne hended).elim⟩
    · rw [(hformat henabled).untouched ⟨hcwd, h⟩ hended]
      exact ⟨code, fromUTF8?_toUTF8 code, fun _ => rfl⟩
  · exact ⟨code, fromUTF8?_toUTF8 code, fun _ => rfl⟩

/-- The code is formatted in the scratch file as it is in the output file, and all other files stay
as they are: the scratch file is written, formatted and removed, all at one place. -/
theorem formatText_ok (code : String) (hcwd : t.content? m.cwd = some .dir)
    (hscratch : s.formatter.enabled = true → ∃ k, t.writable m.cwd (.ofText m.scratch) = .ok k) :
    ∃ text, (m.formatText s.formatter code t).result = .ok text ∧
      String.fromUTF8? (finalBytes s.formatter format code.toUTF8) = some text ∧
      (m.formatText s.formatter code t).tree.content? m.cwd = some .dir ∧
      ∀ {path r}, t.LeadsTo m.cwd (.ofText path) r →
        (s.formatter.enabled = true → t.place? m.cwd m.scratch ≠ some r.location) →
        (m.formatText s.formatter code t).tree.LeadsTo m.cwd (.ofText path) r := by
  by_cases henabled : s.formatter.enabled = true
  · obtain ⟨k, hk⟩ := hscratch henabled
    obtain ⟨hplace, hhas, hleads⟩ := place_of_writable hcwd hk code.toUTF8
    have hwritten := (hhas.put code.toUTF8).1
    have hcwd₁ := hwritten.content?_dir hcwd
    obtain ⟨hformatted, hleads₂⟩ := runFormatter_tree hformat hcwd₁ hleads
    have hcwd₂ := hformatted.content?_dir hcwd₁
    obtain ⟨text, htext, hfailed⟩ := fromUTF8?_finalBytes hformat hcwd₁ hleads
    obtain ⟨hresult, htree⟩ := formatText_of_read henabled (write_of_writable _ hk)
      ((readText_iff hcwd₂).2 ⟨k, _, hleads₂, htext⟩) hfailed
    have hfile := hleads₂.2.1.content?_spot
    have herased := differsAt_erase (hasPlace_of_file hcwd₂ hfile) hfile
    have honlyScratch := (hwritten.trans hformatted).trans herased
    rw [htree, clearScratch, remove_of_file hcwd₂ hleads₂]
    refine ⟨text, hresult, htext, honlyScratch.content?_dir hcwd, fun {path r} hr hapart => ?_⟩
    exact honlyScratch.leadsTo hr fun hl => hapart henabled (by rw [hplace, hl])
  · unfold formatText
    rw [if_neg henabled]
    exact ⟨code, rfl, by rw [finalBytes, if_neg henabled, fromUTF8?_toUTF8], hcwd, fun hr _ => hr⟩

/-- Output that holds what the formatter leaves of the code is up to date. -/
theorem compareOutput_upToDate {code : String} {l : Location}
    (hcwd : t.content? m.cwd = some .dir)
    (hscratch : s.formatter.enabled = true →
      (∃ k, t.writable m.cwd (.ofText m.scratch) = .ok k) ∧ t.place? m.cwd m.scratch ≠ some l)
    (h : t.LeadsTo m.cwd (.ofText s.output.path)
      (.file l (finalBytes s.formatter format code.toUTF8))) :
    (m.compareOutput s code t).result = .ok (.upToDate s.output.path) := by
  obtain ⟨text, hresult, htext, hcwd', hothers⟩ :=
    formatText_ok hformat code hcwd fun henabled => (hscratch henabled).1
  have hleads := hothers h fun henabled => (hscratch henabled).2
  generalize hstep : m.formatText s.formatter code t = step at *
  have hexists := (exists?_iff hcwd').2 ⟨_, hleads, trivial⟩
  have hread : m.readText step.tree s.output.path = .ok text :=
    (readText_iff hcwd').2 ⟨l, _, hleads, htext⟩
  have hreport : m.driftReport step.tree s.output.path text = .ok ⟨s.output.path, false, ""⟩ := by
    simp [driftReport, hexists, hread, Drift.unified]
  unfold compareOutput
  simp only [hstep, hresult, hreport]
  rfl

end

/-! ## Runs -/

theorem loadDocument_ok {path : String} {doc : Document} {t' : Tree}
    (hread : ∀ {text}, m.readText t path = .ok text → m.readText t' path = .ok text)
    (h : m.loadDocument t path = .ok doc) : m.loadDocument t' path = .ok doc := by
  unfold loadDocument at h ⊢
  split at h
  · cases h
  · next text htext =>
    rw [hread htext]
    exact h

theorem loadPair_ok {types protocol : String} {pair : Pair} {t' : Tree}
    (hread : ∀ path ∈ [types, protocol], ∀ {text},
      m.readText t path = .ok text → m.readText t' path = .ok text)
    (h : m.loadPair t types protocol = .ok pair) : m.loadPair t' types protocol = .ok pair := by
  unfold loadPair at h ⊢
  cases htypes : m.loadDocument t types with
  | error e => simp [htypes, bind, Except.bind] at h
  | ok first =>
    cases hprotocol : m.loadDocument t protocol with
    | error e => simp [htypes, hprotocol, bind, Except.bind] at h
    | ok second =>
      rw [htypes, hprotocol] at h
      rw [loadDocument_ok (hread types (by simp)) htypes,
        loadDocument_ok (hread protocol (by simp)) hprotocol]
      exact h

theorem generateWith_ok {pair : Pair} {g : Generated}
    {read read' : String → Except FileError String}
    (hread : ∀ path ∈ s.output.preamble.toList, ∀ {text},
      read path = .ok text → read' path = .ok text)
    (h : (pair.generateWith s read).result = .ok g) :
    (pair.generateWith s read').result = .ok g := by
  unfold Pair.generateWith at h ⊢
  split at h
  · cases h
  split at h
  · cases h
  · next preamble hpreamble =>
    have hpreamble' : s.output.preambleText read' = .ok preamble := by
      unfold OutputSettings.preambleText at hpreamble ⊢
      split at hpreamble
      · next path hpath => exact hread path (by simp [hpath]) hpreamble
      · exact hpreamble
    rw [hpreamble']
    exact h

section

variable {loaded : Settings} (hload : m.loadSettings t o.config = .ok loaded)
include hload

/-- What a run does when its code has been generated. -/
theorem run_eq_finish {pair : Pair} {g : Generated}
    (hpair : m.loadPair t (o.apply loaded).input.types (o.apply loaded).input.protocol = .ok pair)
    (hgen : (pair.generateWith (o.apply loaded) (m.readText t)).result = .ok g) :
    (m.run o t).result =
        (m.finish o (o.apply loaded) g t).result.mapError (fun e => .work (.file e)) ∧
      (m.run o t).tree = (m.finish o (o.apply loaded) g t).tree := by
  unfold run
  simp only [hload, hpair, hgen, Step.after, Step.mapError, and_self]

/-- What a run has done that has succeeded. -/
theorem run_inv {v : Verdict} (h : (m.run o t).result = .ok v) :
    ∃ pair g, m.loadPair t (o.apply loaded).input.types (o.apply loaded).input.protocol = .ok pair ∧
      (pair.generateWith (o.apply loaded) (m.readText t)).result = .ok g ∧
      (m.finish o (o.apply loaded) g t).result = .ok v := by
  have hrun := h
  unfold run at hrun
  rw [hload] at hrun
  dsimp only at hrun
  cases hpair : m.loadPair t (o.apply loaded).input.types (o.apply loaded).input.protocol with
  | error e =>
    rw [hpair] at hrun
    cases hrun
  | ok pair =>
    rw [hpair] at hrun
    dsimp only at hrun
    cases hgen : (pair.generateWith (o.apply loaded) (m.readText t)).result with
    | error e =>
      rw [hgen] at hrun
      cases hrun
    | ok g =>
      refine ⟨pair, g, rfl, hgen, ?_⟩
      rw [(run_eq_finish hload hpair hgen).1] at h
      cases hfinish : (m.finish o (o.apply loaded) g t).result with
      | error e => simp [hfinish, Except.mapError] at h
      | ok v' => simpa [hfinish, Except.mapError] using h

/-- A run that checks its output compares it with the code. -/
theorem run_check {pair : Pair} {g : Generated} {v : Verdict}
    (hpair : m.loadPair t (o.apply loaded).input.types (o.apply loaded).input.protocol = .ok pair)
    (hgen : (pair.generateWith (o.apply loaded) (m.readText t)).result = .ok g)
    (h : (m.compareOutput (o.apply loaded) g.code t).result = .ok v) :
    (m.run { o with check := true } t).result = .ok v := by
  have hrun := (run_eq_finish (o := { o with check := true }) hload hpair hgen).1
  have hfinish : m.finish { o with check := true } (Options.apply { o with check := true } loaded)
      g t = m.compareOutput (o.apply loaded) g.code t := rfl
  rw [hrun, hfinish, h]
  rfl

end

theorem finish_of_write {g : Generated} (hcheck : o.check = false) (hdry : o.dryRun = false) :
    m.finish o s g t = m.deliverOutput s g t := by
  simp [finish, hcheck, hdry]

/-- A run has written its output, which is none of the files it uses beside it. The formatter, if
it is enabled, goes by the content of files. -/
structure Wrote (m : Machine) (o : Options) (t : Tree) (loaded : Settings)
    (format : ByteArray → ByteArray) : Prop where
  cwd : t.content? m.cwd = some .dir
  check : o.check = false
  dryRun : o.dryRun = false
  load : m.loadSettings t o.config = .ok loaded
  run : (m.run o t).result = .ok .generated
  apart : m.OutputApart o (o.apply loaded) (m.withOutputDir (o.apply loaded) t)
  format : (o.apply loaded).formatter.enabled = true →
    m.FormatsByContent (o.apply loaded).formatter format

/-- A run that checks the output after it has been written finds it up to date, if it finds a place
for its scratch file, and if making the output's directory has not turned the path of the user's
settings from one that leads nowhere into the name of a settings file. It may come upon the settings
in another order, if it loads the same ones so. -/
theorem run_check_after_run {loaded : Settings} {format : ByteArray → ByteArray}
    {reader : SettingsReader} (hwrote : m.Wrote o t loaded format)
    (hscratch : (o.apply loaded).formatter.enabled = true →
      ∃ k, (m.run o t).tree.writable m.cwd (.ofText m.scratch) = .ok k)
    (huser : t.exists? m.cwd (.ofText m.userFile) = false →
      m.settingsFile? (m.withOutputDir (o.apply loaded) t) m.userFile = none)
    (hsettled : { m with reader }.loadSettings t o.config = .ok loaded) :
    ({ m with reader }.run { o with check := true } (m.run o t).tree).result =
      .ok (.upToDate (o.apply loaded).output.path) := by
  obtain ⟨hcwd, hcheck, hdry, hload, hrun, hapart, hformat⟩ := hwrote
  obtain ⟨pair, g, hpair, hgen, hfinish⟩ := run_inv hload hrun
  have htree := (run_eq_finish hload hpair hgen).2
  rw [finish_of_write hcheck hdry] at hfinish htree
  obtain ⟨l, hplace, hdiffers, hleads⟩ := deliverOutput_ok hformat hcwd hfinish
  rw [← htree] at hdiffers hleads
  have hgrows : Grows t (m.withOutputDir (o.apply loaded) t) := grows_withOutputDir hcwd
  generalize m.withOutputDir (o.apply loaded) t = ready at *
  generalize (m.run o t).tree = after at *
  have hcwd₁ := hgrows.kept hcwd
  have hcwd₂ := hdiffers.content?_dir hcwd₁
  have hfile := hleads.2.1.content?_spot
  have hsame : ∀ {path}, path ∈ m.otherPaths ready o (o.apply loaded) → ∀ {r},
      ready.LeadsTo m.cwd (.ofText path) r ↔ after.LeadsTo m.cwd (.ofText path) r :=
    fun hpath => hdiffers.leadsTo_iff hcwd₁ hfile (hplace ▸ hapart _ hpath)
  have hread : ∀ {path}, path ∈ m.otherPaths ready o (o.apply loaded) → ∀ {text},
      m.readText t path = .ok text → m.readText after path = .ok text := by
    intro path hpath text htext
    obtain ⟨k, bytes, hfound, hbytes⟩ := (readText_iff hcwd).1 htext
    exact (readText_iff hcwd₂).2
      ⟨k, bytes, (hsame hpath).1 (hgrows.leadsTo hfound trivial), hbytes⟩
  have hsettingsApart : ∀ path ∈ m.settingsPaths ready o.config,
      ready.place? m.cwd path ≠ some l :=
    fun path hpath => hplace ▸ hapart path (by simp [otherPaths, hpath])
  have hload₁ : { m with reader }.loadSettings ready o.config = .ok loaded :=
    loadSettings_of_grows (m := { m with reader }) hcwd hgrows hsettled fun hgone =>
      (settingsFile?_eq_none_congr reader).2 (huser hgone)
  have hload₂ : { m with reader }.loadSettings after o.config = .ok loaded :=
    (loadSettings_of_differsAt (m := { m with reader }) hcwd₁ hdiffers hfile hsettingsApart).trans
      hload₁
  have hscratchApart : (o.apply loaded).formatter.enabled = true →
      after.place? m.cwd m.scratch ≠ some l := by
    intro henabled hscratchPlace
    obtain ⟨r, hr, hl⟩ := (place?_eq_some hcwd₂).1 hscratchPlace
    have hmem : m.scratch ∈ m.otherPaths ready o (o.apply loaded) := by simp [otherPaths, henabled]
    exact hapart _ hmem (hplace ▸ (place?_eq_some hcwd₁).2 ⟨r, (hsame hmem).2 hr, hl⟩)
  have hcompare : (m.compareOutput (o.apply loaded) g.code after).result =
      .ok (.upToDate (o.apply loaded).output.path) :=
    compareOutput_upToDate hformat hcwd₂
      (fun henabled => ⟨hscratch henabled, hscratchApart henabled⟩) hleads
  have hpair₂ : m.loadPair after (o.apply loaded).input.types (o.apply loaded).input.protocol =
      .ok pair := by
    refine loadPair_ok (fun path hpath => hread ?_) hpair
    simp only [otherPaths, List.append_assoc]
    exact List.mem_append_left _ hpath
  have hgen₂ : (pair.generateWith (o.apply loaded) (m.readText after)).result = .ok g := by
    refine generateWith_ok (fun path hpath => hread ?_) hgen
    simp [otherPaths, Option.mem_toList.1 hpath]
  exact run_check (m := { m with reader }) hload₂ hpair₂ hgen₂ hcompare

/-! ## Samples -/

/-- The text of a reflection without declarations. -/
def emptyText : String :=
  "\x7b\"id\":0,\"name\":\"r\"\x7d"

/-- Two empty documents. -/
def emptyPair : Pair :=
  ⟨.ofRoot { id := 0, name := "r" }, .ofRoot { id := 0, name := "r" }⟩

/-- Settings in three files, two empty documents, and other files. -/
def sampleFiles (others : List (String × Tree)) : Tree :=
  .dir ([("typedoc-zig.toml", .file "filter.exclude_patterns=[]".toUTF8),
    (".typedoc-zig.toml", .file "formatter.args=[\"-i\",\"d\"]".toUTF8),
    ("config", .dir [("typedoc-zig.toml", .file "formatter.command=\"sed\"".toUTF8)]),
    ("t", .file emptyText.toUTF8), ("p", .file emptyText.toUTF8)] ++ others)

/-- The settings of the sample files. -/
def sampleSettings : Settings :=
  { formatter := { command := "sed", args := ["-i", "d"] }, filter := { excludePatterns := [] } }

/-- The options that write the code of the sample files to a path. -/
def sampleOptions (output : String) : Options :=
  { types := some "t", protocol := some "p", output := some output }

/-- Deletes all lines of a file, as `sed -i d` does. -/
def deleteLines (t : Tree) (_ : String) : List String → Tree × Ending
  | ["-i", "d", path] =>
    match t.target [] (.ofText path) with
    | .ok (.found l (.file _)) => (t.put l (.file "".toUTF8), .exited 0 "")
    | _ => (t, .exited 2 "")
  | _ => (t, .exited 1 "")

/-- A machine that formats with `sed`. -/
def sampleMachine : Machine where
  cwd := []
  env := []
  configHome := "x"
  scratch := "tmp/s"
  launch := deleteLines

theorem sampleMachine_formatsByContent :
    sampleMachine.FormatsByContent sampleSettings.formatter fun _ => "".toUTF8 := by
  have hlaunch : ∀ {t : Tree} {path : String} {l : Location} {bytes : ByteArray},
      sampleMachine.HasFile t path l bytes → sampleMachine.launch t "sed" ["-i", "d", path] =
        (t.put l (.file "".toUTF8), .exited 0 "") := by
    intro t path l bytes h
    have htarget : t.target [] (.ofText path) = .ok (.found l (.file bytes)) :=
      target_of_file h.1 h.2
    simp only [sampleMachine, deleteLines, htarget]
  refine ⟨fun h => congrArg Prod.fst (hlaunch h), fun _ _ => rfl, fun h hended => ?_⟩
  exact (hended (congrArg (fun r => FormatOutcome.ofEnding r.2) (hlaunch h))).elim

/-- The tree has the settings of the samples. -/
structure HasSettings (m : Machine) (t : Tree) : Prop where
  patterns : m.settingsText? t "typedoc-zig.toml" = some (.toml, "filter.exclude_patterns=[]")
  args : m.settingsText? t ".typedoc-zig.toml" = some (.toml, "formatter.args=[\"-i\",\"d\"]")
  command : m.settingsText? t "config/typedoc-zig.toml" =
    some (.toml, "formatter.command=\"sed\"")
  arrange : ∀ source x, m.reader.arrange source [x] = [x]

/-- The tree has the documents of the samples. -/
structure HasDocuments (t : Tree) : Prop where
  types : sampleMachine.readText t "t" = .ok emptyText
  protocol : sampleMachine.readText t "p" = .ok emptyText

/-- The tree has the settings and documents of the samples, and no settings of the user. -/
structure HasSamples (t : Tree) : Prop extends HasSettings sampleMachine t, HasDocuments t where
  standing : sampleMachine.standingFiles t = standingNames

theorem hasSettings_sampleFiles (others : List (String × Tree)) :
    sampleMachine.HasSettings (sampleFiles others) :=
  ⟨rfl, rfl, rfl, fun _ _ => rfl⟩

theorem hasDocuments_sampleFiles (others : List (String × Tree)) :
    HasDocuments (sampleFiles others) :=
  ⟨rfl, rfl⟩

/-- The sample files are samples, unless the others are settings of the user. -/
theorem hasSamples_sampleFiles {others : List (String × Tree)}
    (h : sampleMachine.standingFiles (sampleFiles others) = standingNames) :
    HasSamples (sampleFiles others) :=
  { hasSettings_sampleFiles others, hasDocuments_sampleFiles others with standing := h }

/-- The layers of the settings of the samples. -/
def sampleLayers : List (List (String × Toml)) :=
  [[("filter", .table [("exclude_patterns", .array [])])],
    [("formatter", .table [("args", .array [.string "-i", .string "d"])])],
    [("formatter", .table [("command", .string "sed")])]]

/-- The table that the settings of the samples come to, with a value for the arguments of the
formatter. -/
def sampleTable (args : Toml) : Toml :=
  .table [("filter", .table [("exclude_patterns", .array [])]),
    ("formatter", .table [("args", args), ("command", .string "sed")])]

theorem foldl_sampleLayers : sampleLayers.foldl Toml.addLayer (.table []) =
    sampleTable (.array [.string "-i", .string "d"]) := by
  have hfilter : Toml.keyPath (Text.lower "filter") = [.key "filter"] := by decide +kernel
  have hformatter : Toml.keyPath (Text.lower "formatter") = [.key "formatter"] := by
    decide +kernel
  have hargs : Text.lower "args" = "args" := by decide +kernel
  have hcommand : Text.lower "command" = "command" := by decide +kernel
  have hpatterns : Text.lower "exclude_patterns" = "exclude_patterns" := by decide +kernel
  simp only [sampleLayers, List.foldl_cons, List.foldl_nil, Toml.addLayer, hfilter, hformatter,
    Toml.assign, Toml.mergeField, Toml.mergeFields, hargs, hcommand, hpatterns]
  rfl

/-- The arguments of the formatter, spelled in two ways. -/
def twoSpellings : List (String × Toml) :=
  [("Formatter", .table [("args", .integer 1)]),
    ("formatter", .table [("args", .array [.string "-i", .string "d"])])]

/-- The spelling that comes last decides. -/
theorem addLayer_twoSpellings (args : Toml) :
    Toml.addLayer (sampleTable args) twoSpellings =
        sampleTable (.array [.string "-i", .string "d"]) ∧
      Toml.addLayer (sampleTable args) twoSpellings.reverse = sampleTable (.integer 1) := by
  have hcapital : Toml.keyPath (Text.lower "Formatter") = [.key "formatter"] := by decide +kernel
  have hformatter : Toml.keyPath (Text.lower "formatter") = [.key "formatter"] := by
    decide +kernel
  have hargs : Text.lower "args" = "args" := by decide +kernel
  simp only [twoSpellings, List.reverse_cons, List.reverse_nil, List.nil_append, List.cons_append,
    List.foldl_cons, List.foldl_nil, Toml.addLayer, hcapital, hformatter, Toml.assign,
    Toml.mergeField, Toml.mergeFields, hargs]
  exact ⟨rfl, rfl⟩

theorem mapM_fileLayer_of_settings {t : Tree} (h : m.HasSettings t) :
    standingNames.mapM (m.fileLayer t false) = .ok sampleLayers := by
  have hpatterns : Toml.parse? "filter.exclude_patterns=[]" =
      some [("filter", .table [("exclude_patterns", .array [])])] := by cbv
  have hargs : Toml.parse? "formatter.args=[\"-i\",\"d\"]" =
      some [("formatter", .table [("args", .array [.string "-i", .string "d"])])] := by cbv
  have hcommand : Toml.parse? "formatter.command=\"sed\"" =
      some [("formatter", .table [("command", .string "sed")])] := by cbv
  simp only [standingNames, List.mapM_cons, List.mapM_nil, fileLayer, SettingsReader.fields?,
    h.patterns, h.args, h.command, hpatterns, hargs, hcommand, h.arrange]
  rfl

theorem loadSettings_of_samples {t : Tree} (h : HasSamples t) :
    sampleMachine.loadSettings t none = .ok sampleSettings := by
  have hlayers : sampleMachine.layers t none = .ok (sampleLayers ++ [[]]) := by
    unfold layers
    rw [h.standing, mapM_fileLayer_of_settings h.toHasSettings]
    rfl
  rw [loadSettings_of_layers hlayers, List.foldl_append, foldl_sampleLayers]
  rfl

/-- The layer of the user is merged into those of the samples. -/
theorem loadSettings_of_user {t : Tree} {layer : List (String × Toml)} (h : m.HasSettings t)
    (hstanding : m.standingFiles t = standingNames ++ [m.userFile])
    (huser : m.fileLayer t false m.userFile = .ok layer) (henv : m.environmentLayer = []) :
    m.loadSettings t none = Settings.ofToml
      (Toml.addLayer (sampleTable (.array [.string "-i", .string "d"])) layer) := by
  have hlayers : m.layers t none = .ok (sampleLayers ++ [layer, []]) := by
    unfold layers
    rw [hstanding, List.mapM_append, mapM_fileLayer_of_settings h, List.mapM_cons, huser, henv]
    rfl
  rw [loadSettings_of_layers hlayers, List.foldl_append, foldl_sampleLayers]
  rfl

/-- A malformed file of the user makes the settings fail. -/
theorem loadSettings_of_malformed {t : Tree} {e : SettingsError} (h : m.HasSettings t)
    (hstanding : m.standingFiles t = standingNames ++ [m.userFile])
    (huser : m.fileLayer t false m.userFile = .error e) : m.loadSettings t none = .error e := by
  unfold loadSettings layers
  rw [hstanding, List.mapM_append, mapM_fileLayer_of_settings h, List.mapM_cons, huser]
  rfl

theorem settingsText?_of_bytes {t : Tree} {name path text : String} {format : SettingsFormat}
    (hfile : m.settingsFile? t name = some (path, format))
    (hbytes : t.readBytes m.cwd path = .ok text.toUTF8) :
    m.settingsText? t name = some (format, text) := by
  have hread : m.readText t path = .ok text := by
    simp only [readText, Tree.readText, hbytes, fromUTF8?_toUTF8]
  simp [settingsText?, hfile, hread, Except.toOption]

/-- The layer of a text of the user in TOML. -/
theorem fileLayer_of_text {t : Tree} {name text : String}
    (htext : m.settingsText? t name = some (.toml, text)) :
    m.fileLayer t false name = (Toml.parse? text).elim (.error (.malformed name)) fun fields =>
      .ok (m.reader.arrange (.standing name) fields) := by
  simp only [fileLayer, htext, SettingsReader.fields?]
  cases Toml.parse? text <;> rfl

theorem loadPair_of_samples {t : Tree} (h : HasDocuments t) :
    sampleMachine.loadPair t "t" "p" = .ok emptyPair := by
  have hparse : Json.parse? emptyText =
      some (.object [("id", .number (.unsigned 0)), ("name", .string "r")]) := rfl
  have hread : Declaration.ofText emptyText = .ok { id := 0, name := "r" } := by
    unfold Declaration.ofText Json.readWhole
    rw [hparse]
    rfl
  simp only [loadPair, loadDocument, h.types, h.protocol, Document.ofText, hread]
  rfl

theorem generateWith_emptyPair (path : String) (read : String → Except FileError String) :
    ∃ g, (emptyPair.generateWith ((sampleOptions path).apply sampleSettings) read).result =
      .ok g := by
  have hnone : ∀ exclusion?, emptyPair.firstFailure? [] (emptyPair.kept exclusion?) = none := by
    intro exclusion?
    cbv
  exact ⟨_, Pair.generate_of_none (hnone _) _ _⟩

/-- A run over the samples delivers some code. -/
theorem run_of_samples {t : Tree} (h : HasDocuments t)
    (hload : sampleMachine.loadSettings t none = .ok sampleSettings) (o : Options) (path : String)
    (hconfig : o.config = none)
    (happly : o.apply sampleSettings = (sampleOptions path).apply sampleSettings) :
    ∃ g, (sampleMachine.run o t).result =
        (sampleMachine.finish o ((sampleOptions path).apply sampleSettings) g t).result.mapError
          (fun e => .work (.file e)) ∧
      (sampleMachine.run o t).tree =
        (sampleMachine.finish o ((sampleOptions path).apply sampleSettings) g t).tree := by
  obtain ⟨g, hg⟩ := generateWith_emptyPair path (sampleMachine.readText t)
  rw [← happly] at hg ⊢
  refine ⟨g, run_eq_finish (hconfig ▸ hload) ?_ hg⟩
  rw [happly]
  exact loadPair_of_samples h

/-- Output in a file `z` is apart from what a run over the samples uses beside it. -/
theorem outputApart_of_samples {t : Tree} {path : String} {l : Location}
    (hcwd : t.content? [] = some .dir) (hname : (FilePath.ofText path).fileName? = some "z")
    (hplace : t.place? [] path = some l) :
    sampleMachine.OutputApart (sampleOptions path) ((sampleOptions path).apply sampleSettings)
      t := by
  have hnames : ∀ other ∈ ["t", "p", "tmp/s"],
      ∃ name ∈ ["t", "p", "s"], (FilePath.ofText other).fileName? = some name := by decide +kernel
  have hdocuments : ∀ other ∈ ["t", "p", "tmp/s"], t.place? [] other ≠ t.place? [] path := by
    intro other hother
    obtain ⟨name, hmem, hfile⟩ := hnames other hother
    refine place?_ne hcwd hfile hname ?_ hplace
    rintro rfl
    simp at hmem
  have hsettings := settings_apart_of_short (m := sampleMachine) hcwd hname (by decide) hplace
  intro other hother
  have hpaths : sampleMachine.otherPaths t (sampleOptions path)
      ((sampleOptions path).apply sampleSettings) =
        ["t", "p"] ++ sampleMachine.settingsPaths t none ++ ["tmp/s"] := rfl
  rw [hpaths, List.mem_append, List.mem_append] at hother
  rcases hother with (hother | hother) | hother
  · exact hdocuments other (List.mem_append_left ["tmp/s"] hother)
  · exact hsettings other hother
  · exact hdocuments other (List.mem_append_right ["t", "p"] hother)

/-- A run that writes the code of the samples leaves an empty file. -/
theorem wrote_of_samples {t ready after : Tree} {path : String} {l : Location}
    (h : HasDocuments t) (hload : sampleMachine.loadSettings t none = .ok sampleSettings)
    (hcwd : t.content? [] = some .dir) (hmade : t.makeParent [] path = (ready, .ok ()))
    (hplace : ready.writable [] (.ofText path) = .ok l)
    (hafter : ∀ bytes, (ready.put l (.file bytes)).put l (.file "".toUTF8) = after)
    (hname : (FilePath.ofText path).fileName? = some "z") :
    sampleMachine.Wrote (sampleOptions path) t sampleSettings (fun _ => "".toUTF8) ∧
      (sampleMachine.run (sampleOptions path) t).tree = after := by
  obtain ⟨g, hresult, htree⟩ := run_of_samples h hload (sampleOptions path) path rfl rfl
  obtain ⟨hdelivered, hformatted⟩ := deliverOutput_of_writable (m := sampleMachine)
    (s := (sampleOptions path).apply sampleSettings) g hmade hplace
  rw [finish_of_write rfl rfl] at hresult htree
  have hready : sampleMachine.withOutputDir ((sampleOptions path).apply sampleSettings) t = ready :=
    congrArg Prod.fst hmade
  have hcwd' : ready.content? [] = some .dir :=
    hready ▸ (grows_withOutputDir (m := sampleMachine) hcwd).kept hcwd
  obtain ⟨hfound, hhas, hleads⟩ := place_of_writable hcwd' hplace g.code.toUTF8
  have hapart := outputApart_of_samples hcwd' hname hfound
  refine ⟨⟨hcwd, rfl, rfl, hload, ?_, hready ▸ hapart, fun _ =>
    sampleMachine_formatsByContent⟩, ?_⟩
  · rw [hresult, hdelivered]
    rfl
  · rw [htree, hformatted, ← hafter g.code.toUTF8]
    exact sampleMachine_formatsByContent.tree ⟨(hhas.put _).1.content?_dir hcwd', hleads⟩

/-- Output in a directory of its own is checked after `sed` has formatted it. -/
theorem run_check_after_run_sed :
    let t := sampleFiles [("tmp", .dir [])]
    let o := sampleOptions "o/z"
    (sampleMachine.run { o with check := true } (sampleMachine.run o t).tree).result =
      .ok (.upToDate "o/z") := by
  intro t o
  let ready := sampleFiles [("tmp", .dir []), ("o", .dir [])]
  let after := sampleFiles [("tmp", .dir []), ("o", .dir [("z", .file "".toUTF8)])]
  have hsamples : HasSamples t := hasSamples_sampleFiles rfl
  have hload := loadSettings_of_samples hsamples
  have hmade : t.makeParent [] "o/z" = (ready, .ok ()) := rfl
  have hplace : ready.writable [] (.ofText "o/z") = .ok ["o", "z"] := rfl
  have hafter : ∀ bytes, (ready.put ["o", "z"] (.file bytes)).put ["o", "z"] (.file "".toUTF8) =
      after := fun _ => rfl
  obtain ⟨hwrote, htree⟩ :=
    wrote_of_samples hsamples.toHasDocuments hload rfl hmade hplace hafter (by decide +kernel)
  have hsteps : (FilePath.ofText sampleMachine.userFile).steps =
      ["x", "typedoc-zig", "typedoc-zig.toml"] := by decide +kernel
  have huser : sampleMachine.settingsFile? ready sampleMachine.userFile = none :=
    settingsFile?_of_missing rfl hsteps
      (show FilePath.fileName? _ = some "typedoc-zig.toml" by decide +kernel) (by decide)
      (by decide) rfl
  have hready : sampleMachine.withOutputDir (o.apply sampleSettings) t = ready :=
    congrArg Prod.fst hmade
  refine run_check_after_run hwrote (fun _ => ?_) (fun _ => hready ▸ huser) hload
  rw [htree]
  exact ⟨["tmp", "s"], rfl⟩

/-- The machine of the samples, when it comes upon the fields of every layer from the last one to
the first one. -/
def backwardMachine : Machine :=
  { sampleMachine with reader := { SettingsReader.plain with
      arrange := fun _ fields => fields.reverse
      reordered := fun _ fields => .perm fields.reverse_perm.symm } }

theorem hasSettings_backward (others : List (String × Tree)) :
    backwardMachine.HasSettings (sampleFiles others) :=
  ⟨rfl, rfl, rfl, fun _ _ => rfl⟩

/-- The file of the user, and what else there is in its directory. -/
def userFiles (entries : List (String × Tree)) : String × Tree :=
  ("x", .dir [("typedoc-zig", .dir entries)])

/-- Without a directory for the scratch file, the check fails. -/
theorem run_check_fails_without_scratch :
    let t := sampleFiles []
    let o := sampleOptions "o/z"
    sampleMachine.Wrote o t sampleSettings (fun _ => "".toUTF8) ∧
      (sampleMachine.run { o with check := true } (sampleMachine.run o t).tree).result =
        .error (.work (.file .notFound)) := by
  intro t o
  let ready := sampleFiles [("o", .dir [])]
  let after := sampleFiles [("o", .dir [("z", .file "".toUTF8)])]
  have hsamples : HasSamples t := hasSamples_sampleFiles rfl
  have hsamples' : HasSamples after := hasSamples_sampleFiles rfl
  have hmade : t.makeParent [] "o/z" = (ready, .ok ()) := rfl
  have hplace : ready.writable [] (.ofText "o/z") = .ok ["o", "z"] := rfl
  have hafter : ∀ bytes, (ready.put ["o", "z"] (.file bytes)).put ["o", "z"]
      (.file "".toUTF8) = after := fun _ => rfl
  obtain ⟨hwrote, htree⟩ := wrote_of_samples hsamples.toHasDocuments
    (loadSettings_of_samples hsamples) rfl hmade hplace hafter (by decide +kernel)
  obtain ⟨g, hresult, -⟩ := run_of_samples hsamples'.toHasDocuments
    (loadSettings_of_samples hsamples') { o with check := true } "o/z" rfl rfl
  refine ⟨hwrote, ?_⟩
  rw [htree, hresult]
  rfl

/-- The check fails when the output's directory is made at the path of the user's settings, and
there is a malformed file with a longer name beside it. -/
theorem run_check_fails_at_user :
    let t := sampleFiles
      [("tmp", .dir []), userFiles [("typedoc-zig.toml.toml", .file "=".toUTF8)]]
    let o := sampleOptions "x/typedoc-zig/typedoc-zig.toml/z"
    sampleMachine.Wrote o t sampleSettings (fun _ => "".toUTF8) ∧
      (sampleMachine.run { o with check := true } (sampleMachine.run o t).tree).result =
        .error (.settings (.malformed sampleMachine.userFile)) := by
  intro t o
  let malformed := ("typedoc-zig.toml.toml", Tree.file "=".toUTF8)
  let ready := sampleFiles
    [("tmp", .dir []), userFiles [malformed, ("typedoc-zig.toml", .dir [])]]
  let after := sampleFiles [("tmp", .dir []),
    userFiles [malformed, ("typedoc-zig.toml", .dir [("z", .file "".toUTF8)])]]
  let l := ["x", "typedoc-zig", "typedoc-zig.toml", "z"]
  have hsamples : HasSamples t := hasSamples_sampleFiles rfl
  have hmade : t.makeParent [] "x/typedoc-zig/typedoc-zig.toml/z" = (ready, .ok ()) := rfl
  have hplace : ready.writable [] (.ofText "x/typedoc-zig/typedoc-zig.toml/z") = .ok l := rfl
  have hafter : ∀ bytes, (ready.put l (.file bytes)).put l (.file "".toUTF8) = after :=
    fun _ => rfl
  obtain ⟨hwrote, htree⟩ := wrote_of_samples hsamples.toHasDocuments
    (loadSettings_of_samples hsamples) rfl hmade hplace hafter (by decide +kernel)
  have hparse : Toml.parse? "=" = none := by cbv
  have htext : sampleMachine.settingsText? after sampleMachine.userFile = some (.toml, "=") := rfl
  have hload : sampleMachine.loadSettings after none =
      .error (.malformed sampleMachine.userFile) := by
    refine loadSettings_of_malformed (hasSettings_sampleFiles _) rfl ?_
    rw [fileLayer_of_text htext, hparse]
    rfl
  refine ⟨hwrote, ?_⟩
  rw [htree]
  unfold run
  rw [show Options.config { o with check := true } = none from rfl, hload]

/-- The check fails when a file spells a setting in two ways, and the check comes upon them in
another order than the run before it. -/
theorem run_check_fails_in_other_order :
    let text := "Formatter.args=1\nformatter.args=[\"-i\",\"d\"]"
    let t := sampleFiles [("tmp", .dir []), userFiles [("typedoc-zig.toml", .file text.toUTF8)]]
    let o := sampleOptions "z"
    sampleMachine.Wrote o t sampleSettings (fun _ => "".toUTF8) ∧
      (backwardMachine.run { o with check := true } (sampleMachine.run o t).tree).result =
        .error (.settings (.misplaced "a sequence")) := by
  intro text t o
  let after := sampleFiles [("tmp", .dir []),
    userFiles [("typedoc-zig.toml", .file text.toUTF8)], ("z", .file "".toUTF8)]
  have hparse : Toml.parse? text = some twoSpellings := by cbv
  have hfile : sampleMachine.settingsFile? t sampleMachine.userFile =
      some (sampleMachine.userFile, .toml) := by decide +kernel
  have hfile' : backwardMachine.settingsFile? after backwardMachine.userFile =
      some (backwardMachine.userFile, .toml) := by decide +kernel
  have htext : sampleMachine.settingsText? t sampleMachine.userFile = some (.toml, text) :=
    settingsText?_of_bytes hfile rfl
  have htext' : backwardMachine.settingsText? after backwardMachine.userFile =
      some (.toml, text) := settingsText?_of_bytes hfile' rfl
  have hload : sampleMachine.loadSettings t none = .ok sampleSettings := by
    have hlayer : sampleMachine.fileLayer t false sampleMachine.userFile = .ok twoSpellings := by
      rw [fileLayer_of_text htext, hparse]
      rfl
    rw [loadSettings_of_user (hasSettings_sampleFiles _) rfl hlayer rfl,
      (addLayer_twoSpellings _).1]
    rfl
  have hload' : backwardMachine.loadSettings after none = .error (.misplaced "a sequence") := by
    have hlayer : backwardMachine.fileLayer after false backwardMachine.userFile =
        .ok twoSpellings.reverse := by
      rw [fileLayer_of_text htext', hparse]
      rfl
    rw [loadSettings_of_user (hasSettings_backward _) rfl hlayer rfl,
      (addLayer_twoSpellings _).2]
    rfl
  have hplace : t.writable [] (.ofText "z") = .ok ["z"] := rfl
  have hafter : ∀ bytes, (t.put ["z"] (.file bytes)).put ["z"] (.file "".toUTF8) = after :=
    fun _ => rfl
  obtain ⟨hwrote, htree⟩ :=
    wrote_of_samples (hasDocuments_sampleFiles _) hload rfl rfl hplace hafter (by decide +kernel)
  refine ⟨hwrote, ?_⟩
  rw [htree]
  unfold run
  rw [show Options.config { o with check := true } = none from rfl, hload']

/-- A check after a write fails without a directory for the scratch file, when the output's
directory is made at the path of the user's settings, and when it comes upon the spellings of a
setting in another order. -/
theorem run_check_fails :
    (let t := sampleFiles []
     let o := sampleOptions "o/z"
     sampleMachine.Wrote o t sampleSettings (fun _ => "".toUTF8) ∧
       (sampleMachine.run { o with check := true } (sampleMachine.run o t).tree).result =
         .error (.work (.file .notFound))) ∧
    (let t := sampleFiles
       [("tmp", .dir []), userFiles [("typedoc-zig.toml.toml", .file "=".toUTF8)]]
     let o := sampleOptions "x/typedoc-zig/typedoc-zig.toml/z"
     sampleMachine.Wrote o t sampleSettings (fun _ => "".toUTF8) ∧
       (sampleMachine.run { o with check := true } (sampleMachine.run o t).tree).result =
         .error (.settings (.malformed sampleMachine.userFile))) ∧
    (let text := "Formatter.args=1\nformatter.args=[\"-i\",\"d\"]"
     let t := sampleFiles [("tmp", .dir []), userFiles [("typedoc-zig.toml", .file text.toUTF8)]]
     let o := sampleOptions "z"
     sampleMachine.Wrote o t sampleSettings (fun _ => "".toUTF8) ∧
       (backwardMachine.run { o with check := true } (sampleMachine.run o t).tree).result =
         .error (.settings (.misplaced "a sequence"))) :=
  ⟨run_check_fails_without_scratch, run_check_fails_at_user, run_check_fails_in_other_order⟩

end Machine

end ZigReflect
