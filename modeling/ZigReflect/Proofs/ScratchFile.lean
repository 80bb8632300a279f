import ZigReflect.Proofs.OutputFile

/-!
# What formatting a text leaves behind

A text is formatted in the scratch file, which is written first and removed last. When there was
no scratch file before and the formatter changes no file but the one it is run on, the removal
brings the files back to what they were (`Machine.sameContents_clearScratch`), however the
formatter ends and whatever bytes it leaves.

There is one way to miss the removal: the formatter succeeds and its bytes are no text, so that
they cannot be read back (`Machine.LeavesNoText`). That is the only one
(`Machine.check_traceless_iff`), and then the scratch file stays
(`Machine.scratch_file_stays`).
-/

namespace ZigReflect

namespace Tree

variable {t t' : Tree} {cwd k : Location}

/-- The trees have the same files and directories, with the same bytes. -/
def SameContents (t t' : Tree) : Prop :=
  ∀ l, t'.content? l = t.content? l

theorem sameContents_of_differsAt (h : DiffersAt t t' k) (hk : t.content? k = none)
    (hk' : t'.content? k = none) : SameContents t t' := by
  intro l
  by_cases hl : l = k
  · rw [hl, hk, hk']
  · exact (h.elsewhere l hl).symm

/-- A place for a file at a path that leads to nothing is vacant. -/
theorem content?_of_writable {path : String} (hcwd : t.content? cwd = some .dir)
    (hnone : t.exists? cwd (.ofText path) = false) (h : t.writable cwd (.ofText path) = .ok k) :
    t.content? k = none := by
  obtain ⟨-, -, r, hleads, rfl⟩ := writable_iff hcwd h
  rw [hleads.2.1.content?_spot]
  cases r with
  | vacant l => rfl
  | file l bytes => exact absurd ((exists?_iff hcwd).2 ⟨_, hleads, trivial⟩) (by simp [hnone])
  | dir l => exact absurd ((exists?_iff hcwd).2 ⟨_, hleads, trivial⟩) (by simp [hnone])

theorem content?_erase_self (h : t.HasPlace k) {bytes : ByteArray}
    (hfile : t.content? k = some (.file bytes)) : (t.erase k).content? k = none := by
  obtain ⟨-, parent, name, rfl, -⟩ := h
  rw [content?_erase hfile, if_pos rfl]

/-- Where a path led to a file that may have changed since, it leads to the file or to nothing. -/
theorem DiffersAt.file_or_vacant (h : DiffersAt t t' k) (hcwd : t.content? cwd = some .dir)
    {path : String} {bytes : ByteArray} (hleads : t.LeadsTo cwd (.ofText path) (.file k bytes)) :
    (∃ bytes', t'.content? k = some (.file bytes') ∧
        t'.LeadsTo cwd (.ofText path) (.file k bytes')) ∨
      t'.content? k = none ∧ t'.target cwd (.ofText path) = .ok (.vacant k) := by
  cases hcontent : t'.content? k with
  | some c =>
    cases c with
    | dir => exact (h.right hcontent).elim
    | file bytes' =>
      exact .inl ⟨bytes', rfl, h.leadsTo_file hcontent hleads rfl (hleads.2.2 k bytes rfl)⟩
  | none =>
    have hvacant : t'.LeadsTo cwd (.ofText path) (.vacant k) :=
      ⟨hleads.1, h.leads_vacant hcontent hleads.2.1 (h.ne_of_dir (content?_startOf hcwd _)) rfl,
        by simp⟩
    obtain ⟨target, htarget, hspot⟩ := (target_iff (h.content?_dir hcwd)).2 hvacant
    rcases target with ⟨l, bytes' | entries⟩ | l <;> cases hspot
    exact .inr ⟨rfl, htarget⟩

end Tree

namespace Machine

open ZigReflect.Tree

variable {m : Machine} {o : Options} {s : FormatterSettings} {t t' : Tree}

/-- The formatter changes no file but the one it is run on. -/
def RewritesItsFile (m : Machine) (s : FormatterSettings) : Prop :=
  ∀ {t : Tree} {path : String} {l : Location} {bytes : ByteArray},
    m.HasFile t path l bytes → DiffersAt t (m.launch t s.command (s.args ++ [path])).1 l

/-- The formatter succeeds on a text in the scratch file, and leaves bytes there that are no
text. -/
def LeavesNoText (m : Machine) (s : FormatterSettings) (code : String) (t : Tree) : Prop :=
  s.enabled = true ∧ ∃ written, t.write m.cwd m.scratch code.toUTF8 = .ok written ∧
    (m.runFormatter s m.scratch written).2 = .formatted ∧
    m.readText (m.runFormatter s m.scratch written).1 m.scratch = .error .notText

/-- A run generates one code, under one choice of settings. -/
theorem Generates.unique {s s' : Settings} {g g' : Generated} (h : m.Generates o t s g)
    (h' : m.Generates o t s' g') : s = s' ∧ g = g' := by
  obtain ⟨hs, pair, hpair, hgen⟩ := h
  obtain ⟨hs', pair', hpair', hgen'⟩ := h'
  obtain rfl := hs.unique hs'
  cases hpair.symm.trans hpair'
  exact ⟨rfl, Except.ok.inj (hgen.symm.trans hgen')⟩

section

variable {k : Location} {bytes : ByteArray} (hcwd : t.content? m.cwd = some .dir)
  (h : DiffersAt t t' k) (hleads : t.LeadsTo m.cwd (.ofText m.scratch) (.file k bytes))
include hcwd h hleads

/-- Removing the scratch file from where it was written leaves nothing there. -/
theorem differsAt_of_clearScratch :
    DiffersAt t' (m.clearScratch t') k ∧ (m.clearScratch t').content? k = none := by
  have hcwd' := h.content?_dir hcwd
  rcases h.file_or_vacant hcwd hleads with ⟨bytes', hfile, hleads'⟩ | ⟨hnone, hvacant⟩
  · have hhas := hasPlace_of_file hcwd' hfile
    rw [clearScratch, remove_of_file hcwd' hleads']
    exact ⟨differsAt_erase hhas hfile, content?_erase_self hhas hfile⟩
  · rw [clearScratch, remove, hvacant]
    exact ⟨⟨fun _ _ => rfl, h.right, h.right⟩, hnone⟩

/-- A scratch file that cannot be read holds no text, or it is gone. -/
theorem content?_of_readText_error {e : FileError} (herror : m.readText t' m.scratch = .error e) :
    t'.content? k = none ↔ e ≠ .notText := by
  have hcwd' := h.content?_dir hcwd
  unfold readText Tree.readText at herror
  rcases h.file_or_vacant hcwd hleads with ⟨bytes', hfile, hleads'⟩ | ⟨hnone, hvacant⟩
  · rw [(readBytes_iff hcwd').2 ⟨k, hleads'⟩] at herror
    cases htext : String.fromUTF8? bytes' with
    | some text => simp [htext] at herror
    | none =>
      simp only [htext, Except.error.injEq] at herror
      simp [hfile, ← herror]
  · rw [readBytes, hvacant] at herror
    cases herror
    simp [hnone]

end

/-- Formatting a text leaves the files as they were, unless the formatter leaves no text. -/
theorem sameContents_formatText_iff (hcwd : t.content? m.cwd = some .dir)
    (hscratch : t.exists? m.cwd (.ofText m.scratch) = false) (code : String)
    (hformat : s.enabled = true → m.RewritesItsFile s) :
    SameContents t (m.formatText s code t).tree ↔ ¬m.LeavesNoText s code t := by
  unfold formatText LeavesNoText
  by_cases henabled : s.enabled = true
  swap
  · rw [if_neg henabled]
    exact ⟨fun _ hleaves => henabled hleaves.1, fun _ _ => rfl⟩
  rw [if_pos henabled]
  cases hwrite : t.writable m.cwd (.ofText m.scratch) with
  | error e =>
    have herror : t.write m.cwd m.scratch code.toUTF8 = .error e := by
      rw [write, hwrite]
      rfl
    rw [herror]
    exact ⟨fun _ hleaves => by simp at hleaves, fun _ _ => rfl⟩
  | ok k =>
    have hvacant := content?_of_writable hcwd hscratch hwrite
    obtain ⟨-, hhas, hleads⟩ := place_of_writable hcwd hwrite code.toUTF8
    have hwritten := (hhas.put code.toUTF8).1
    have hcwd₁ := hwritten.content?_dir hcwd
    have hrun : DiffersAt (t.put k (.file code.toUTF8))
        (m.runFormatter s m.scratch (t.put k (.file code.toUTF8))).1 k := by
      rw [runFormatter, if_pos henabled]
      exact hformat henabled ⟨hcwd₁, hleads⟩
    simp only [write_of_writable _ hwrite, Except.ok.injEq, exists_eq_left', henabled, true_and]
    generalize m.runFormatter s m.scratch (t.put k (.file code.toUTF8)) = ran at *
    obtain ⟨formatted, outcome⟩ := ran
    obtain ⟨hcleared, hgone⟩ := differsAt_of_clearScratch hcwd₁ hrun hleads
    have hsame : SameContents t (m.clearScratch formatted) :=
      sameContents_of_differsAt ((hwritten.trans hrun).trans hcleared) hvacant hgone
    cases outcome with
    | formatted =>
      dsimp only
      cases hread : m.readText formatted m.scratch with
      | ok text => simpa using hsame
      | error e =>
        have hsame_iff_removed : SameContents t formatted ↔ formatted.content? k = none :=
          ⟨fun h => (h k).trans hvacant, sameContents_of_differsAt (hwritten.trans hrun) hvacant⟩
        simpa [hsame_iff_removed] using content?_of_readText_error hcwd₁ hrun hleads hread
    | disabled => simpa using hsame
    | failed reason => simpa using hsame

/-- When the scratch file is not there at first and the formatter changes no file but its own,
formatting a text leaves the files as they were if and only if the formatter does not leave bytes
that are no text. So does a whole check of the output. -/
theorem check_traceless_iff (hcwd : t.content? m.cwd = some .dir)
    (hscratch : t.exists? m.cwd (.ofText m.scratch) = false) :
    (∀ s code, (s.enabled = true → m.RewritesItsFile s) →
      (SameContents t (m.formatText s code t).tree ↔ ¬m.LeavesNoText s code t)) ∧
    ∀ o : Options, o.check = true →
      (∀ s, m.RunsUnder o t s → s.formatter.enabled = true → m.RewritesItsFile s.formatter) →
      (SameContents t (m.run o t).tree ↔
        ∀ s g, m.Generates o t s g → ¬m.LeavesNoText s.formatter g.code t) := by
  refine ⟨fun s code => sameContents_formatText_iff hcwd hscratch code, fun o hcheck hformat => ?_⟩
  by_cases hgen : ∃ s g, m.Generates o t s g
  · obtain ⟨s, g, hgen⟩ := hgen
    have htree : (m.run o t).tree = (m.formatText s.formatter g.code t).tree := by
      rw [run_tree_of_generates hgen, finish, if_pos hcheck]
      exact compareOutput_tree m s g.code t
    rw [htree, sameContents_formatText_iff hcwd hscratch g.code (hformat s hgen.1)]
    refine ⟨fun h s' g' hgen' => ?_, fun h => h s g hgen⟩
    obtain ⟨rfl, rfl⟩ := hgen.unique hgen'
    exact h
  · have hnone : ∀ s g, ¬m.Generates o t s g := fun s g h => hgen ⟨s, g, h⟩
    rw [run_tree_of_not_generates hnone]
    exact ⟨fun _ s g h => (hnone s g h).elim, fun _ _ => rfl⟩

/-- A formatter that leaves text when it succeeds, and else the file, leaves text. -/
theorem not_leavesNoText_of_formatsByContent {s : Settings} {format : ByteArray → ByteArray}
    (hcwd : t.content? m.cwd = some .dir) (code : String)
    (hformat : s.formatter.enabled = true → m.FormatsByContent s.formatter format) :
    ¬m.LeavesNoText s.formatter code t := by
  rintro ⟨-, written, hwrite, -, hread⟩
  cases hplace : t.writable m.cwd (.ofText m.scratch) with
  | error e => simp [write, hplace, Except.map] at hwrite
  | ok k =>
    rw [write_of_writable _ hplace] at hwrite
    obtain rfl := Except.ok.inj hwrite
    obtain ⟨-, hhas, hleads⟩ := place_of_writable hcwd hplace code.toUTF8
    have hcwd₁ := (hhas.put code.toUTF8).1.content?_dir hcwd
    obtain ⟨hdiffers, hleads₂⟩ := runFormatter_tree hformat hcwd₁ hleads
    obtain ⟨text, htext, -⟩ := fromUTF8?_finalBytes hformat hcwd₁ hleads
    have hok : m.readText _ m.scratch = .ok text :=
      (readText_iff (hdiffers.content?_dir hcwd₁)).2 ⟨k, _, hleads₂, htext⟩
    rw [hok] at hread
    cases hread

/-- A check with `sed` leaves the files as they were. -/
theorem check_traceless_iff_sed :
    let t := sampleFiles [("tmp", .dir [])]
    SameContents t (sampleMachine.run { sampleOptions "z" with check := true } t).tree := by
  intro t
  have hload : sampleMachine.loadSettings t none = .ok sampleSettings :=
    loadSettings_of_samples (hasSamples_sampleFiles rfl)
  have hsettings : ∀ s, sampleMachine.RunsUnder { sampleOptions "z" with check := true } t s →
      s.formatter = sampleSettings.formatter := by
    intro s hs
    rw [hs.unique ⟨_, hload, rfl⟩]
    rfl
  refine ((check_traceless_iff (m := sampleMachine) rfl (by decide +kernel)).2 _ rfl ?_).2 ?_
  · intro s hs _
    rw [hsettings s hs]
    exact fun h => sampleMachine_formatsInPlace.elsewhere h
  · rintro s g ⟨hs, -⟩
    have hformat : sampleMachine.FormatsByContent s.formatter fun _ => "".toUTF8 := by
      rw [hsettings s hs]
      exact sampleMachine_formatsByContent
    exact not_leavesNoText_of_formatsByContent rfl g.code fun _ => hformat

/-- Puts a byte in a file that is no text. -/
def spoil (t : Tree) (_ : String) (args : List String) : Tree × Ending :=
  match t.target [] (.ofText (args.getLast?.getD "")) with
  | .ok (.found l (.file _)) => (t.put l (.file ⟨#[0xFF]⟩), .exited 0 "")
  | _ => (t, .exited 1 "")

/-- A machine whose formatter spoils its file. -/
def spoilingMachine : Machine := { sampleMachine with launch := spoil }

theorem spoilingMachine_rewritesItsFile (s : FormatterSettings) :
    spoilingMachine.RewritesItsFile s := by
  intro t path l bytes h
  have htarget : t.target [] (.ofText path) = .ok (.found l (.file bytes)) :=
    target_of_file h.1 h.2
  have hlaunch : (spoilingMachine.launch t s.command (s.args ++ [path])).1 =
      t.put l (.file ⟨#[0xFF]⟩) := by
    simp [spoilingMachine, spoil, htarget]
  rw [hlaunch]
  exact ((hasPlace_of_file h.1 h.2.2.1.content?_spot).put _).1

/-- A scratch file that cannot be read back is an error, and stays. -/
theorem formatText_of_unreadable {code : String} {written formatted : Tree} {e : FileError}
    (henabled : s.enabled = true) (hwrite : t.write m.cwd m.scratch code.toUTF8 = .ok written)
    (hran : m.runFormatter s m.scratch written = (formatted, .formatted))
    (hread : m.readText formatted m.scratch = .error e) :
    (m.formatText s code t).result = .error e ∧ (m.formatText s code t).tree = formatted := by
  unfold formatText
  rw [if_pos henabled, hwrite]
  simp only [hran, hread, and_self]

/-- Loading runs no command. -/
theorem loadSettings_launch (m : Machine) (launch : Tree → String → List String → Tree × Ending)
    (t : Tree) (asked : Option String) :
    { m with launch }.loadSettings t asked = m.loadSettings t asked := rfl

theorem loadPair_launch (m : Machine) (launch : Tree → String → List String → Tree × Ending)
    (t : Tree) (types protocol : String) :
    { m with launch }.loadPair t types protocol = m.loadPair t types protocol := rfl

/-- A formatter that spoils the scratch file makes the check fail, and the file stays. -/
theorem scratch_file_stays :
    let t := sampleFiles [("tmp", .dir [])]
    let o := { sampleOptions "z" with check := true }
    t.exists? [] (.ofText "tmp/s") = false ∧
      (∀ s, spoilingMachine.RewritesItsFile s) ∧
      (spoilingMachine.run o t).result = .error (.work (.file .notText)) ∧
      (spoilingMachine.run o t).tree.content? ["tmp", "s"] = some (.file ⟨#[0xFF]⟩) ∧
      ¬SameContents t (spoilingMachine.run o t).tree := by
  intro t o
  refine ⟨by decide +kernel, spoilingMachine_rewritesItsFile, ?_⟩
  have hsamples : HasSamples t := hasSamples_sampleFiles rfl
  have hload : spoilingMachine.loadSettings t none = .ok sampleSettings :=
    (loadSettings_launch sampleMachine spoil t none).trans (loadSettings_of_samples hsamples)
  have hpair : spoilingMachine.loadPair t "t" "p" = .ok emptyPair :=
    (loadPair_launch sampleMachine spoil t "t" "p").trans
      (loadPair_of_samples hsamples.toHasDocuments)
  obtain ⟨g, hg⟩ := generateWith_emptyPair "z" (spoilingMachine.readText t)
  obtain ⟨hresult, htree⟩ := run_eq_finish (o := o) hload hpair hg
  let written := sampleFiles [("tmp", .dir [("s", .file g.code.toUTF8)])]
  let spoiled := sampleFiles [("tmp", .dir [("s", .file ⟨#[0xFF]⟩)])]
  have hwrite : t.write [] "tmp/s" g.code.toUTF8 = .ok written := rfl
  have hran : spoilingMachine.runFormatter sampleSettings.formatter "tmp/s" written =
      (spoiled, .formatted) := rfl
  have hread : spoilingMachine.readText spoiled "tmp/s" = .error .notText := by
    have hbytes : spoiled.readBytes [] "tmp/s" = .ok ⟨#[0xFF]⟩ := rfl
    have hnotText : String.fromUTF8? ⟨#[0xFF]⟩ = none := by decide +kernel
    have hcwd : spoilingMachine.cwd = [] := rfl
    simp only [readText, Tree.readText, hcwd, hbytes, hnotText]
  obtain ⟨hfailed, hleft⟩ : (spoilingMachine.formatText sampleSettings.formatter g.code t).result =
        .error .notText ∧
      (spoilingMachine.formatText sampleSettings.formatter g.code t).tree = spoiled :=
    formatText_of_unreadable rfl hwrite hran hread
  have hfinish : (spoilingMachine.compareOutput (o.apply sampleSettings) g.code t).result =
      .error .notText := by
    unfold compareOutput
    rw [show (o.apply sampleSettings).formatter = sampleSettings.formatter from rfl]
    simp only [hfailed]
  have hfile : (spoilingMachine.run o t).tree.content? ["tmp", "s"] = some (.file ⟨#[0xFF]⟩) := by
    rw [htree, finish, if_pos rfl, compareOutput_tree,
      show (o.apply sampleSettings).formatter = sampleSettings.formatter from rfl, hleft]
    rfl
  refine ⟨?_, hfile, fun hsame => ?_⟩
  · rw [hresult, finish, if_pos rfl, hfinish]
    rfl
  · have hnone : t.content? ["tmp", "s"] = none := rfl
    rw [hsame, hnone] at hfile
    cases hfile

end Machine

end ZigReflect
