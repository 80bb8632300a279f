import ZigReflect.Proofs.CheckAfterWrite

/-!
# The output file is written whole or not at all

A run reaches for its output when all of the code has been generated. Until then it leaves every
file (`Machine.run_tree_of_not_generates`). From then on three things can happen to the file at
the path of the output: a check formats the code in the scratch file and leaves the output, a dry
run leaves it, and a run that writes puts the complete code there, or it fails and leaves the file
as it was.

The last point needs a look at how directories are made for the output. Some of them may have been
made when a later one fails, and a new directory can make a path lead to a file that it did not
lead to before: `a/../b` leads to `b` once there is a directory `a`. But a path on which a
directory could not be made leads nowhere (`Tree.makeParent_error`).
-/

namespace ZigReflect

/-! ## The directories that a path goes through -/

namespace FilePath

/-- The path goes through a directory that the other one names. -/
structure GoesThrough (p q : FilePath) : Prop where
  absolute : q.absolute = p.absolute
  pieces : q.pieces <+: p.pieces

theorem GoesThrough.trans {p q r : FilePath} (h : p.GoesThrough q) (h' : q.GoesThrough r) :
    p.GoesThrough r :=
  ⟨h'.absolute.trans h.absolute, h'.pieces.trans h.pieces⟩

/-- A path goes through its parent, and takes at least one more step. -/
theorem goesThrough_parent {p q : FilePath} (h : p.parent? = some q) :
    p.GoesThrough q ∧ ∃ last more, p.steps = q.steps ++ last :: more := by
  unfold parent? at h
  split at h
  · cases h
  next last rest hdropped =>
  cases h
  obtain ⟨voids, hpieces, -, hlast⟩ := dropVoid_spec p.absolute p.pieces.reverse
  obtain ⟨voids', hrest, -, -⟩ := dropVoid_spec p.absolute rest
  rw [hdropped] at hpieces hlast
  rw [hrest] at hpieces
  have hsplit : p.pieces = (dropVoid p.absolute rest).reverse ++
      (voids'.reverse ++ last :: voids.reverse) := by
    rw [← List.reverse_reverse p.pieces, hpieces]
    simp
  refine ⟨⟨rfl, hsplit ▸ List.prefix_append ..⟩, ?_⟩
  have hname : last ≠ "" := by simpa using hlast
  have hsteps : p.steps = (dropVoid p.absolute rest).reverse.filter (· != "") ++
      (voids'.reverse.filter (· != "") ++ last :: voids.reverse.filter (· != "")) := by
    rw [steps, hsplit]
    simp [hname]
  rw [hsteps, steps]
  cases voids'.reverse.filter (· != "") with
  | nil => exact ⟨_, _, rfl⟩
  | cons first more => exact ⟨_, _, rfl⟩

/-- Every path among the ancestors is one that the path goes through, and is not empty. -/
theorem goesThrough_of_mem_ancestorsUpTo : ∀ {n : Nat} {p q : FilePath},
    q ∈ ancestorsUpTo n p → p.GoesThrough q ∧ q.isEmpty = false
  | 0, p, q, h => by simp [ancestorsUpTo] at h
  | n + 1, p, q, h => by
    rw [ancestorsUpTo] at h
    split at h
    · simp at h
    next parent hparent =>
    rcases List.mem_cons.1 h with rfl | h
    · refine ⟨⟨rfl, List.prefix_rfl⟩, ?_⟩
      obtain ⟨-, last, more, hsteps⟩ := goesThrough_parent hparent
      have hmem : last ∈ q.steps := by simp [hsteps]
      obtain ⟨hpiece, hname⟩ := List.mem_filter.1 hmem
      rw [Bool.eq_false_iff]
      intro hempty
      simp only [isEmpty, Bool.and_eq_true, List.all_eq_true, beq_iff_eq] at hempty
      exact absurd (hempty.1.2 last hpiece) (by simpa using hname)
    · obtain ⟨hthrough, hempty⟩ := goesThrough_of_mem_ancestorsUpTo h
      exact ⟨(goesThrough_parent hparent).1.trans hthrough, hempty⟩

theorem GoesThrough.size_le {p q : FilePath} (h : p.GoesThrough q) : q.size ≤ p.size := by
  have hmono : ∀ (pieces : List String) (n : Nat),
      n ≤ pieces.foldl (fun n piece => n + piece.utf8ByteSize + 1) n := by
    intro pieces
    induction pieces with
    | nil => exact fun n => Nat.le_refl n
    | cons piece pieces ih =>
      intro n
      rw [List.foldl_cons]
      exact Nat.le_trans (by omega) (ih (n + piece.utf8ByteSize + 1))
  obtain ⟨more, hmore⟩ := h.pieces
  rw [size, size, ← hmore, List.foldl_append, h.absolute]
  exact Nat.sub_le_sub_right (hmono more _) 1

end FilePath

namespace Tree

open FilePath

variable {t t' : Tree} {cwd : Location}

theorem isPath_of_goesThrough {p q : FilePath} (h : p.GoesThrough q) (hq : q.isEmpty = false)
    (hp : IsPath p) : IsPath q := by
  obtain ⟨hnul, -, hsize⟩ := hp
  refine ⟨?_, hq, Nat.le_trans h.size_le hsize⟩
  rw [List.any_eq_false] at hnul ⊢
  exact fun piece hpiece => hnul piece (h.pieces.subset hpiece)

/-- A path that leads somewhere leads through directories. -/
theorem leadsTo_dir_of_goesThrough {p q : FilePath} {r : Spot} (hleads : t.LeadsTo cwd p r)
    (h : p.GoesThrough q) (hq : q.isEmpty = false)
    (hmore : ∃ last more, p.steps = q.steps ++ last :: more) :
    ∃ d, t.LeadsTo cwd q (.dir d) := by
  obtain ⟨last, more, hsteps⟩ := hmore
  obtain ⟨hpath, hfollow, -⟩ := hleads
  rw [hsteps] at hfollow
  obtain ⟨d, hdir, -⟩ := hfollow.split (by simp)
  have hstart : startOf cwd q = startOf cwd p := by rw [startOf, startOf, h.absolute]
  exact ⟨d, isPath_of_goesThrough h hq hpath, hstart ▸ hdir, by simp⟩

/-! ## Directories that cannot be made -/

theorem makeDir_of_dir (hcwd : t.content? cwd = some .dir) {p : FilePath} {d : Location}
    (h : t.LeadsTo cwd p (.dir d)) :
    t.makeDir cwd p = .error .exists ∧ t.isDir cwd p = true := by
  obtain ⟨target, hwalk, hspot⟩ := (walk_iff hcwd).2 ⟨h.1, h.2.1⟩
  obtain ⟨target', htarget, hspot'⟩ := (target_iff hcwd).2 h
  rcases target with ⟨l, bytes | entries⟩ | l <;> cases hspot
  rcases target' with ⟨l, bytes | entries⟩ | l <;> cases hspot'
  simp [makeDir, hwalk, isDir, htarget]

/-- When one of some directories cannot be made, its path does not lead to a directory. -/
theorem makeEach_error : ∀ {ps : List FilePath} {t t' : Tree} {e : FileError},
    t.content? cwd = some .dir → t.makeEach cwd ps = (t', .error e) →
      ∃ q ∈ ps, ∀ d, ¬t'.LeadsTo cwd q (.dir d)
  | [], t, t', e, _, h => by simp [makeEach] at h
  | p :: ps, t, t', e, hcwd, h => by
    have hnext : ∀ {t₁ : Tree}, t₁.content? cwd = some .dir → t₁.makeEach cwd ps = (t', .error e) →
        ∃ q ∈ p :: ps, ∀ d, ¬t'.LeadsTo cwd q (.dir d) := by
      intro t₁ hcwd₁ h₁
      obtain ⟨q, hq, hdir⟩ := makeEach_error hcwd₁ h₁
      exact ⟨q, List.mem_cons_of_mem p hq, hdir⟩
    unfold makeEach at h
    split at h
    · next t₁ hmade => exact hnext ((grows_makeDir hcwd hmade).kept hcwd) h
    · split at h
      · exact hnext hcwd h
      · next hfile =>
        cases h
        exact ⟨p, List.mem_cons_self, fun d hdir => hfile (makeDir_of_dir hcwd hdir).2⟩
    · next e' hexists hmade =>
      cases h
      refine ⟨p, List.mem_cons_self, fun d hdir => hexists ?_⟩
      rw [(makeDir_of_dir hcwd hdir).1] at hmade
      exact (Except.error.inj hmade).symm

theorem mem_of_firstDir : ∀ {outer inner rest : List FilePath} {t' : Tree},
    t.firstDir cwd outer inner = .ok (t', rest) → ∀ q ∈ rest, q ∈ outer ∨ q ∈ inner
  | [], inner, rest, t', h => by
    cases h
    exact fun q hq => .inr hq
  | p :: outer, inner, rest, t', h => by
    unfold firstDir at h
    split at h
    · cases h
      exact fun q hq => .inr hq
    · intro q hq
      rcases mem_of_firstDir h q hq with houter | hinner
      · exact .inl (List.mem_cons_of_mem p houter)
      · rcases List.mem_cons.1 hinner with rfl | hinner
        · exact .inl List.mem_cons_self
        · exact .inr hinner
    · split at h
      · cases h
        exact fun q hq => .inr hq
      · cases h
    · cases h

/-- When the directory of a file cannot be made, nothing has changed, or the path of the file leads
nowhere. -/
theorem makeParent_error (hcwd : t.content? cwd = some .dir) {path : String} {e : FileError}
    (h : t.makeParent cwd path = (t', .error e)) :
    t' = t ∨ ∀ r, ¬t'.LeadsTo cwd (.ofText path) r := by
  unfold makeParent at h
  split at h
  · cases h
  next parent hparent =>
  split at h
  · cases h
  unfold makeDirs at h
  split at h
  · next t₁ inner hfirst =>
    refine .inr fun r hleads => ?_
    obtain ⟨q, hq, hdir⟩ := makeEach_error ((grows_firstDir hcwd hfirst).kept hcwd) h
    have hmem : q ∈ parent.ancestors := by
      rcases mem_of_firstDir hfirst q hq with hmem | hnone
      · exact hmem
      · simp at hnone
    obtain ⟨hthrough, hempty⟩ := goesThrough_of_mem_ancestorsUpTo hmem
    obtain ⟨hup, last, more, hsteps⟩ := goesThrough_parent hparent
    obtain ⟨between, hbetween⟩ := hthrough.pieces
    have hmore : ∃ last more, (FilePath.ofText path).steps = q.steps ++ last :: more := by
      have hparentSteps : parent.steps = q.steps ++ between.filter (· != "") := by
        rw [FilePath.steps, ← hbetween, List.filter_append, FilePath.steps]
      rw [hsteps, hparentSteps, List.append_assoc]
      cases between.filter (· != "") with
      | nil => exact ⟨_, _, rfl⟩
      | cons first rest => exact ⟨_, _, rfl⟩
    obtain ⟨d, hd⟩ := leadsTo_dir_of_goesThrough hleads (hup.trans hthrough) hempty hmore
    exact hdir d hd
  · cases h
    exact .inl rfl

/-! ## The file at a path -/

/-- The bytes of the file that a path leads to, if it leads to one. -/
def fileAt? (t : Tree) (cwd : Location) (path : String) : Option ByteArray :=
  (t.readBytes cwd path).toOption

theorem fileAt?_eq_some (hcwd : t.content? cwd = some .dir) {path : String} {bytes : ByteArray} :
    t.fileAt? cwd path = some bytes ↔ ∃ l, t.LeadsTo cwd (.ofText path) (.file l bytes) := by
  rw [← readBytes_iff hcwd, fileAt?]
  cases t.readBytes cwd path <;> simp [Except.toOption]

theorem SameFile.fileAt?_eq {path : String} (h : SameFile t t' cwd path)
    (hcwd : t.content? cwd = some .dir) (hcwd' : t'.content? cwd = some .dir) :
    t'.fileAt? cwd path = t.fileAt? cwd path := by
  refine Option.ext fun bytes => ?_
  rw [fileAt?_eq_some hcwd, fileAt?_eq_some hcwd']
  exact exists_congr fun l => (h l bytes).symm

theorem sameFile_refl (t : Tree) (cwd : Location) (path : String) : SameFile t t cwd path :=
  fun _ _ => Iff.rfl

/-- A file that changes elsewhere is not seen. -/
theorem sameFile_of_differsAt (hcwd : t.content? cwd = some .dir) {path : String} {k : Location}
    (h : DiffersAt t t' k) (hplace : t.place? cwd path ≠ some k) : SameFile t t' cwd path := by
  intro l bytes
  constructor
  · intro hleads
    exact h.leadsTo hleads fun hl => hplace ((place?_eq_some hcwd).2 ⟨_, hleads, hl⟩)
  · intro hleads
    by_cases hl : l = k
    · subst hl
      exact (h.leadsTo_iff hcwd hleads.2.1.content?_spot hplace).2 hleads
    · exact h.symm.leadsTo hleads hl

/-- Directories that are made at a path are not seen if it leads to no file then. -/
theorem sameFile_of_grows {path : String} (h : Grows t t')
    (hnone : ∀ l bytes, ¬t'.LeadsTo cwd (.ofText path) (.file l bytes)) :
    SameFile t t' cwd path :=
  fun l bytes => ⟨fun hleads => h.leadsTo hleads trivial, fun hleads => (hnone l bytes hleads).elim⟩

/-- A path that leads to a file can be written. -/
theorem writable_of_file (hcwd : t.content? cwd = some .dir) {p : FilePath} {l : Location}
    {bytes : ByteArray} (h : t.LeadsTo cwd p (.file l bytes)) : t.writable cwd p = .ok l := by
  have hslash : p.slash = false := h.2.2 l bytes rfl
  rw [writable, if_neg (by simp [hslash]), target_of_file hcwd h]

end Tree

namespace Machine

open ZigReflect.Tree

variable {m : Machine} {o : Options} {s : Settings} {t : Tree}

/-- The settings of a run: those that are loaded, with what the options set. -/
def RunsUnder (m : Machine) (o : Options) (t : Tree) (s : Settings) : Prop :=
  ∃ loaded, m.loadSettings t o.config = .ok loaded ∧ s = o.apply loaded

theorem RunsUnder.unique {s' : Settings} (h : m.RunsUnder o t s) (h' : m.RunsUnder o t s') :
    s = s' := by
  obtain ⟨loaded, hload, rfl⟩ := h
  obtain ⟨loaded', hload', rfl⟩ := h'
  rw [hload] at hload'
  cases hload'
  rfl

/-- What a run generates. -/
def Generates (m : Machine) (o : Options) (t : Tree) (s : Settings) (g : Generated) : Prop :=
  m.RunsUnder o t s ∧ ∃ pair, m.loadPair t s.input.types s.input.protocol = .ok pair ∧
    (pair.generateWith s (m.readText t)).result = .ok g

/-- The formatter changes no file but the one it is run on, and none if it cannot be started. -/
structure FormatsInPlace (m : Machine) (s : FormatterSettings) : Prop where
  elsewhere : ∀ {t : Tree} {path : String} {l : Location} {bytes : ByteArray},
    m.HasFile t path l bytes → DiffersAt t (m.launch t s.command (s.args ++ [path])).1 l
  unavailable : ∀ {t : Tree} {path : String} {e : FileError},
    (m.launch t s.command (s.args ++ [path])).2 = .unavailable e →
      (m.launch t s.command (s.args ++ [path])).1 = t

/-- The formatter is disabled, or cannot be started on a file. -/
def LeavesUnformatted (m : Machine) (s : FormatterSettings) (path : String) (t : Tree) : Prop :=
  s.enabled = true → ∃ e, (m.launch t s.command (s.args ++ [path])).2 = .unavailable e

/-- A run has put the complete code in its output file, and has run the formatter on it. -/
structure Delivers (m : Machine) (o : Options) (t : Tree) (s : Settings) (g : Generated) :
    Prop where
  check : o.check = false
  dryRun : o.dryRun = false
  written : ∃ written : Tree, written.fileAt? m.cwd s.output.path = some g.code.toUTF8 ∧
    (m.run o t).tree = (m.runFormatter s.formatter s.output.path written).1 ∧
    (m.LeavesUnformatted s.formatter s.output.path written →
      (m.run o t).tree.fileAt? m.cwd s.output.path = some g.code.toUTF8)

/-! ## Before the code is there -/

/-- A run that generates nothing leaves all files. -/
theorem run_tree_of_not_generates (h : ∀ s g, ¬m.Generates o t s g) : (m.run o t).tree = t := by
  unfold run
  split
  · rfl
  next loaded hload =>
  dsimp only
  split
  · rfl
  next pair hpair =>
  split
  · rfl
  next g hgen => exact (h _ g ⟨⟨loaded, hload, rfl⟩, pair, hpair, hgen⟩).elim

/-- What a run that generates its code does with it. -/
theorem run_tree_of_generates {g : Generated} (h : m.Generates o t s g) :
    (m.run o t).tree = (m.finish o s g t).tree := by
  obtain ⟨⟨loaded, hload, rfl⟩, pair, hpair, hgen⟩ := h
  exact (run_eq_finish hload hpair hgen).2

/-! ## Checking -/

/-- Removing the scratch file changes the place that its path leads to, at most. -/
theorem differsAt_clearScratch {k : Location} (hcwd : t.content? m.cwd = some .dir)
    (hdir : t.content? k ≠ some .dir)
    (hplace : ∀ {l bytes}, t.LeadsTo m.cwd (.ofText m.scratch) (.file l bytes) → l = k) :
    DiffersAt t (m.clearScratch t) k := by
  have hsame : DiffersAt t t k := ⟨fun _ _ => rfl, hdir, hdir⟩
  unfold clearScratch remove
  split
  · next t' hremove =>
    split at hremove
    · next l bytes htarget =>
      cases hremove
      have hleads : t.LeadsTo m.cwd (.ofText m.scratch) (.file l bytes) :=
        (target_iff hcwd).1 ⟨_, htarget, rfl⟩
      obtain rfl := hplace hleads
      have hfile := hleads.2.1.content?_spot
      exact differsAt_erase (hasPlace_of_file hcwd hfile) hfile
    · cases hremove
    · cases hremove
    · cases hremove
  · exact hsame

/-- Formatting a text changes the place of the scratch file, at most. -/
theorem formatText_tree (hcwd : t.content? m.cwd = some .dir) (code : String)
    (hformat : s.formatter.enabled = true → m.FormatsInPlace s.formatter) :
    (m.formatText s.formatter code t).tree = t ∨ s.formatter.enabled = true ∧
      ∃ k, t.place? m.cwd m.scratch = some k ∧
        DiffersAt t (m.formatText s.formatter code t).tree k := by
  unfold formatText
  split
  · next henabled =>
    cases hwrite : t.writable m.cwd (.ofText m.scratch) with
    | error e =>
      have herror : t.write m.cwd m.scratch code.toUTF8 = .error e := by
        rw [write, hwrite]
        rfl
      rw [herror]
      exact .inl rfl
    | ok k =>
      rw [write_of_writable _ hwrite]
      obtain ⟨hplace, hhas, hleads⟩ := place_of_writable hcwd hwrite code.toUTF8
      obtain ⟨hput, hfile⟩ := hhas.put code.toUTF8
      have hcwd₁ := hput.content?_dir hcwd
      have hrun := (hformat henabled).elsewhere ⟨hcwd₁, hleads⟩
      have hcwd₂ := hrun.content?_dir hcwd₁
      refine .inr ⟨henabled, k, hplace, ?_⟩
      have hwritten := hput.trans hrun
      have hcleared : DiffersAt t (m.clearScratch (m.launch (t.put k (.file code.toUTF8))
          s.formatter.command (s.formatter.args ++ [m.scratch])).1) k := by
        refine hwritten.trans (differsAt_clearScratch hcwd₂ hrun.right fun {l bytes} hl => ?_)
        by_contra hne
        have hbefore := target_of_file hcwd₁ (hrun.symm.leadsTo hl hne)
        rw [target_of_file hcwd₁ hleads] at hbefore
        cases hbefore
        exact hne rfl
      simp only [runFormatter, henabled, if_true]
      split
      · split
        · exact hcleared
        · exact hwritten
      · exact hcleared
  · exact .inl rfl

/-- A check changes what formatting the code changes. -/
theorem compareOutput_tree (m : Machine) (s : Settings) (code : String) (t : Tree) :
    (m.compareOutput s code t).tree = (m.formatText s.formatter code t).tree := by
  unfold compareOutput
  dsimp only
  split <;> rfl

/-- A check leaves the output file. -/
theorem sameFile_compareOutput (hcwd : t.content? m.cwd = some .dir) (code : String)
    (hformat : s.formatter.enabled = true → m.FormatsInPlace s.formatter)
    (hscratch : s.formatter.enabled = true → ∀ k, t.place? m.cwd m.scratch = some k →
      t.place? m.cwd s.output.path ≠ some k) :
    SameFile t (m.compareOutput s code t).tree m.cwd s.output.path ∧
      (m.compareOutput s code t).tree.content? m.cwd = some .dir := by
  rw [compareOutput_tree]
  rcases formatText_tree hcwd code hformat with hsame | ⟨henabled, k, hk, hdiffers⟩
  · rw [hsame]
    exact ⟨sameFile_refl _ _ _, hcwd⟩
  · exact ⟨sameFile_of_differsAt hcwd hdiffers (hscratch henabled k hk),
      hdiffers.content?_dir hcwd⟩

/-! ## Writing -/

/-- Output that cannot be written leaves the file as it was. -/
theorem sameFile_deliverOutput (hcwd : t.content? m.cwd = some .dir) {g : Generated}
    {e : FileError} (h : (m.deliverOutput s g t).result = .error e) :
    SameFile t (m.deliverOutput s g t).tree m.cwd s.output.path ∧
      (m.deliverOutput s g t).tree.content? m.cwd = some .dir := by
  have hgrows := grows_makeParent hcwd s.output.path
  rcases hmade : t.makeParent m.cwd s.output.path with ⟨ready, e' | _⟩
  · rw [hmade] at hgrows
    have htree : (m.deliverOutput s g t).tree = ready := by
      simp only [deliverOutput, writeOutput, hmade]
    rw [htree]
    refine ⟨?_, hgrows.kept hcwd⟩
    rcases makeParent_error hcwd hmade with rfl | hnowhere
    · exact sameFile_refl _ _ _
    · exact sameFile_of_grows hgrows fun l bytes => hnowhere _
  · rw [hmade] at hgrows
    cases hplace : ready.writable m.cwd (.ofText s.output.path) with
    | error e' =>
      have herror : ready.write m.cwd s.output.path g.code.toUTF8 = .error e' := by
        rw [write, hplace]
        rfl
      have htree : (m.deliverOutput s g t).tree = ready := by
        simp only [deliverOutput, writeOutput, hmade, herror]
      rw [htree]
      refine ⟨sameFile_of_grows hgrows fun l bytes hleads => ?_, hgrows.kept hcwd⟩
      rw [writable_of_file (hgrows.kept hcwd) hleads] at hplace
      cases hplace
    | ok l =>
      simp [deliverOutput, writeOutput, hmade, write_of_writable _ hplace] at h

/-- The output that a run delivers is the complete code, and then what the formatter makes of
it. -/
theorem delivers_of_deliverOutput (hcwd : t.content? m.cwd = some .dir) {g : Generated} {v : Verdict}
    (hcheck : o.check = false) (hdry : o.dryRun = false) (hgen : m.Generates o t s g)
    (hformat : s.formatter.enabled = true → m.FormatsInPlace s.formatter)
    (h : (m.deliverOutput s g t).result = .ok v) : m.Delivers o t s g := by
  obtain ⟨l, hmade, hplace⟩ := writable_of_deliverOutput h
  have hready := (grows_withOutputDir (s := s) hcwd).kept hcwd
  obtain ⟨-, hhas, hleads⟩ := place_of_writable hready hplace g.code.toUTF8
  have hcode := (fileAt?_eq_some ((hhas.put _).1.content?_dir hready)).2 ⟨l, hleads⟩
  have htree := (run_tree_of_generates hgen).trans
    (congrArg Step.tree (finish_of_write (m := m) (s := s) (t := t) (g := g) hcheck hdry))
  rw [(deliverOutput_of_writable g hmade hplace).2] at htree
  refine ⟨hcheck, hdry, _, hcode, htree, fun hunformatted => ?_⟩
  rw [htree, runFormatter]
  split
  · next henabled =>
    obtain ⟨e, he⟩ := hunformatted henabled
    rw [(hformat henabled).unavailable he]
    exact hcode
  · exact hcode

/-- A run that generates nothing changes no file. One that generates its code leaves the file at
the path of its output as it was, or puts the complete code there and runs the formatter on it; a
check and a dry run leave the file. -/
theorem run_all_or_nothing (hcwd : t.content? m.cwd = some .dir)
    (hformat : ∀ s, m.RunsUnder o t s → s.formatter.enabled = true →
      m.FormatsInPlace s.formatter)
    (hscratch : ∀ s, m.RunsUnder o t s → s.formatter.enabled = true →
      ∀ k, t.place? m.cwd m.scratch = some k → t.place? m.cwd s.output.path ≠ some k) :
    ((∀ s g, ¬m.Generates o t s g) → (m.run o t).tree = t) ∧
    ∀ s, m.RunsUnder o t s →
      (m.run o t).tree.fileAt? m.cwd s.output.path = t.fileAt? m.cwd s.output.path ∨
        ∃ g, m.Generates o t s g ∧ m.Delivers o t s g := by
  refine ⟨run_tree_of_not_generates, fun s hs => ?_⟩
  by_cases hgen : ∃ g, m.Generates o t s g
  · obtain ⟨g, hgen⟩ := hgen
    have htree := run_tree_of_generates hgen
    by_cases hcheck : o.check = true
    · obtain ⟨hsame, hcwd'⟩ :=
        sameFile_compareOutput hcwd g.code (hformat s hs) (hscratch s hs)
      rw [finish, if_pos hcheck] at htree
      rw [htree]
      exact .inl (hsame.fileAt?_eq hcwd hcwd')
    by_cases hdry : o.dryRun = true
    · rw [finish, if_neg hcheck, if_pos hdry] at htree
      rw [htree]
      exact .inl rfl
    rw [Bool.not_eq_true] at hcheck hdry
    cases hresult : (m.deliverOutput s g t).result with
    | error e =>
      obtain ⟨hsame, hcwd'⟩ := sameFile_deliverOutput hcwd hresult
      rw [finish_of_write hcheck hdry] at htree
      rw [htree]
      exact .inl (hsame.fileAt?_eq hcwd hcwd')
    | ok v =>
      exact .inr ⟨g, hgen, delivers_of_deliverOutput hcwd hcheck hdry hgen (hformat s hs) hresult⟩
  · have hnone : ∀ s' g, ¬m.Generates o t s' g := by
      rintro s' g ⟨hs', hpair⟩
      obtain rfl := RunsUnder.unique hs hs'
      exact hgen ⟨g, hs, hpair⟩
    rw [run_tree_of_not_generates hnone]
    exact .inl rfl

theorem sampleMachine_formatsInPlace : sampleMachine.FormatsInPlace sampleSettings.formatter := by
  refine ⟨fun {t path l bytes} h => ?_, fun {t path e} h => ?_⟩
  · rw [sampleMachine_formatsByContent.tree h]
    exact ((hasPlace_of_file h.1 h.2.2.1.content?_spot).put _).1
  · have hstarts : (deleteLines t "sed" ["-i", "d", path]).2 ≠ .unavailable e := by
      simp only [deleteLines]
      split <;> simp
    exact (hstarts h).elim

/-- A check of an old output leaves it, though `sed` is run on the new one. -/
theorem run_all_or_nothing_check :
    let t := sampleFiles [("tmp", .dir []), ("z", .file "old".toUTF8)]
    let o := { sampleOptions "z" with check := true }
    (sampleMachine.run o t).tree.fileAt? [] "z" = some "old".toUTF8 := by
  intro t o
  have hload : sampleMachine.loadSettings t o.config = .ok sampleSettings :=
    loadSettings_of_samples (hasSamples_sampleFiles rfl)
  have hsettings : ∀ s, sampleMachine.RunsUnder o t s → s = o.apply sampleSettings :=
    fun s hs => hs.unique ⟨_, hload, rfl⟩
  have hformat : ∀ s, sampleMachine.RunsUnder o t s → s.formatter.enabled = true →
      sampleMachine.FormatsInPlace s.formatter := by
    rintro s hs -
    rw [hsettings s hs]
    exact sampleMachine_formatsInPlace
  have hscratch : ∀ s, sampleMachine.RunsUnder o t s → s.formatter.enabled = true →
      ∀ k, t.place? [] "tmp/s" = some k → t.place? [] s.output.path ≠ some k := by
    rintro s hs - k hk houtput
    rw [hsettings s hs] at houtput
    have hapart : t.place? [] "tmp/s" ≠ t.place? [] "z" := by decide +kernel
    exact hapart (hk.trans houtput.symm)
  rcases (run_all_or_nothing (m := sampleMachine) rfl hformat hscratch).2 _ ⟨_, hload, rfl⟩ with
    hsame | ⟨g, -, hdelivers⟩
  · exact hsame.trans (by decide +kernel)
  · exact absurd hdelivers.check (by decide)

end Machine

end ZigReflect
