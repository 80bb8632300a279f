import ZigReflect.Proofs.FileTree

/-!
# What changes with a file, and what does not

Writing a file in the place of a file or of nothing changes the content of one location,
and so does removing a file (`DiffersAt`). A path that does not lead there leads where it
led before (`DiffersAt.leadsTo`). Making directories leaves all contents that are there
(`Grows`), so a path that leads to something still leads to it.
-/

namespace ZigReflect

namespace Tree

variable {t t' : Tree}

/-! ## Trees that differ at one location -/

/-- The contents are the same but at one location, where neither tree has a directory. -/
structure DiffersAt (t t' : Tree) (l : Location) : Prop where
  elsewhere : ∀ k, k ≠ l → t.content? k = t'.content? k
  left : t.content? l ≠ some .dir
  right : t'.content? l ≠ some .dir

/-- No steps lead on from a location that is no directory. -/
theorem Leads.eq_nil_of_start {l : Location} {steps : List String} {r : Spot}
    (h : t.Leads l steps r) (hl : t.content? l ≠ some .dir) : steps = [] := by
  cases h with
  | file _ => rfl
  | dir content => exact (hl content).elim
  | stay content _ => exact (hl content).elim
  | up content _ => exact (hl content).elim
  | down content _ _ => exact (hl content).elim
  | vacant content _ _ => exact (hl content).elim

namespace DiffersAt

variable {l : Location}

theorem symm (h : DiffersAt t t' l) : DiffersAt t' t l :=
  ⟨fun k hk => (h.elsewhere k hk).symm, h.right, h.left⟩

theorem trans {t'' : Tree} (h : DiffersAt t t' l) (h' : DiffersAt t' t'' l) :
    DiffersAt t t'' l :=
  ⟨fun k hk => (h.elsewhere k hk).trans (h'.elsewhere k hk), h.left, h'.right⟩

/-- Both trees have the same directories. -/
theorem content?_dir (h : DiffersAt t t' l) {k : Location} (hk : t.content? k = some .dir) :
    t'.content? k = some .dir := by
  rw [← h.elsewhere k fun heq => h.left (heq ▸ hk)]
  exact hk

theorem ne_of_dir (h : DiffersAt t t' l) {k : Location} (hk : t.content? k = some .dir) : k ≠ l :=
  fun heq => h.left (heq ▸ hk)

/-- Steps that lead to another location lead there in both trees. -/
theorem leads (h : DiffersAt t t' l) {here : Location} {steps : List String} {r : Spot}
    (hleads : t.Leads here steps r) : r.location ≠ l → t'.Leads here steps r := by
  induction hleads with
  | file content =>
    intro hl
    exact .file (h.elsewhere _ hl ▸ content)
  | dir content =>
    intro hl
    exact .dir (h.content?_dir content)
  | stay content _ ih =>
    intro hl
    exact .stay (h.content?_dir content) (ih hl)
  | up content _ ih =>
    intro hl
    exact .up (h.content?_dir content) (ih hl)
  | down content name _ ih =>
    intro hl
    exact .down (h.content?_dir content) name (ih hl)
  | vacant content name none =>
    intro hl
    exact .vacant (h.content?_dir content) name (h.elsewhere _ hl ▸ none)

/-- Steps that lead to the location from elsewhere lead to the file that the other tree has
there. -/
theorem leads_file (h : DiffersAt t t' l) {bytes : ByteArray}
    (hfile : t'.content? l = some (.file bytes)) {here : Location} {steps : List String} {r : Spot}
    (hleads : t.Leads here steps r) : r.location = l → t'.Leads here steps (.file l bytes) := by
  induction hleads with
  | file content =>
    rintro rfl
    exact .file hfile
  | dir content =>
    rintro rfl
    exact (h.left content).elim
  | stay content _ ih =>
    intro hl
    exact .stay (h.content?_dir content) (ih hl)
  | up content _ ih =>
    intro hl
    exact .up (h.content?_dir content) (ih hl)
  | down content name _ ih =>
    intro hl
    exact .down (h.content?_dir content) name (ih hl)
  | vacant content name none =>
    rintro rfl
    exact .down (h.content?_dir content) name (.file hfile)

/-- Steps that lead to the location lead to a vacant place where the other tree has nothing. -/
theorem leads_vacant (h : DiffersAt t t' l) (hnone : t'.content? l = none) {here : Location}
    {steps : List String} {r : Spot} (hleads : t.Leads here steps r) :
    here ≠ l → r.location = l → t'.Leads here steps (.vacant l) := by
  induction hleads with
  | file _ => exact fun hne hl => (hne hl).elim
  | dir _ => exact fun hne hl => (hne hl).elim
  | stay content _ ih => exact fun hne hl => .stay (h.content?_dir content) (ih hne hl)
  | up content _ ih =>
    intro hne hl
    exact .up (h.content?_dir content) (ih (h.ne_of_dir (content?_dropLast content)) hl)
  | @down here step rest r content name next ih =>
    intro hne hl
    by_cases hlast : here ++ [step] = l
    · subst hlast
      rw [next.eq_nil_of_start h.left]
      exact .vacant (h.content?_dir content) name hnone
    · exact .down (h.content?_dir content) name (ih hlast hl)
  | vacant content name none =>
    rintro - rfl
    exact .vacant (h.content?_dir content) name hnone

variable {cwd : Location} {p : FilePath} {r : Spot}

theorem leadsTo (h : DiffersAt t t' l) (hleads : t.LeadsTo cwd p r) (hl : r.location ≠ l) :
    t'.LeadsTo cwd p r :=
  ⟨hleads.1, h.leads hleads.2.1 hl, hleads.2.2⟩

theorem leadsTo_file (h : DiffersAt t t' l) {bytes : ByteArray}
    (hfile : t'.content? l = some (.file bytes)) (hleads : t.LeadsTo cwd p r)
    (hl : r.location = l) (hslash : p.slash = false) : t'.LeadsTo cwd p (.file l bytes) :=
  ⟨hleads.1, h.leads_file hfile hleads.2.1 hl, fun _ _ _ => hslash⟩

end DiffersAt

/-! ## Where paths lead -/

/-- The tree has at the end of the steps what they lead to. -/
theorem Leads.content?_spot {here : Location} {steps : List String} {r : Spot}
    (h : t.Leads here steps r) : t.content? r.location = r.content? := by
  induction h with
  | file content => exact content
  | dir content => exact content
  | stay _ _ ih => exact ih
  | up _ _ ih => exact ih
  | down _ _ _ ih => exact ih
  | vacant _ _ none => exact none

/-- There is no file in an empty directory. -/
theorem isFile_dir_nil (p : FilePath) : (dir []).isFile [] p = false := by
  rw [← Bool.not_eq_true, isFile_iff rfl]
  rintro ⟨l, bytes, -, hleads, -⟩
  have hfile := hleads.content?_spot
  cases l <;> cases hfile

/-- A vacant place is in a directory that is there. -/
theorem Leads.parent_of_vacant {here l : Location} {steps : List String}
    (h : t.Leads here steps (.vacant l)) :
    ∃ parent name, l = parent ++ [name] ∧ t.content? parent = some .dir := by
  generalize hr : Spot.vacant l = r at h
  induction h with
  | file _ => cases hr
  | dir _ => cases hr
  | stay _ _ ih => exact ih hr
  | up _ _ ih => exact ih hr
  | down _ _ _ ih => exact ih hr
  | vacant content _ _ =>
    cases hr
    exact ⟨_, _, rfl, content⟩

/-- Steps that end in one to the directory itself or its parent lead to a directory. -/
theorem Leads.dir_of_dots {here : Location} {steps : List String} {r : Spot}
    (h : t.Leads here steps r) :
    (steps.getLast?.any FilePath.isDots) = true → ∃ l, r = .dir l := by
  induction h with
  | file _ => simp
  | dir _ => simp
  | @stay here rest r content next ih =>
    intro hdots
    cases rest with
    | nil =>
      cases next with
      | file content' => simp [content] at content'
      | dir _ => exact ⟨_, rfl⟩
    | cons step rest => exact ih (by simpa using hdots)
  | @up here rest r content next ih =>
    intro hdots
    cases rest with
    | nil =>
      cases next with
      | file content' => simp [content?_dropLast content] at content'
      | dir _ => exact ⟨_, rfl⟩
    | cons step rest => exact ih (by simpa using hdots)
  | @down here step rest r content name next ih =>
    intro hdots
    cases rest with
    | nil => simp [FilePath.isDots, name.1, name.2.1] at hdots
    | cons step rest => exact ih (by simpa using hdots)
  | vacant content name _ =>
    intro hdots
    simp [FilePath.isDots, name.1, name.2.1] at hdots

/-- Steps lead on from a directory only. -/
theorem Leads.dir_of_cons {here : Location} {step : String} {rest : List String} {r : Spot}
    (h : t.Leads here (step :: rest) r) : t.content? here = some .dir := by
  cases h <;> assumption

/-- The first of some steps lead to the directory that the others start from. -/
theorem Leads.split {rest : List String} (hrest : rest ≠ []) {r : Spot} :
    ∀ {first : List String} {here : Location}, t.Leads here (first ++ rest) r →
      ∃ d, t.Leads here first (.dir d) ∧ t.Leads d rest r
  | [], here, h => by
    obtain ⟨step, rest, rfl⟩ := List.exists_cons_of_ne_nil hrest
    exact ⟨here, .dir h.dir_of_cons, h⟩
  | step :: first, here, h => by
    rw [List.cons_append] at h
    generalize hsteps : step :: (first ++ rest) = steps at h
    cases h with
    | file _ => cases hsteps
    | dir _ => cases hsteps
    | stay content next =>
      cases hsteps
      obtain ⟨d, hfirst, hlast⟩ := Leads.split hrest next
      exact ⟨d, .stay content hfirst, hlast⟩
    | up content next =>
      cases hsteps
      obtain ⟨d, hfirst, hlast⟩ := Leads.split hrest next
      exact ⟨d, .up content hfirst, hlast⟩
    | down content name next =>
      cases hsteps
      obtain ⟨d, hfirst, hlast⟩ := Leads.split hrest next
      exact ⟨d, .down content name hfirst, hlast⟩
    | vacant _ _ _ => simp [hrest] at hsteps

theorem Leads.append {here d : Location} {first rest : List String} {r : Spot}
    (h : t.Leads here first (.dir d)) (hrest : t.Leads d rest r) :
    t.Leads here (first ++ rest) r := by
  generalize hs : Spot.dir d = s at h
  induction h with
  | file _ => cases hs
  | dir _ =>
    cases hs
    exact hrest
  | stay content _ ih => exact .stay content (ih hs)
  | up content _ ih => exact .up content (ih hs)
  | down content name _ ih => exact .down content name (ih hs)
  | vacant _ _ _ => cases hs

/-- What the first step of some is, and where it goes. -/
theorem Leads.cons_inv {here : Location} {step : String} {rest : List String} {r : Spot}
    (h : t.Leads here (step :: rest) r) :
    (step = "." ∧ t.Leads here rest r) ∨ (step = ".." ∧ t.Leads here.dropLast rest r) ∨
      (IsName step ∧ (t.Leads (here ++ [step]) rest r ∨
        t.content? (here ++ [step]) = none ∧ rest = [])) := by
  cases h with
  | stay _ next => exact .inl ⟨rfl, next⟩
  | up _ next => exact .inr (.inl ⟨rfl, next⟩)
  | down _ name next => exact .inr (.inr ⟨name, .inl next⟩)
  | vacant _ name none => exact .inr (.inr ⟨name, .inr ⟨none, rfl⟩⟩)

/-- Steps that go on after others lead where they lead from the end of those. -/
theorem Leads.rest {here d : Location} {first rest : List String} {r : Spot}
    (h : t.Leads here first (.dir d)) : t.Leads here (first ++ rest) r → t.Leads d rest r := by
  generalize hs : Spot.dir d = s at h
  induction h with
  | file _ => cases hs
  | dir _ =>
    cases hs
    exact id
  | stay _ _ ih =>
    intro hleads
    rcases hleads.cons_inv with ⟨-, hnext⟩ | ⟨heq, -⟩ | ⟨hname, -⟩
    · exact ih hs hnext
    · exact absurd heq (by decide)
    · exact (hname.1 rfl).elim
  | up _ _ ih =>
    intro hleads
    rcases hleads.cons_inv with ⟨heq, -⟩ | ⟨-, hnext⟩ | ⟨hname, -⟩
    · exact absurd heq (by decide)
    · exact ih hs hnext
    · exact (hname.2.1 rfl).elim
  | down _ name next ih =>
    intro hleads
    rcases hleads.cons_inv with ⟨heq, -⟩ | ⟨heq, -⟩ | ⟨-, hnext | ⟨hnone, -⟩⟩
    · exact (name.1 heq).elim
    · exact (name.2.1 heq).elim
    · exact ih hs hnext
    · obtain ⟨c, hc⟩ := next.content?_start
      simp [hnone] at hc
  | vacant _ _ _ => cases hs

/-- Where a path leads, to something or to a vacant place. -/
def place? (t : Tree) (cwd : Location) (path : String) : Option Location :=
  match t.target cwd (.ofText path) with
  | .ok target => some target.spot.location
  | .error _ => none

/-! ## Putting and erasing files -/

/-- There is a directory with a file or with nothing at the location. -/
def HasPlace (t : Tree) (l : Location) : Prop :=
  t.content? l ≠ some .dir ∧ ∃ parent name, l = parent ++ [name] ∧ t.content? parent = some .dir

/-- A file that is put in its place is there, and nothing else has changed. -/
theorem HasPlace.put {l : Location} (h : t.HasPlace l) (bytes : ByteArray) :
    DiffersAt t (t.put l (.file bytes)) l ∧
      (t.put l (.file bytes)).content? l = some (.file bytes) := by
  obtain ⟨hold, parent, name, rfl, hparent⟩ := h
  have hput := content?_put (show (Tree.file bytes).entries = [] from rfl) hparent hold
  have hthere := hput (parent ++ [name])
  rw [if_pos rfl] at hthere
  exact ⟨⟨fun k hk => by rw [hput k, if_neg hk], hold, by simp [hthere, content]⟩, hthere⟩

theorem differsAt_erase {l : Location} (h : t.HasPlace l) {bytes : ByteArray}
    (hfile : t.content? l = some (.file bytes)) : DiffersAt t (t.erase l) l := by
  obtain ⟨hold, parent, name, rfl, -⟩ := h
  have herase := content?_erase hfile
  exact ⟨fun k hk => by rw [herase k, if_neg hk], hold, by simp [herase]⟩

/-! ## Writing and removing files -/

section

variable {cwd : Location} (hcwd : t.content? cwd = some .dir)
include hcwd

theorem place?_eq_some {path : String} {l : Location} :
    t.place? cwd path = some l ↔ ∃ r, t.LeadsTo cwd (.ofText path) r ∧ r.location = l := by
  simp only [← target_iff hcwd, place?]
  rcases t.target cwd (.ofText path) with e | target <;> simp

theorem content?_root : t.content? [] = some .dir := by
  cases cwd with
  | nil => exact hcwd
  | cons name rest =>
    rw [content?_cons] at hcwd
    obtain ⟨inner, hinner, -⟩ := Option.bind_eq_some_iff.1 hcwd
    rw [content?_nil, content_eq_dir_of_lookup hinner]

theorem content?_startOf (p : FilePath) : t.content? (startOf cwd p) = some .dir := by
  unfold startOf
  split
  · exact content?_root hcwd
  · exact hcwd

/-- A path leads to the same spot in both trees, unless it leads to where they differ: the file
that it leads to now is a file or a vacant place that it led to before. -/
theorem DiffersAt.leadsTo_iff {l : Location} (h : DiffersAt t t' l) {bytes : ByteArray}
    (hfile : t'.content? l = some (.file bytes)) {path : String}
    (hplace : t.place? cwd path ≠ some l) {r : Spot} :
    t.LeadsTo cwd (.ofText path) r ↔ t'.LeadsTo cwd (.ofText path) r := by
  have helsewhere : ∀ {r}, t.LeadsTo cwd (.ofText path) r → r.location ≠ l :=
    fun hleads hl => hplace ((place?_eq_some hcwd).2 ⟨_, hleads, hl⟩)
  refine ⟨fun hleads => h.leadsTo hleads (helsewhere hleads), fun hleads => ?_⟩
  by_cases hl : r.location = l
  · have hr : r = .file l bytes := by
      have hspot := hleads.2.1.content?_spot
      rw [hl, hfile] at hspot
      cases r <;> cases hspot
      rw [← hl]
      rfl
    have hslash := hleads.2.2 l bytes hr
    cases hcontent : t.content? l with
    | none =>
      have hvacant := h.symm.leads_vacant hcontent hleads.2.1
        (h.ne_of_dir (content?_startOf hcwd _)) hl
      exact (helsewhere ⟨hleads.1, hvacant, by simp⟩ rfl).elim
    | some c =>
      cases c with
      | dir => exact (h.left hcontent).elim
      | file old => exact (helsewhere (h.symm.leadsTo_file hcontent hleads hl hslash) rfl).elim
  · exact h.symm.leadsTo hleads hl

theorem hasPlace_of_file {l : Location} {bytes : ByteArray}
    (h : t.content? l = some (.file bytes)) : t.HasPlace l := by
  refine ⟨by simp [h], ?_⟩
  rcases List.eq_nil_or_concat l with rfl | ⟨parent, name, rfl⟩
  · simp [content?_root hcwd] at h
  · rw [List.concat_eq_append] at h ⊢
    exact ⟨parent, name, rfl, content?_of_append h⟩

/-- A path that can be written leads to a place for a file, without a slash after it. -/
theorem writable_iff {p : FilePath} {l : Location} (h : t.writable cwd p = .ok l) :
    p.slash = false ∧ t.HasPlace l ∧ ∃ r, t.LeadsTo cwd p r ∧ r.location = l := by
  unfold writable at h
  split at h
  · split at h <;> cases h
  next hslash =>
  split at h
  · next k bytes htarget =>
    cases h
    have hleads := (target_iff hcwd).1 ⟨_, htarget, rfl⟩
    exact ⟨hleads.2.2 l bytes rfl, hasPlace_of_file hcwd hleads.2.1.content?_spot, _, hleads, rfl⟩
  · cases h
  · next k htarget =>
    cases h
    have hleads := (target_iff hcwd).1 ⟨_, htarget, rfl⟩
    have hnone : t.content? l = none := hleads.2.1.content?_spot
    refine ⟨?_, ⟨by simp [hnone], hleads.2.1.parent_of_vacant⟩, _, hleads, rfl⟩
    cases hs : p.slash with
    | false => rfl
    | true =>
      obtain ⟨k, hk⟩ := hleads.2.1.dir_of_dots (by simpa [hs] using hslash)
      cases hk
  · cases h

/-- A file that is put where its path can be written is where its path leads. -/
theorem place_of_writable {path : String} {l : Location}
    (h : t.writable cwd (.ofText path) = .ok l) (bytes : ByteArray) :
    t.place? cwd path = some l ∧ t.HasPlace l ∧
      (t.put l (.file bytes)).LeadsTo cwd (.ofText path) (.file l bytes) := by
  obtain ⟨hslash, hplace, r, hleads, hl⟩ := writable_iff hcwd h
  obtain ⟨hdiffers, hfile⟩ := hplace.put bytes
  exact ⟨(place?_eq_some hcwd).2 ⟨r, hleads, hl⟩, hplace,
    hdiffers.leadsTo_file hfile hleads hl hslash⟩

theorem remove_of_file {path : String} {l : Location} {bytes : ByteArray}
    (h : t.LeadsTo cwd (.ofText path) (.file l bytes)) :
    t.remove cwd path = .ok (t.erase l) := by
  rw [remove, target_of_file hcwd h]

end

/-! ## Making directories -/

/-- What is there in the first tree is there in the second one, and what is new there are
directories. -/
structure Grows (t t' : Tree) : Prop where
  kept : ∀ {k c}, t.content? k = some c → t'.content? k = some c
  files : ∀ {k bytes}, t'.content? k = some (.file bytes) → t.content? k = some (.file bytes)

namespace Grows

theorem refl (t : Tree) : Grows t t :=
  ⟨id, id⟩

theorem trans {t'' : Tree} (h : Grows t t') (h' : Grows t' t'') : Grows t t'' :=
  ⟨fun hk => h'.kept (h.kept hk), fun hk => h.files (h'.files hk)⟩

/-- Steps that lead to something lead to it when there is more. -/
theorem leads (h : Grows t t') {here : Location} {steps : List String} {r : Spot}
    (hleads : t.Leads here steps r) : r.IsFound → t'.Leads here steps r := by
  induction hleads with
  | file content => exact fun _ => .file (h.kept content)
  | dir content => exact fun _ => .dir (h.kept content)
  | stay content _ ih => exact fun hr => .stay (h.kept content) (ih hr)
  | up content _ ih => exact fun hr => .up (h.kept content) (ih hr)
  | down content name _ ih => exact fun hr => .down (h.kept content) name (ih hr)
  | vacant _ _ _ => exact fun hr => hr.elim

theorem leadsTo (h : Grows t t') {cwd : Location} {p : FilePath} {r : Spot}
    (hleads : t.LeadsTo cwd p r) (hr : r.IsFound) : t'.LeadsTo cwd p r :=
  ⟨hleads.1, h.leads hleads.2.1 hr, hleads.2.2⟩

/-- What steps start from that lead somewhere was a directory if it is one. -/
theorem dir_of_start (h : Grows t t') {here : Location} {steps : List String} {r : Spot}
    (hleads : t.Leads here steps r) (hdir : t'.content? here = some .dir) :
    t.content? here = some .dir := by
  obtain ⟨c, hc⟩ := hleads.content?_start
  rw [hc, ← h.kept hc, hdir]

/-- Steps that do not go up and lead to a file led to it before. -/
theorem leads_of_file (h : Grows t t') {l here : Location} {bytes : ByteArray}
    {steps : List String} (hleads : t'.Leads here steps (.file l bytes)) :
    ".." ∉ steps → t.Leads here steps (.file l bytes) := by
  generalize hr : Spot.file l bytes = r at hleads ⊢
  induction hleads with
  | file content => exact fun _ => .file (h.files content)
  | dir _ => cases hr
  | stay content _ ih =>
    intro hup
    have hnext := ih hr (List.not_mem_of_not_mem_cons hup)
    exact .stay (h.dir_of_start hnext content) hnext
  | up _ _ _ => exact fun hup => (hup (List.mem_cons_self ..)).elim
  | down content name _ ih =>
    intro hup
    have hnext := ih hr (List.not_mem_of_not_mem_cons hup)
    obtain ⟨c, hc⟩ := hnext.content?_start
    exact .down (content?_of_append hc) name hnext
  | vacant _ _ _ => cases hr

end Grows

variable {cwd : Location}

theorem grows_makeDir (hcwd : t.content? cwd = some .dir) {p : FilePath}
    (h : t.makeDir cwd p = .ok t') : Grows t t' := by
  unfold makeDir at h
  split at h
  · cases h
  · next l hwalk =>
    cases h
    obtain ⟨-, hleads⟩ := (walk_iff hcwd).1 ⟨_, hwalk, rfl⟩
    have hnone : t.content? l = none := hleads.content?_spot
    obtain ⟨parent, name, rfl, hparent⟩ := hleads.parent_of_vacant
    have hput := content?_put (show (Tree.dir []).entries = [] from rfl) hparent
      (show t.content? (parent ++ [name]) ≠ some .dir by simp [hnone])
    refine ⟨fun {k c} hk => ?_, fun {k bytes} hk => ?_⟩
    · rw [hput k, if_neg]
      · exact hk
      · rintro rfl
        simp [hnone] at hk
    · rw [hput k] at hk
      split at hk
      · simp at hk
      · exact hk
  · cases h

theorem grows_firstDir : ∀ {outer : List FilePath} {t : Tree}, t.content? cwd = some .dir →
    ∀ {inner rest : List FilePath} {t' : Tree},
      t.firstDir cwd outer inner = .ok (t', rest) → Grows t t'
  | [], t, hcwd, inner, rest, t', h => by
    cases h
    exact .refl t
  | p :: outer, t, hcwd, inner, rest, t', h => by
    unfold firstDir at h
    split at h
    · next t₁ hmade =>
      cases h
      exact grows_makeDir hcwd hmade
    · exact grows_firstDir hcwd h
    · split at h
      · cases h
        exact .refl t
      · cases h
    · cases h

theorem grows_makeEach : ∀ {ps : List FilePath} {t : Tree}, t.content? cwd = some .dir →
    Grows t (t.makeEach cwd ps).1
  | [], t, _ => .refl t
  | p :: inner, t, hcwd => by
    unfold makeEach
    split
    · next t₁ hmade =>
      have hgrows := grows_makeDir hcwd hmade
      exact hgrows.trans (grows_makeEach (hgrows.kept hcwd))
    · split
      · exact grows_makeEach hcwd
      · exact .refl t
    · exact .refl t

/-- Making the directory of a file leaves what is there. -/
theorem grows_makeParent (hcwd : t.content? cwd = some .dir) (path : String) :
    Grows t (t.makeParent cwd path).1 := by
  unfold makeParent
  split
  · exact .refl t
  split
  · exact .refl t
  unfold makeDirs
  split
  · next t₁ inner hfirst =>
    have hgrows := grows_firstDir hcwd hfirst
    exact hgrows.trans (grows_makeEach (hgrows.kept hcwd))
  · exact .refl t

end Tree

end ZigReflect
