import ZigReflect.Files.Tree

/-!
# What file operations see of a tree

A tree is a directory of directories, but a path sees no more of it than whether there
is a file or a directory at each location on its way (`Tree.content?`). `Tree.Leads`
follows steps by contents alone, and `Tree.follow` agrees with it (`Tree.leads_of_follow`,
`Tree.follow_of_leads`). So to compare a path in two trees, it is enough to compare their
contents.

Putting a file in the place of a file or of nothing changes the content of one location
(`Tree.content?_put`), and so does erasing a file (`Tree.content?_erase`).
-/

namespace ZigReflect

/-- A file with its bytes, or a directory. -/
inductive Content where
  | file (bytes : ByteArray)
  | dir

namespace Tree

/-! ## Contents -/

/-- Whether a tree is a file or a directory. -/
def content : Tree → Content
  | .file bytes => .file bytes
  | .dir _ => .dir

@[simp] theorem content_dir (entries : List (String × Tree)) : (dir entries).content = .dir := rfl

/-- What there is at a location. -/
def content? (t : Tree) (l : Location) : Option Content :=
  (t.get? l).map content

@[simp] theorem get?_nil (t : Tree) : t.get? [] = some t := by
  rw [get?]

theorem get?_cons (t : Tree) (name : String) (rest : Location) :
    t.get? (name :: rest) = (t.entries.lookup name).bind (·.get? rest) := by
  rw [get?]

/-- A location can be followed in two parts. -/
theorem get?_append (t : Tree) (l k : Location) : t.get? (l ++ k) = (t.get? l).bind (·.get? k) := by
  induction l generalizing t with
  | nil => simp
  | cons name l ih => simp [get?_cons, Option.bind_assoc, ih]

theorem content?_nil (t : Tree) : t.content? [] = some t.content := by
  simp [content?]

theorem content?_cons (t : Tree) (name : String) (rest : Location) :
    t.content? (name :: rest) = (t.entries.lookup name).bind (·.content? rest) := by
  rw [content?, get?_cons, Option.map_bind]
  rfl

/-- A file holds nothing. -/
theorem content?_cons_of_entries {t : Tree} (h : t.entries = []) (name : String)
    (rest : Location) : t.content? (name :: rest) = none := by
  simp [content?_cons, h]

theorem content_eq_dir_of_lookup {t inner : Tree} {name : String}
    (h : t.entries.lookup name = some inner) : t.content = .dir := by
  cases t with
  | file bytes => simp [entries] at h
  | dir entries => rfl

/-- What is there stands in a directory. -/
theorem content?_of_append {t : Tree} {parent : Location} {name : String} {c : Content}
    (h : t.content? (parent ++ [name]) = some c) : t.content? parent = some .dir := by
  rw [content?, get?_append] at h
  obtain ⟨node, hnode, -⟩ := Option.map_eq_some_iff.1 h
  obtain ⟨dir, hdir, hnode⟩ := Option.bind_eq_some_iff.1 hnode
  rw [get?_cons] at hnode
  obtain ⟨inner, hinner, -⟩ := Option.bind_eq_some_iff.1 hnode
  rw [content?, hdir, Option.map_some, content_eq_dir_of_lookup hinner]

/-- What a directory is in is a directory. -/
theorem content?_dropLast {t : Tree} {l : Location} (h : t.content? l = some .dir) :
    t.content? l.dropLast = some .dir := by
  rcases List.eq_nil_or_concat l with rfl | ⟨parent, name, rfl⟩
  · exact h
  · rw [List.concat_eq_append] at h ⊢
    rw [List.dropLast_concat]
    exact content?_of_append h

/-- Only a directory has entries. -/
theorem entries_of_content? {t node : Tree} {l : Location} (h : t.content? l ≠ some .dir)
    (hnode : t.get? l = some node) : node.entries = [] := by
  cases node with
  | file bytes => rfl
  | dir entries => simp [content?, hnode, content] at h

/-! ## Putting and erasing -/

/-- What there is below a directory after one of its entries has been set. -/
theorem content?_dir_set (entries : List (String × Tree)) (name : String) (inner : Tree)
    (other : String) (rest : Location) :
    (dir (Keyed.set entries name inner)).content? (other :: rest) =
      if other = name then inner.content? rest else (dir entries).content? (other :: rest) := by
  rw [content?_cons, content?_cons]
  by_cases h : other = name
  · subst h
    simp [Tree.entries]
  · simp [Tree.entries, Keyed.lookup_set_of_ne entries inner h, h]

/-- What is below a node is seen through its entries. -/
theorem content?_dir_entries (t : Tree) (name : String) (rest : Location) :
    (dir t.entries).content? (name :: rest) = t.content? (name :: rest) := by
  rw [content?_cons, content?_cons]
  rfl

/-- Puts a file or an empty directory in the place of a file or of nothing: the content of
that one location changes. -/
theorem content?_put {node : Tree} (hnode : node.entries = []) {name : String} :
    ∀ {parent : Location} {t : Tree}, t.content? parent = some .dir →
      t.content? (parent ++ [name]) ≠ some .dir → ∀ k, (t.put (parent ++ [name]) node).content? k =
        if k = parent ++ [name] then some node.content else t.content? k
  | [], t, hparent, _, [] => by
    rw [content?_nil] at hparent
    simp [put, content?_nil, Option.some.inj hparent]
  | [], t, _, hold, other :: rest => by
    rw [List.nil_append, put, put, content?_dir_set, content?_dir_entries]
    by_cases h : other = name
    · subst h
      cases rest with
      | nil => simp [content?_nil]
      | cons next rest =>
        have hbelow : t.content? (other :: next :: rest) = none := by
          rw [content?, show other :: next :: rest = [other] ++ next :: rest from rfl, get?_append]
          cases hget : t.get? [other] with
          | none => rfl
          | some old =>
            exact content?_cons_of_entries (entries_of_content? hold hget) next rest
        simp [content?_cons_of_entries hnode, hbelow]
    · simp [h]
  | first :: parent, t, hparent, hold, k => by
    have hlookup := hparent
    rw [content?_cons] at hlookup
    obtain ⟨inner, hinner, hparent'⟩ := Option.bind_eq_some_iff.1 hlookup
    have hold' : inner.content? (parent ++ [name]) ≠ some .dir := by
      simpa [content?_cons, hinner] using hold
    rw [List.cons_append, put, hinner, Option.getD_some]
    cases k with
    | nil => simp [content?_nil, content_eq_dir_of_lookup hinner]
    | cons other rest =>
      rw [content?_dir_set, content?_dir_entries, content?_put hnode hparent' hold' rest]
      by_cases h : other = first
      · subst h
        simp [content?_cons, hinner]
      · simp [h]

/-- Taking a name out leaves the other entries. -/
theorem lookup_filter_ne (name other : String) : ∀ entries : List (String × Tree),
    (entries.filter fun x => x.1 ≠ name).lookup other =
      if other = name then none else entries.lookup other
  | [] => by simp
  | (key, node) :: rest => by
    have ih := lookup_filter_ne name other rest
    by_cases hkey : key = name
    · rw [List.filter_cons_of_neg (by simpa using hkey), ih, List.lookup_cons]
      by_cases hother : other = name
      · simp [hother]
      · simp [hother, beq_false_of_ne (hkey ▸ hother : other ≠ key)]
    · rw [List.filter_cons_of_pos (by simpa using hkey), List.lookup_cons, List.lookup_cons, ih]
      by_cases hother : other = key
      · simp [hother, hkey]
      · simp [beq_false_of_ne hother]

/-- Erases a file: the content of its location is gone. -/
theorem content?_erase {name : String} {bytes : ByteArray} :
    ∀ {parent : Location} {t : Tree}, t.content? (parent ++ [name]) = some (.file bytes) →
      ∀ k, (t.erase (parent ++ [name])).content? k =
        if k = parent ++ [name] then none else t.content? k
  | [], t, hfile, [] => by
    have hdir := content?_of_append hfile
    rw [content?_nil] at hdir
    simp [erase, content?_nil, Option.some.inj hdir]
  | [], t, hfile, other :: rest => by
    rw [List.nil_append, erase, content?_cons, content?_cons, Tree.entries, lookup_filter_ne]
    by_cases h : other = name
    · subst h
      cases rest with
      | nil => simp
      | cons next rest =>
        obtain ⟨old, hold, hcontent⟩ :=
          Option.bind_eq_some_iff.1 ((content?_cons ..).symm.trans hfile)
        have hentries : old.entries = [] := by
          cases old with
          | file bytes => rfl
          | dir entries => simp [content?_nil] at hcontent
        simp [hold, content?_cons_of_entries hentries]
    · simp [h]
  | first :: parent, t, hfile, k => by
    obtain ⟨inner, hinner, hfile'⟩ :=
      Option.bind_eq_some_iff.1 ((content?_cons ..).symm.trans hfile)
    have herase : t.erase (first :: parent ++ [name]) =
        dir (Keyed.set t.entries first (inner.erase (parent ++ [name]))) := by
      cases parent <;> simp [erase, hinner]
    rw [herase]
    cases k with
    | nil => simp [content?_nil, content_eq_dir_of_lookup hinner]
    | cons other rest =>
      rw [content?_dir_set, content?_dir_entries, content?_erase hfile' rest]
      by_cases h : other = first
      · subst h
        simp [content?_cons, hinner]
      · simp [h]

end Tree

/-! ## Following paths by contents -/

/-- What a path leads to, as far as file operations can tell. -/
inductive Spot where
  | file (location : Location) (bytes : ByteArray)
  | dir (location : Location)
  | vacant (location : Location)

namespace Spot

/-- Where the spot is. -/
def location : Spot → Location
  | .file l _ => l
  | .dir l => l
  | .vacant l => l

/-- What there is at the spot. -/
def content? : Spot → Option Content
  | .file _ bytes => some (.file bytes)
  | .dir _ => some .dir
  | .vacant _ => none

/-- Whether there is something at the spot. -/
def IsFound : Spot → Prop
  | .vacant _ => False
  | _ => True

end Spot

/-- The spot of a target. -/
def Target.spot : Target → Spot
  | .found l (.file bytes) => .file l bytes
  | .found l (.dir _) => .dir l
  | .vacant l => .vacant l

namespace Tree

/-- Whether a step goes down into a directory by a name that a file can have. -/
def IsName (step : String) : Prop :=
  step ≠ "." ∧ step ≠ ".." ∧ step.utf8ByteSize ≤ 255

/-- Steps from a location lead to a spot, by the contents on the way. -/
inductive Leads (t : Tree) : Location → List String → Spot → Prop
  | file {here : Location} {bytes : ByteArray} (content : t.content? here = some (.file bytes)) :
    Leads t here [] (.file here bytes)
  | dir {here : Location} (content : t.content? here = some .dir) : Leads t here [] (.dir here)
  | stay {here : Location} {rest : List String} {r : Spot} (content : t.content? here = some .dir)
      (next : Leads t here rest r) : Leads t here ("." :: rest) r
  | up {here : Location} {rest : List String} {r : Spot} (content : t.content? here = some .dir)
      (next : Leads t here.dropLast rest r) : Leads t here (".." :: rest) r
  | down {here : Location} {step : String} {rest : List String} {r : Spot}
      (content : t.content? here = some .dir) (name : IsName step)
      (next : Leads t (here ++ [step]) rest r) : Leads t here (step :: rest) r
  | vacant {here : Location} {step : String} (content : t.content? here = some .dir)
      (name : IsName step) (none : t.content? (here ++ [step]) = none) :
    Leads t here [step] (.vacant (here ++ [step]))

/-- Only what is there leads anywhere. -/
theorem Leads.content?_start {t : Tree} {here : Location} {steps : List String} {r : Spot}
    (h : t.Leads here steps r) : ∃ c, t.content? here = some c := by
  cases h <;> exact ⟨_, by assumption⟩

/-- The nodes of the trail are those of the tree. -/
def Coherent (t : Tree) : Trail → Prop
  | [] => True
  | (name, node) :: trail =>
    t.Coherent trail ∧ t.get? (Trail.location trail ++ [name]) = some node

theorem Trail.location_cons (name : String) (node : Tree) (trail : Trail) :
    Trail.location ((name, node) :: trail) = trail.location ++ [name] := by
  simp [Trail.location]

theorem Trail.location_tail (trail : Trail) :
    Trail.location trail.tail = trail.location.dropLast := by
  simp [Trail.location, List.map_tail]

theorem Coherent.tail {t : Tree} : ∀ {trail : Trail}, t.Coherent trail → t.Coherent trail.tail
  | [], h => h
  | _ :: _, h => h.1

/-- A coherent trail ends at what is at its location. -/
theorem Coherent.get?_location {t : Tree} : ∀ {trail : Trail}, t.Coherent trail →
    t.get? trail.location = some ((trail.head?.map (·.2)).getD t)
  | [], _ => by simp [Trail.location]
  | (name, node) :: trail, h => by rw [Trail.location_cons, h.2]; rfl

theorem Coherent.content?_location {t : Tree} {trail : Trail} (h : t.Coherent trail) :
    t.content? trail.location = some ((trail.head?.map (·.2)).getD t).content := by
  rw [content?, h.get?_location, Option.map_some]

/-- One step from the end of a trail into a directory. -/
theorem Coherent.get?_step {t : Tree} {trail : Trail} (h : t.Coherent trail)
    {entries : List (String × Tree)} (hdir : (trail.head?.map (·.2)).getD t = .dir entries)
    (step : String) : t.get? (trail.location ++ [step]) = entries.lookup step := by
  rw [get?_append, h.get?_location, hdir, Option.bind_some, get?_cons, Tree.entries]
  simp

/-- Along a trail of the tree, steps lead where they are followed to. -/
theorem leads_of_follow {t : Tree} : ∀ {steps : List String} {trail : Trail} {target : Target},
    t.Coherent trail → t.follow trail steps = .ok target →
      t.Leads trail.location steps target.spot
  | [], trail, target, h, hfollow => by
    have hcontent := h.content?_location
    rw [follow] at hfollow
    cases hfollow
    cases hnode : (trail.head?.map (·.2)).getD t with
    | file bytes =>
      rw [hnode] at hcontent
      exact .file hcontent
    | dir entries =>
      rw [hnode] at hcontent
      exact .dir hcontent
  | step :: rest, trail, target, h, hfollow => by
    have hcontent := h.content?_location
    rw [follow] at hfollow
    split at hfollow
    · cases hfollow
    next entries hdir =>
    rw [hdir, content_dir] at hcontent
    split at hfollow
    · next hdot =>
      subst hdot
      exact .stay hcontent (leads_of_follow h hfollow)
    next hdot =>
    split at hfollow
    · next hdots =>
      subst hdots
      have hnext := leads_of_follow h.tail hfollow
      rw [Trail.location_tail] at hnext
      exact .up hcontent hnext
    next hdots =>
    split at hfollow
    · cases hfollow
    next hlong =>
    have hname : IsName step := ⟨hdot, hdots, Nat.le_of_not_lt hlong⟩
    have hstep := h.get?_step hdir step
    split at hfollow
    · next node hnode =>
      have hnext := leads_of_follow
        (show t.Coherent ((step, node) :: trail) from ⟨h, hstep.trans hnode⟩) hfollow
      rw [Trail.location_cons] at hnext
      exact .down hcontent hname hnext
    · next hnone =>
      split at hfollow
      · next hlast =>
        cases hfollow
        rw [List.isEmpty_iff.1 hlast]
        exact .vacant hcontent hname (by rw [content?, hstep, hnone]; rfl)
      · cases hfollow

/-- A coherent trail to a directory has its entries. -/
theorem Coherent.dir_of_content? {t : Tree} {trail : Trail} (h : t.Coherent trail)
    (hdir : t.content? trail.location = some .dir) :
    ∃ entries, (trail.head?.map (·.2)).getD t = .dir entries := by
  rw [h.content?_location] at hdir
  cases hnode : (trail.head?.map (·.2)).getD t with
  | file bytes => simp [hnode, content] at hdir
  | dir entries => exact ⟨entries, rfl⟩

/-- Where steps lead, they are followed to. -/
theorem follow_of_leads {t : Tree} {here : Location} {steps : List String} {r : Spot}
    (h : t.Leads here steps r) : ∀ {trail : Trail}, t.Coherent trail → trail.location = here →
      ∃ target, t.follow trail steps = .ok target ∧ target.spot = r := by
  induction h with
  | file content =>
    rintro trail htrail rfl
    rw [htrail.content?_location] at content
    cases hnode : (trail.head?.map (·.2)).getD t with
    | file bytes =>
      rw [hnode] at content
      cases content
      exact ⟨_, by rw [follow, hnode], rfl⟩
    | dir entries => simp [hnode] at content
  | dir content =>
    rintro trail htrail rfl
    obtain ⟨entries, hdir⟩ := htrail.dir_of_content? content
    exact ⟨_, by rw [follow, hdir], rfl⟩
  | stay content _ ih =>
    rintro trail htrail rfl
    obtain ⟨entries, hdir⟩ := htrail.dir_of_content? content
    obtain ⟨target, hfollow, hspot⟩ := ih htrail rfl
    exact ⟨target, by simp [follow, hdir, hfollow], hspot⟩
  | up content _ ih =>
    rintro trail htrail rfl
    obtain ⟨entries, hdir⟩ := htrail.dir_of_content? content
    obtain ⟨target, hfollow, hspot⟩ := ih htrail.tail trail.location_tail
    exact ⟨target, by simp [follow, hdir, hfollow], hspot⟩
  | @down here step rest r content name next ih =>
    rintro trail htrail rfl
    obtain ⟨entries, hdir⟩ := htrail.dir_of_content? content
    have hstep := htrail.get?_step hdir step
    obtain ⟨c, hcontent⟩ := next.content?_start
    rw [content?, hstep] at hcontent
    obtain ⟨node, hnode, -⟩ := Option.map_eq_some_iff.1 hcontent
    obtain ⟨target, hfollow, hspot⟩ := ih
      (show t.Coherent ((step, node) :: trail) from ⟨htrail, hstep.trans hnode⟩)
      (Trail.location_cons step node trail)
    obtain ⟨hdot, hdots, hlong⟩ := name
    refine ⟨target, ?_, hspot⟩
    rw [follow, hdir]
    simp [hdot, hdots, Nat.not_lt.2 hlong, hnode, hfollow]
  | vacant content name none =>
    rintro trail htrail rfl
    obtain ⟨entries, hdir⟩ := htrail.dir_of_content? content
    rw [content?, htrail.get?_step hdir, Option.map_eq_none_iff] at none
    obtain ⟨hdot, hdots, hlong⟩ := name
    exact ⟨_, by rw [follow, hdir]; simp [hdot, hdots, Nat.not_lt.2 hlong, none]; rfl, rfl⟩

/-- A trail and the node it leads to, with one name more. -/
def lengthen : Trail × Tree → String → Trail × Tree
  | (trail, here), name =>
    let next := (here.entries.lookup name).getD (.dir [])
    ((name, next) :: trail, next)

theorem trailTo_eq (t : Tree) (l : Location) : t.trailTo l = (l.foldl lengthen ([], t)).1 := rfl

/-- Following a location step by step keeps the trail coherent. -/
theorem coherent_foldl_lengthen {t : Tree} : ∀ (l : Location) {trail : Trail} {here : Tree},
    t.Coherent trail → t.get? trail.location = some here → here.content? l = some .dir →
      t.Coherent (l.foldl lengthen (trail, here)).1 ∧
        (l.foldl lengthen (trail, here)).1.location = trail.location ++ l
  | [], trail, here, htrail, _, _ => by simp [htrail]
  | name :: l, trail, here, htrail, hhere, hl => by
    rw [content?_cons] at hl
    obtain ⟨next, hnext, hl⟩ := Option.bind_eq_some_iff.1 hl
    have hget : t.get? (trail.location ++ [name]) = some next := by
      simp [get?_append, hhere, get?_cons, hnext]
    have hrest := coherent_foldl_lengthen l
      (show t.Coherent ((name, next) :: trail) from ⟨htrail, hget⟩)
      (by rw [Trail.location_cons, hget]) hl
    rw [Trail.location_cons, List.append_assoc] at hrest
    rw [List.foldl_cons, lengthen, hnext]
    exact hrest

/-- The trail to a directory is coherent, and it leads there. -/
theorem coherent_trailTo {t : Tree} {l : Location} (h : t.content? l = some .dir) :
    t.Coherent (t.trailTo l) ∧ (t.trailTo l).location = l := by
  rw [trailTo_eq]
  exact coherent_foldl_lengthen l trivial (get?_nil t) h

/-- Where the steps of a path start. -/
def startOf (cwd : Location) (p : FilePath) : Location :=
  if p.absolute then [] else cwd

/-- The text of the path can be that of a path. -/
def IsPath (p : FilePath) : Prop :=
  p.pieces.any hasNul = false ∧ p.isEmpty = false ∧ p.size ≤ maxPath

/-- A path leads to a spot. -/
def LeadsTo (t : Tree) (cwd : Location) (p : FilePath) (r : Spot) : Prop :=
  IsPath p ∧ t.Leads (startOf cwd p) p.steps r ∧
    ∀ l bytes, r = .file l bytes → p.slash = false

section

variable {t : Tree} {cwd : Location} (hcwd : t.content? cwd = some .dir)
include hcwd

/-- Walking finds what the steps lead to. -/
theorem walk_iff {p : FilePath} {steps : List String} {r : Spot} :
    (∃ target, t.walk cwd p steps = .ok target ∧ target.spot = r) ↔
      IsPath p ∧ t.Leads (startOf cwd p) steps r := by
  have hstart : ∃ trail, t.Coherent trail ∧ trail.location = startOf cwd p ∧
      trail = if p.absolute then [] else t.trailTo cwd := by
    unfold startOf
    split
    · exact ⟨[], trivial, rfl, rfl⟩
    · exact ⟨_, (coherent_trailTo hcwd).1, (coherent_trailTo hcwd).2, rfl⟩
  obtain ⟨trail, htrail, hlocation, heq⟩ := hstart
  unfold walk IsPath
  rw [← heq, ← hlocation]
  constructor
  · rintro ⟨target, hwalk, rfl⟩
    split at hwalk
    · cases hwalk
    next hnul =>
    split at hwalk
    · cases hwalk
    next hempty =>
    split at hwalk
    · cases hwalk
    next hsize =>
    exact ⟨⟨by simpa using hnul, by simpa using hempty, Nat.le_of_not_lt hsize⟩,
      leads_of_follow htrail hwalk⟩
  · rintro ⟨⟨hnul, hempty, hsize⟩, hleads⟩
    simpa [hnul, hempty, Nat.not_lt.2 hsize] using follow_of_leads hleads htrail rfl

/-- The target of a path is what it leads to. -/
theorem target_iff {p : FilePath} {r : Spot} :
    (∃ target, t.target cwd p = .ok target ∧ target.spot = r) ↔ t.LeadsTo cwd p r := by
  unfold LeadsTo
  rw [← and_assoc, ← walk_iff hcwd, target]
  rcases t.walk cwd p p.steps with e | ⟨l, bytes | entries⟩ | l
  · simp
  · cases p.slash with
    | false => simp
    | true =>
      simp only [Target.spot, if_true, Except.ok.injEq, exists_eq_left', reduceCtorEq, false_and,
        exists_false, false_iff, not_and]
      rintro rfl h
      exact h l bytes rfl
  · simp only [Target.spot, Except.ok.injEq, exists_eq_left']
    exact ⟨fun h => ⟨h, fun l bytes hr => by rw [hr] at h; cases h⟩, And.left⟩
  · simp only [Target.spot, Except.ok.injEq, exists_eq_left']
    exact ⟨fun h => ⟨h, fun l bytes hr => by rw [hr] at h; cases h⟩, And.left⟩

/-! ## Operations -/

/-- The target of a path to a file is the file. -/
theorem target_of_file {p : FilePath} {l : Location} {bytes : ByteArray}
    (h : t.LeadsTo cwd p (.file l bytes)) :
    t.target cwd p = .ok (.found l (.file bytes)) := by
  obtain ⟨target, htarget, hspot⟩ := (target_iff hcwd).2 h
  rcases target with ⟨l, bytes | entries⟩ | l <;> cases hspot
  exact htarget

theorem isFile_iff {p : FilePath} :
    t.isFile cwd p = true ↔ ∃ l bytes, t.LeadsTo cwd p (.file l bytes) := by
  simp only [← target_iff hcwd, isFile]
  rcases t.target cwd p with e | ⟨l, bytes | entries⟩ | l <;> simp [Target.spot]

/-- A path exists if it leads to something that is found. -/
theorem exists?_iff {p : FilePath} :
    t.exists? cwd p = true ↔ ∃ r, t.LeadsTo cwd p r ∧ r.IsFound := by
  simp only [← target_iff hcwd, exists?]
  rcases t.target cwd p with e | ⟨l, bytes | entries⟩ | l <;> simp [Target.spot, Spot.IsFound]

/-- Bytes are read of the file that the path leads to. -/
theorem readBytes_iff {path : String} {bytes : ByteArray} :
    t.readBytes cwd path = .ok bytes ↔
      ∃ l, t.LeadsTo cwd (.ofText path) (.file l bytes) := by
  simp only [← target_iff hcwd, readBytes]
  rcases t.target cwd (.ofText path) with e | ⟨l, bytes' | entries⟩ | l <;>
    simp [Target.spot]

/-- A text is read of a file whose bytes encode it. -/
theorem readText_iff {path text : String} :
    t.readText cwd path = .ok text ↔
      ∃ l bytes, t.LeadsTo cwd (.ofText path) (.file l bytes) ∧
        String.fromUTF8? bytes = some text := by
  constructor
  · intro h
    unfold readText at h
    split at h
    · next bytes hbytes =>
      obtain ⟨l, hl⟩ := (readBytes_iff hcwd).1 hbytes
      split at h
      · next htext =>
        cases h
        exact ⟨l, bytes, hl, htext⟩
      · cases h
    · cases h
  · rintro ⟨l, bytes, hl, htext⟩
    simp [readText, (readBytes_iff hcwd).2 ⟨l, hl⟩, htext]

end

end Tree

end ZigReflect
