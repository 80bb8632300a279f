import Mathlib.Data.Prod.Lex
import ZigReflect.Proofs.ByteOrder
import ZigReflect.Proofs.NameResolution

/-!
# Searches

A name matches a query if it contains the query: the characters of the query stand in the name
in their order (`Fuzzy.Contains`). The matcher takes the first place for each of them, which
finds a place for all of them if there is one. Matches are sorted by a linear order, in which no
two different names are equal (`precedes_iff_rank_le`). So the order in which the index gives
its names does not matter, and a search finds the first names of one ranking of all names that
match (`search_takes_ranking`).
-/

namespace ZigReflect

open Text

/-! ## Matching -/

namespace Fuzzy

/-- The characters of the query stand in the name, in their order. Capitals are told from small
letters if there is a capital in the query. -/
def Contains (query name : String) : Prop :=
  if query.toList.any (·.isUpper) then query.toList.Sublist name.toList
  else (query.toList.map (·.toLower)).Sublist (name.toList.map (·.toLower))

instance (query name : String) : Decidable (Contains query name) :=
  inferInstanceAs (Decidable (ite _ _ _))

theorem isUpper_eq (c : Char) : c.isUpper = ('A' ≤ c && c ≤ 'Z') :=
  Bool.decide_and _ _

/-- Lower case is that of the standard library. -/
theorem lowerAscii_eq (c : Char) : lowerAscii c = c.toLower := by
  rw [lowerAscii, ← isUpper_eq]
  by_cases h : c.val ≥ 'A'.val ∧ c.val ≤ 'Z'.val
  · have hupper : c.isUpper = true := decide_eq_true h
    have hlower : c.toLower.val = c.val + 32 := congrArg Char.val (dif_pos h)
    have hle : c.toNat ≤ 90 := h.2
    rw [if_pos hupper, Char.ofNat, dif_pos (.inl (by omega))]
    refine Char.ext (UInt32.toNat_inj.1 ?_)
    rw [hlower, UInt32.toNat_add]
    exact (Nat.mod_eq_of_lt (show c.toNat + 32 < 2 ^ 32 by omega)).symm
  · have hnot : ¬c.isUpper = true := mt of_decide_eq_true h
    have hlower : c.toLower = c := dif_neg h
    rw [if_neg hnot, hlower]

/-- What two characters have in common if they match. -/
def foldCase (sensitive : Bool) (c : Char) : Char :=
  if sensitive then c else lowerAscii c

/-- Characters agree if they are equal when their case is folded, where that is asked for. -/
theorem agrees_eq (sensitive : Bool) (c p : Char) :
    agrees sensitive c p = decide (foldCase sensitive c = foldCase sensitive p) := by
  cases sensitive
  · rw [Bool.eq_iff_iff]
    simp only [agrees, foldCase, Bool.not_false, Bool.true_and, Bool.or_eq_true, beq_iff_eq,
      Bool.false_eq_true, if_false, decide_eq_true_eq]
    exact ⟨fun h => h.elim (congrArg lowerAscii) id, .inr⟩
  · simp [agrees, foldCase, beq_eq_decide]

/-- The first places are found if there are places at all. -/
theorem isSome_positions? (sensitive : Bool) : ∀ (start : Nat) (name query : List Char),
    (positions? sensitive start name query).isSome ↔
      (query.map (foldCase sensitive)).Sublist (name.map (foldCase sensitive))
  | _, _, [] => by simp [positions?]
  | _, [], _ :: _ => by simp [positions?]
  | start, c :: name, p :: query => by
    simp only [positions?, agrees_eq, decide_eq_true_eq, List.map_cons]
    split
    · next h => rw [Option.isSome_map, isSome_positions? sensitive, h, List.cons_sublist_cons]
    · next h =>
      rw [isSome_positions? sensitive, List.cons_sublist_cons', List.map_cons]
      simp [Ne.symm h]

/-- A name has a score if it contains the query. -/
theorem isSome_score (query name : String) : (score query name).isSome ↔ Contains query name := by
  have hscore : (score query name).isSome =
      (positions? (isCaseSensitive query.toList) 0 name.toList query.toList).isSome := by
    unfold score
    dsimp only
    split
    · next h => simp [h]
    · next h =>
      rw [h]
      split <;> rfl
  have hsensitive : isCaseSensitive query.toList = query.toList.any (·.isUpper) := by
    simp only [isCaseSensitive, isUpper_eq]
  rw [hscore, isSome_positions?, Contains, hsensitive]
  have hlower : foldCase false = Char.toLower := funext lowerAscii_eq
  have hsame : foldCase true = id := rfl
  cases query.toList.any (·.isUpper) <;> simp [hlower, hsame]

example : Fuzzy.Contains "capa" "clientCapabilities" := by decide

example : ¬Fuzzy.Contains "capA" "clientCapabilities" := by decide

/-- The first name is ranked before the second one: its score is higher, or the same and its
bytes come first. -/
def Outranks (query a b : String) : Prop :=
  ∃ m n, score query a = some m ∧ score query b = some n ∧ (n < m ∨ m = n ∧ bytes a < bytes b)

end Fuzzy

namespace Document

/-! ## The order of matches -/

/-- The greater the score of a match, the lesser its rank. -/
def rank (m : Int × String) : Intᵒᵈ ×ₗ String :=
  toLex (OrderDual.toDual m.1, m.2)

/-- No two matches have one rank, since the rank has both the score and the name. -/
theorem rank_injective : Function.Injective rank := by
  rintro ⟨m, a⟩ ⟨n, b⟩ h
  simpa [rank] using h

/-- A match precedes another one by rank. -/
theorem precedes_iff_rank_le {a b : Int × String} : precedes a b ↔ rank a ≤ rank b := by
  rw [rank, rank, Prod.Lex.toLex_le_toLex]
  simp [precedes, Std.LawfulBCmp.isLE_iff_le]

theorem precedes_trans (a b c : Int × String) (hab : precedes a b) (hbc : precedes b c) :
    precedes a c := by
  rw [precedes_iff_rank_le] at hab hbc ⊢
  exact hab.trans hbc

theorem precedes_total (a b : Int × String) : precedes a b || precedes b a := by
  rw [Bool.or_eq_true, precedes_iff_rank_le, precedes_iff_rank_le]
  exact le_total _ _

/-- Sorted matches are in the order of their ranks. -/
theorem pairwise_mergeSort_precedes (ms : List (Int × String)) :
    (ms.mergeSort precedes).Pairwise fun a b => rank a ≤ rank b :=
  (List.pairwise_mergeSort precedes_trans precedes_total ms).imp precedes_iff_rank_le.1

/-- The sorted matches do not depend on the order in which they were found. -/
theorem mergeSort_precedes_perm {ms ns : List (Int × String)} (h : ms.Perm ns) :
    ms.mergeSort precedes = ns.mergeSort precedes :=
  List.Perm.eq_of_pairwise (fun _ _ _ _ hab hba => rank_injective (hab.antisymm hba))
    (pairwise_mergeSort_precedes ms) (pairwise_mergeSort_precedes ns)
    ((List.mergeSort_perm ms _).trans (h.trans (List.mergeSort_perm ns _).symm))

/-! ## Rankings -/

/-- The names that match a query, with their scores. -/
def hits (query : String) (names : List String) : List (Int × String) :=
  names.filterMap fun name => (Fuzzy.score query name).map fun score => (score, name)

/-- What a search finds if the index gives its names in this order. -/
def searchAmong (names : List String) (query : String) (limit : Nat) : List String :=
  (((hits query names).mergeSort precedes).take limit).map (·.2)

theorem search_eq_searchAmong (doc : Document) (query : String) (limit : Nat) :
    doc.search query limit = searchAmong doc.names.keys query limit :=
  rfl

/-- All names that match a query, best first. -/
def ranking (query : String) (names : List String) : List String :=
  ((hits query names).mergeSort precedes).map (·.2)

/-- A search gives the first of the ranking. -/
theorem searchAmong_eq_take (names : List String) (query : String) (limit : Nat) :
    searchAmong names query limit = (ranking query names).take limit :=
  List.map_take

/-- The ranking does not depend on the order of the names. -/
theorem ranking_perm (query : String) {names names' : List String} (h : names.Perm names') :
    ranking query names = ranking query names' := by
  have hhits : (hits query names).Perm (hits query names') := h.filterMap _
  rw [ranking, ranking, mergeSort_precedes_perm hhits]

/-- A hit is a name with its score. -/
theorem mem_hits {query : String} {names : List String} {m : Int × String} :
    m ∈ hits query names ↔ m.2 ∈ names ∧ Fuzzy.score query m.2 = some m.1 := by
  simp only [hits, List.mem_filterMap, Option.map_eq_some_iff]
  constructor
  · rintro ⟨name, hname, score, hscore, rfl⟩
    exact ⟨hname, hscore⟩
  · rintro ⟨hname, hscore⟩
    exact ⟨m.2, hname, m.1, hscore, rfl⟩

theorem map_snd_hits (query : String) (names : List String) :
    (hits query names).map (·.2) = names.filter (Fuzzy.Contains query ·) := by
  rw [hits, List.map_filterMap, ← List.filterMap_eq_filter]
  refine List.filterMap_congr fun name _ => ?_
  have hname := Fuzzy.isSome_score query name
  by_cases hcontains : Fuzzy.Contains query name
  · obtain ⟨score, hscore⟩ := Option.isSome_iff_exists.1 (hname.2 hcontains)
    simp [hscore, hcontains, Option.guard]
  · have hnone : Fuzzy.score query name = none :=
      Option.not_isSome_iff_eq_none.1 (mt hname.1 hcontains)
    simp [hnone, hcontains, Option.guard]

/-- The ranking has the names that contain the query. -/
theorem perm_ranking (query : String) (names : List String) :
    (ranking query names).Perm (names.filter (Fuzzy.Contains query ·)) := by
  rw [ranking, ← map_snd_hits]
  exact (List.mergeSort_perm _ _).map _

/-- Each name of the ranking outranks those behind it. -/
theorem pairwise_ranking (query : String) {names : List String} (h : names.Nodup) :
    (ranking query names).Pairwise (Fuzzy.Outranks query) := by
  have hnames : (ranking query names).Nodup :=
    (perm_ranking query names).nodup_iff.2 (h.filter _)
  rw [ranking, List.nodup_iff_pairwise_ne, List.pairwise_map] at hnames
  rw [ranking, List.pairwise_map]
  refine ((pairwise_mergeSort_precedes _).and hnames).imp_of_mem ?_
  intro a b ha hb hab
  obtain ⟨hle, hne⟩ := hab
  have hlt := lt_of_le_of_ne hle fun h => hne (congrArg Prod.snd (rank_injective h))
  refine ⟨a.1, b.1, (mem_hits.1 (List.mem_mergeSort.1 ha)).2,
    (mem_hits.1 (List.mem_mergeSort.1 hb)).2, ?_⟩
  rw [rank, rank, Prod.Lex.toLex_lt_toLex, lt_iff_bytes_lt] at hlt
  exact hlt

/-- The list ranks the names below the root that contain the query: each of them once, the
higher scores first, and the lesser bytes first where scores are the same. -/
structure IsRanking (root : Declaration) (query : String) (ranked : List String) : Prop where
  nodup : ranked.Nodup
  mem_iff : ∀ name, name ∈ ranked ↔ root.namesakes name ≠ [] ∧ Fuzzy.Contains query name
  ordered : ranked.Pairwise (Fuzzy.Outranks query)

/-- The index has the names that have namesakes. -/
theorem mem_names_iff {root : Declaration} {name : String} :
    name ∈ (ofRoot root).names ↔ root.namesakes name ≠ [] := by
  have hlength : ((ofRoot root).byName name).length = (root.namesakes name).length := by
    rw [byName_eq_mergeSort, List.length_mergeSort]
  rw [← List.length_pos_iff, ← hlength, byName_ofRoot, List.length_map,
    ← List.countP_eq_length_filter, List.countP_pos_iff, mem_names_ofRoot, List.mem_map]
  simp only [beq_iff_eq]

/-- The ranking of the names of a document is the one that is specified. -/
theorem isRanking_ranking (root : Declaration) (query : String) :
    IsRanking root query (ranking query (ofRoot root).names.keys) where
  nodup := (perm_ranking query _).nodup_iff.2 (Std.TreeMap.nodup_keys.filter _)
  mem_iff name := by
    rw [(perm_ranking query _).mem_iff, List.mem_filter, Std.TreeMap.mem_keys, mem_names_iff,
      decide_eq_true_eq]
  ordered := pairwise_ranking query Std.TreeMap.nodup_keys

/-- Whatever the order in which the index gives its names, and whatever the limit, a search
finds the first names of the ranking. -/
theorem search_takes_ranking (root : Declaration) (query : String) :
    ∃ ranked, IsRanking root query ranked ∧
      (∀ names, names.Perm (ofRoot root).names.keys → ∀ limit,
        searchAmong names query limit = ranked.take limit) ∧
      ∀ limit, (ofRoot root).search query limit = ranked.take limit ∧
        ((ofRoot root).search query limit).length = min limit ranked.length := by
  have htake : ∀ names, names.Perm (ofRoot root).names.keys → ∀ limit,
      searchAmong names query limit = (ranking query (ofRoot root).names.keys).take limit := by
    intro names hnames limit
    rw [searchAmong_eq_take, ranking_perm query hnames]
  refine ⟨_, isRanking_ranking root query, htake, fun limit => ?_⟩
  rw [search_eq_searchAmong, htake _ (.refl _)]
  exact ⟨rfl, List.length_take⟩

end Document

end ZigReflect
