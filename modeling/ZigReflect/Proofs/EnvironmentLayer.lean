import Mathlib.Data.List.Induction
import ZigReflect.Proofs.Assignments
import ZigReflect.Settings.Environment

/-!
# The layer of the environment

A variable sets one key, and of the variables that set a key the last one decides
(`Environment.lookup_layer`). The keys are in lower case and no two of them are the same, and no
value is a table, so the layer assigns one value to the path of each key
(`Environment.mem_assignments_layer`). A path of two names is spelled by one key only
(`Toml.key_of_keyPath`). So no order of the layer changes what it sets.
-/

namespace ZigReflect

open ZigReflect.Text

namespace Keyed

variable {κ α : Type} [BEq κ] [LawfulBEq κ]

theorem mem_keys_set {xs : List (κ × α)} {key k : κ} {a : α} :
    k ∈ (set xs key a).map Prod.fst ↔ k = key ∨ k ∈ xs.map Prod.fst := by
  induction xs with
  | nil => simp [set]
  | cons x rest ih =>
    obtain ⟨other, b⟩ := x
    rw [set]
    split
    · next heq =>
      obtain rfl : key = other := by simpa using heq
      simp
    · rw [List.map_cons, List.mem_cons, ih, List.map_cons, List.mem_cons]
      exact or_left_comm

/-- Setting a key keeps the keys distinct. -/
theorem nodup_keys_set {xs : List (κ × α)} (h : (xs.map Prod.fst).Nodup) (key : κ) (a : α) :
    ((set xs key a).map Prod.fst).Nodup := by
  induction xs with
  | nil => simp [set]
  | cons x rest ih =>
    obtain ⟨other, b⟩ := x
    rw [List.map_cons, List.nodup_cons] at h
    rw [set]
    split
    · next heq =>
      obtain rfl : key = other := by simpa using heq
      exact List.nodup_cons.2 h
    · next hne =>
      rw [List.map_cons, List.nodup_cons, mem_keys_set, not_or]
      exact ⟨⟨fun heq => hne (by simpa using heq.symm), h.1⟩, ih h.2⟩

/-- A pair whose key is there once is the one that is found. -/
theorem lookup_of_mem {xs : List (κ × α)} (hnodup : (xs.map Prod.fst).Nodup) {key : κ} {a : α}
    (h : (key, a) ∈ xs) : xs.lookup key = some a := by
  induction xs with
  | nil => cases h
  | cons x rest ih =>
    obtain ⟨other, b⟩ := x
    rw [List.map_cons, List.nodup_cons] at hnodup
    rcases List.mem_cons.1 h with heq | hrest
    · cases heq
      simp
    · have hne : key ≠ other := by
        rintro rfl
        exact hnodup.1 (List.mem_map.2 ⟨_, hrest, rfl⟩)
      rw [List.lookup_cons, beq_false_of_ne hne]
      exact ih hnodup.2 hrest

theorem mem_of_lookup {xs : List (κ × α)} {key : κ} {a : α} (h : xs.lookup key = some a) :
    (key, a) ∈ xs := by
  obtain ⟨before, after, rfl, -⟩ := List.lookup_eq_some_iff.1 h
  simp

end Keyed

/-! ## Keys and their paths -/

theorem Text.lowerAscii_lowerAscii (c : Char) : lowerAscii (lowerAscii c) = lowerAscii c := by
  have hsmall : ∀ n < 26, lowerAscii (Char.ofNat (97 + n)) = Char.ofNat (97 + n) := by decide
  cases hcapital : 'A' ≤ c && c ≤ 'Z' with
  | false =>
    have hsame : lowerAscii c = c := by rw [lowerAscii, hcapital, if_neg (by simp)]
    rw [hsame, hsame]
  | true =>
    simp only [Bool.and_eq_true, decide_eq_true_eq] at hcapital
    have hlow : 65 ≤ c.toNat := hcapital.1
    have hhigh : c.toNat ≤ 90 := hcapital.2
    have hletter : lowerAscii c = Char.ofNat (97 + (c.toNat - 65)) := by
      rw [lowerAscii, if_pos (by simp [hcapital]), show c.toNat + 32 = 97 + (c.toNat - 65) by omega]
    rw [hletter]
    exact hsmall _ (by omega)

namespace Toml

/-- Only the end of a key gives no steps. -/
theorem eq_nil_of_steps? {fuel : Nat} {cs : List Char} (h : steps? fuel cs = some []) :
    cs = [] := by
  unfold steps? at h
  split at h
  · rfl
  · cases h
  · dsimp only at h
    split at h <;> simp at h
  · simp [Option.bind_eq_some_iff] at h
  · cases h

/-- A step in brackets is a place. -/
theorem ne_key_of_place? {cs rest : List Char} {step : Step} (h : place? cs = some (step, rest))
    (name : String) : step ≠ .key name := by
  revert h
  unfold place?
  grind

/-- One more name is spelled with a point before it. -/
theorem eq_of_steps?_key {fuel : Nat} {cs : List Char} {name : String}
    (h : steps? fuel cs = some [.key name]) : cs = '.' :: name.toList := by
  unfold steps? at h
  split at h
  · cases h
  · cases h
  · next fuel rest =>
    dsimp only at h
    split at h
    · cases h
    · obtain ⟨steps, hsteps, heq⟩ := Option.map_eq_some_iff.1 h
      obtain ⟨hname, rfl⟩ := List.cons.inj heq
      have hend := eq_nil_of_steps? hsteps
      have hwhole := List.takeWhile_append_dropWhile (p := isPathChar) (l := rest)
      rw [hend, List.append_nil] at hwhole
      rw [← Step.key.inj hname, String.toList_ofList, hwhole]
  · next fuel rest =>
    obtain ⟨⟨step, rest'⟩, hplace, hmap⟩ := Option.bind_eq_some_iff.1 h
    obtain ⟨steps, -, heq⟩ := Option.map_eq_some_iff.1 hmap
    exact absurd (List.cons.inj heq).1 (ne_key_of_place? hplace name)
  · cases h

/-- A path of two names is spelled with a point between them. -/
theorem key_of_keyPath {key first second : String}
    (h : keyPath key = [.key first, .key second]) : key = first ++ "." ++ second := by
  unfold keyPath at h
  dsimp only at h
  split at h
  · next steps hsteps =>
    split at h
    · cases h
    · obtain ⟨hname, rfl⟩ := List.cons.inj h
      have hrest := eq_of_steps?_key hsteps
      have hwhole := List.takeWhile_append_dropWhile (p := isPathChar) (l := key.toList)
      rw [hrest] at hwhole
      rw [← Step.key.inj hname]
      apply String.toList_inj.1
      rw [String.toList_append, String.toList_append, String.toList_ofList, List.append_assoc]
      exact hwhole.symm
  · cases h

theorem isTable_of_fitInteger {i : Int} {v : Toml} (h : fitInteger i = some v) :
    v.isTable = false := by
  unfold fitInteger at h
  split at h
  · cases h
    rfl
  · cases h

end Toml

/-! ## The layer -/

namespace Environment

open Toml

/-- The value of a variable is no table. -/
theorem isTable_value (text : String) : (value text).isTable = false := by
  unfold value
  split
  · rfl
  · rfl
  · split
    · next v hv =>
      unfold integer? at hv
      dsimp only at hv
      split at hv
      · cases hv
      · exact isTable_of_fitInteger hv
    · unfold float?
      dsimp only
      cases magnitude? (splitSign text.toList).1 (splitSign text.toList).2 <;> rfl

theorem mem_of_mem_pointed {c : Char} {cs : List Char} (h : c ∈ pointed cs) : c = '.' ∨ c ∈ cs := by
  fun_induction pointed cs with
  | case1 rest ih =>
    rcases List.mem_cons.1 h with h | h
    · exact .inl h
    · exact (ih h).imp_right fun h => List.mem_cons_of_mem _ (List.mem_cons_of_mem _ h)
  | case2 d rest _ ih =>
    rcases List.mem_cons.1 h with h | h
    · exact .inr (h ▸ List.mem_cons_self)
    · exact (ih h).imp_right (List.mem_cons_of_mem _)
  | case3 => cases h

/-- The key of a variable is in lower case. -/
theorem lower_of_key? {name key : String} (h : key? name = some key) : lower key = key := by
  unfold key? at h
  dsimp only at h
  split at h
  · obtain rfl := Option.some.inj h
    have hlower : ∀ c ∈ pointed ((lower name).toList.drop variablePrefix.length),
        lowerAscii c = c := by
      intro c hc
      rcases mem_of_mem_pointed hc with rfl | hmem
      · rfl
      · have hc := List.mem_of_mem_drop hmem
        rw [lower, String.toList_ofList] at hc
        obtain ⟨d, -, rfl⟩ := List.mem_map.1 hc
        exact lowerAscii_lowerAscii d
    rw [lower, String.toList_ofList, List.map_congr_left hlower, List.map_id']
  · cases h

theorem layer_concat (env : List (String × String)) (x : String × String) :
    layer (env ++ [x]) = addVariable (layer env) x := by
  simp [layer]

/-- Variables of other names set nothing. -/
theorem layer_eq_nil {env : List (String × String)}
    (h : ∀ x ∈ env, variablePrefix.isPrefixOf (lower x.1).toList = false) : layer env = [] := by
  induction env using List.reverseRecOn with
  | nil => rfl
  | append_singleton env x ih =>
    rw [layer_concat, ih fun y hy => h y (by simp [hy]), addVariable, key?, h x (by simp)]
    rfl

/-- The keys that are set are distinct. -/
theorem nodup_keys_layer (env : List (String × String)) : ((layer env).map Prod.fst).Nodup := by
  induction env using List.reverseRecOn with
  | nil => exact List.nodup_nil
  | append_singleton env x ih =>
    rw [layer_concat, addVariable]
    split
    · exact Keyed.nodup_keys_set ih _ _
    · exact ih

/-- The last variable that sets a key decides. -/
theorem lookup_layer (env : List (String × String)) (key : String) :
    (layer env).lookup key =
      (env.reverse.find? fun x => key? x.1 == some key).map fun x => value x.2 := by
  induction env using List.reverseRecOn with
  | nil => rfl
  | append_singleton env x ih =>
    rw [layer_concat, addVariable, List.reverse_append, List.reverse_singleton,
      List.singleton_append, List.find?_cons]
    cases hkey : key? x.1 with
    | none => simpa using ih
    | some other =>
      by_cases heq : other = key
      · subst heq
        simp
      · have hb : (some other == some key) = false := by simpa using heq
        simp only [hb, Keyed.lookup_set_of_ne _ _ (Ne.symm heq), ih]

theorem of_lookup_layer {env : List (String × String)} {key : String} {v : Toml}
    (h : (layer env).lookup key = some v) : lower key = key ∧ v.isTable = false := by
  rw [lookup_layer] at h
  obtain ⟨x, hx, rfl⟩ := Option.map_eq_some_iff.1 h
  exact ⟨lower_of_key? (by simpa using List.find?_some hx), isTable_value x.2⟩

/-- The environment assigns to the path of each key that is set the value that it is set to. -/
theorem mem_assignments_layer {env : List (String × String)} {a : Assignment} :
    a ∈ assignments (layer env) ↔
      ∃ key, (layer env).lookup key = some a.value ∧ a.path = keyPath key := by
  have hentry : ∀ {key v}, (layer env).lookup key = some v →
      Assignment.ofEntry key v = [⟨keyPath key, v⟩] := by
    intro key v h
    obtain ⟨hlower, hv⟩ := of_lookup_layer h
    unfold Assignment.ofEntry
    split
    · cases hv
    · rw [hlower]
  constructor
  · intro ha
    obtain ⟨⟨key, v⟩, hmem, ha⟩ := List.mem_flatMap.1 ha
    have hlookup := Keyed.lookup_of_mem (nodup_keys_layer env) hmem
    rw [hentry hlookup, List.mem_singleton] at ha
    exact ⟨key, by rw [ha, hlookup], by rw [ha]⟩
  · rintro ⟨key, hlookup, hpath⟩
    refine List.mem_flatMap.2 ⟨(key, a.value), Keyed.mem_of_lookup hlookup, ?_⟩
    rw [hentry hlookup, List.mem_singleton, ← hpath]

end Environment

end ZigReflect
