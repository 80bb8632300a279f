import Mathlib.Data.List.Forall2
import ZigReflect.Proofs.Frame

/-!
# What a successful emission writes

`Yields x s a text` says that the step succeeds on a fresh emitter that reads `s`, with the
result `a`, and that `text` is all it writes. For framed steps this is what the step does to
every emitter that reads `s` (`yields_iff_on`).

The text of a step that is put together is put together of the texts of its parts, and the
step succeeds if and only if all parts do. One equivalence for each way of putting steps
together says so, and the rules are read off by rewriting with them.
-/

namespace ZigReflect.Emission

variable {α β : Type} {s : Schema} {text : String}

/-- Alone in the document, the step succeeds with the result and writes the text. -/
structure Yields (x : Emission α) (s : Schema) (a : α) (text : String) : Prop where
  result : (x.alone s).result = .ok a
  text : (x.alone s).text = text

/-- A framed step yields a text if and only if it appends it to any emitter that reads the
document. -/
theorem yields_iff_on {x : Emission α} (hx : x.Framed) (e : Emitter) {a : α} :
    x.Yields e.schema a text ↔ (x.on e).1 = .ok a ∧ (x.on e).2.text = e.text ++ text := by
  rw [hx e]
  exact ⟨fun h => ⟨h.result, by rw [← h.text]; rfl⟩,
    fun h => ⟨h.1, (String.append_right_inj e.text).1 h.2⟩⟩

/-- A framed step that succeeds yields what it appends. -/
theorem yields_of_ok {x : Emission α} (hx : x.Framed) {e : Emitter} {a : α}
    (h : (x.on e).1 = .ok a) :
    ∃ text, (x.on e).2.text = e.text ++ text ∧ x.Yields e.schema a text := by
  have htext : (x.on e).2.text = e.text ++ (x.alone e.schema).text := by
    rw [hx e]
    rfl
  exact ⟨_, htext, (yields_iff_on hx e).2 ⟨h, htext⟩⟩

/-! ## Steps -/

theorem yields_pure_iff {a b : α} :
    (pure a : Emission α).Yields s b text ↔ b = a ∧ text = "" :=
  ⟨fun h => ⟨(Except.ok.inj h.result).symm, h.text.symm⟩, fun ⟨hb, ht⟩ => ⟨hb ▸ rfl, ht ▸ rfl⟩⟩

theorem yields_write_iff {written : String} :
    (write written).Yields s () text ↔ text = written := by
  have halone : (write written).alone s = ⟨written, #[], .ok ()⟩ := by
    simp [alone, Emitter.fresh]
  exact ⟨fun h => by rw [← h.text, halone], fun ht => ⟨by rw [halone], by rw [halone, ht]⟩⟩

theorem yields_note_iff {n : Notice} : (note n).Yields s () text ↔ text = "" :=
  ⟨fun h => h.text.symm, fun ht => ⟨rfl, ht ▸ rfl⟩⟩

theorem not_yields_fail {f : Failure} {a : α} : ¬(fail f : Emission α).Yields s a text :=
  fun h => by cases h.result

/-- Two steps write one text after the other. -/
theorem yields_bind_iff {x : Emission α} {f : α → Emission β} (hx : x.Framed)
    (hf : ∀ a, (f a).Framed) {b : β} :
    (x >>= f).Yields s b text ↔
      ∃ a first rest, x.Yields s a first ∧ (f a).Yields s b rest ∧ text = first ++ rest := by
  have halone : (x >>= f).alone s = (x.alone s).bind fun a => (f a).alone s :=
    alone_eq (y := fun s => (x.alone s).bind fun a => (f a).alone s) (on_bind_of_framed hx hf) s
  constructor
  · rintro ⟨hresult, htext⟩
    rw [halone, Addition.bind] at hresult htext
    cases hr : (x.alone s).result with
    | error r => simp [hr] at hresult
    | ok a =>
      simp only [hr] at hresult htext
      exact ⟨a, _, _, ⟨hr, rfl⟩, ⟨hresult, rfl⟩, htext.symm⟩
  · rintro ⟨a, first, rest, hfirst, hrest, rfl⟩
    constructor
    · rw [halone, Addition.bind, hfirst.result]
      exact hrest.result
    · rw [halone, Addition.bind, hfirst.result]
      dsimp only
      rw [hfirst.text, hrest.text]

/-- A text that is written first comes first. -/
theorem yields_write_bind_iff {written : String} {x : Emission β} (hx : x.Framed) {b : β} :
    (write written >>= fun _ => x).Yields s b text ↔
      ∃ rest, x.Yields s b rest ∧ text = written ++ rest := by
  rw [yields_bind_iff (framed_write written) fun _ => hx]
  constructor
  · rintro ⟨_, first, rest, hfirst, hrest, rfl⟩
    exact ⟨rest, hrest, by rw [yields_write_iff.1 hfirst]⟩
  · rintro ⟨rest, hrest, rfl⟩
    exact ⟨(), written, rest, yields_write_iff.2 rfl, hrest, rfl⟩

/-- A note writes nothing. -/
theorem yields_note_bind_iff {n : Notice} {x : Emission β} (hx : x.Framed) {b : β} :
    (note n >>= fun _ => x).Yields s b text ↔ x.Yields s b text := by
  rw [yields_bind_iff (framed_note n) fun _ => hx]
  constructor
  · rintro ⟨_, first, rest, hfirst, hrest, rfl⟩
    rwa [yields_note_iff.1 hfirst, String.empty_append]
  · intro h
    exact ⟨(), "", text, yields_note_iff.2 rfl, h, String.empty_append.symm⟩

/-- A text that is written last comes last. -/
theorem yields_bind_write_iff {x : Emission Unit} (hx : x.Framed) {written : String} :
    (x >>= fun _ => write written).Yields s () text ↔
      ∃ first, x.Yields s () first ∧ text = first ++ written := by
  rw [yields_bind_iff hx fun _ => framed_write written]
  constructor
  · rintro ⟨_, first, rest, hfirst, hrest, rfl⟩
    exact ⟨first, hfirst, by rw [yields_write_iff.1 hrest]⟩
  · rintro ⟨first, hfirst, rfl⟩
    exact ⟨(), first, written, hfirst, yields_write_iff.2 rfl, rfl⟩

/-- A step between two texts. -/
theorem yields_enclosed_iff {x : Emission Unit} (hx : x.Framed) {opening closing : String} :
    (do write opening; x; write closing).Yields s () text ↔
      ∃ inner, x.Yields s () inner ∧ text = opening ++ inner ++ closing := by
  rw [yields_write_bind_iff (hx.bind fun _ => framed_write closing)]
  simp only [yields_bind_write_iff hx]
  constructor
  · rintro ⟨_, ⟨inner, hinner, rfl⟩, rfl⟩
    exact ⟨inner, hinner, by rw [String.append_assoc]⟩
  · rintro ⟨inner, hinner, rfl⟩
    exact ⟨_, ⟨inner, hinner, rfl⟩, by rw [String.append_assoc]⟩

/-- An answer at the end writes nothing. -/
theorem yields_bind_pure_iff {x : Emission Unit} (hx : x.Framed) {a b : β} :
    (x >>= fun _ => pure a).Yields s b text ↔ b = a ∧ x.Yields s () text := by
  rw [yields_bind_iff hx fun _ => framed_pure a]
  constructor
  · rintro ⟨_, first, rest, hfirst, hrest, rfl⟩
    obtain ⟨rfl, rfl⟩ := yields_pure_iff.1 hrest
    exact ⟨rfl, by rwa [String.append_empty]⟩
  · rintro ⟨rfl, h⟩
    exact ⟨(), text, "", h, yields_pure_iff.2 ⟨rfl, rfl⟩, String.append_empty.symm⟩

/-- A step between two texts, with an answer at the end. -/
theorem yields_enclosed_pure_iff {x : Emission Unit} (hx : x.Framed) {opening closing : String}
    {a b : β} :
    (do write opening; x; write closing; return a : Emission β).Yields s b text ↔
      b = a ∧ ∃ inner, x.Yields s () inner ∧ text = opening ++ inner ++ closing := by
  have hassoc : (do write opening; x; write closing; return a : Emission β) =
      (do write opening; x; write closing) >>= fun _ => pure a := by
    simp only [bind_assoc]
  rw [hassoc, yields_bind_pure_iff
    ((framed_write _).bind fun _ => hx.bind fun _ => framed_write _), yields_enclosed_iff hx]

theorem yields_reading_bind_iff {f : Schema → Emission β} {b : β} :
    (reading >>= f).Yields s b text ↔ (f s).Yields s b text := by
  have halone : (reading >>= f).alone s = (f s).alone s := by
    rw [alone, on_bind, on_reading]
    rfl
  exact ⟨fun h => ⟨halone ▸ h.result, halone ▸ h.text⟩,
    fun h => ⟨halone ▸ h.result, halone ▸ h.text⟩⟩

/-- What follows a lookup starts from what is found. -/
theorem yields_ofExcept_bind_iff {r : Except Failure α} {f : α → Emission β} {b : β} :
    (ofExcept r >>= f).Yields s b text ↔ ∃ a, r = .ok a ∧ (f a).Yields s b text := by
  cases r with
  | ok a =>
    rw [ofExcept, pure_bind]
    simp
  | error r =>
    have halone : ((ofExcept (.error r) >>= f).alone s).result = .error r := rfl
    refine ⟨fun h => ?_, fun ⟨_, h, _⟩ => by cases h⟩
    have hresult := h.result
    rw [halone] at hresult
    cases hresult

theorem yields_within_iff {x : Emission α} {home : Schema} {a : α} :
    (within home x).Yields s a text ↔ x.Yields home a text :=
  ⟨fun h => ⟨h.result, h.text⟩, fun h => ⟨h.result, h.text⟩⟩

/-! ## Lists of steps -/

/-- Steps in a row write their texts in a row. -/
theorem yields_all_iff : ∀ {xs : List (Emission Unit)} {text : String}, (∀ x ∈ xs, x.Framed) →
    ((all xs).Yields s () text ↔
      ∃ texts, List.Forall₂ (fun x t => x.Yields s () t) xs texts ∧ text = String.join texts)
  | [], text, _ => by
    rw [all, yields_pure_iff]
    simp
  | x :: xs, text, h => by
    have hxs : ∀ y ∈ xs, y.Framed := fun y hy => h y (List.mem_cons_of_mem x hy)
    rw [all, yields_bind_iff (h x List.mem_cons_self) fun _ => framed_all hxs]
    simp only [yields_all_iff hxs]
    constructor
    · rintro ⟨_, first, _, hfirst, ⟨texts, htexts, rfl⟩, rfl⟩
      exact ⟨first :: texts, .cons hfirst htexts, by simp⟩
    · rintro ⟨_, ⟨⟩ | ⟨hfirst, htexts⟩, rfl⟩
      exact ⟨(), _, _, hfirst, ⟨_, htexts, rfl⟩, by simp⟩

/-- Steps with a text between them write their texts with it between them. -/
theorem yields_separated_iff {separator : String} : ∀ {xs : List (Emission Unit)} {text : String},
    (∀ x ∈ xs, x.Framed) → ((separated separator xs).Yields s () text ↔
      ∃ texts, List.Forall₂ (fun x t => x.Yields s () t) xs texts ∧
        text = separator.intercalate texts)
  | [], text, _ => by
    rw [separated, yields_pure_iff]
    simp
  | [x], text, _ => by
    rw [separated]
    constructor
    · intro h
      exact ⟨[text], .cons h .nil, by simp⟩
    · rintro ⟨_, ⟨⟩ | ⟨hfirst, ⟨⟩⟩, rfl⟩
      simpa using hfirst
  | x :: y :: xs, text, h => by
    have hxs : ∀ z ∈ y :: xs, z.Framed := fun z hz => h z (List.mem_cons_of_mem x hz)
    have hrest := framed_separated separator hxs
    rw [separated, yields_bind_iff (h x List.mem_cons_self) fun _ =>
      (framed_write separator).bind fun _ => hrest]
    · simp only [yields_write_bind_iff hrest, yields_separated_iff hxs]
      constructor
      · rintro ⟨_, first, _, hfirst, ⟨_, ⟨texts, htexts, rfl⟩, rfl⟩, rfl⟩
        refine ⟨first :: texts, .cons hfirst htexts, ?_⟩
        have hne : texts ≠ [] := by
          rintro rfl
          cases htexts
        rw [String.intercalate_cons_of_ne_nil hne, String.append_assoc]
      · rintro ⟨_, ⟨⟩ | @⟨_, first, _, texts, hfirst, htexts⟩, rfl⟩
        have hne : texts ≠ [] := by
          rintro rfl
          cases htexts
        exact ⟨(), first, _, hfirst, ⟨_, ⟨texts, htexts, rfl⟩, rfl⟩,
          by rw [String.intercalate_cons_of_ne_nil hne, String.append_assoc]⟩
    · simp

end ZigReflect.Emission
