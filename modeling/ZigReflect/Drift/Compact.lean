import ZigReflect.Drift.Script

/-!
# Compact scripts

A script is made easier to read by sliding its changes: an insertion slides
over kept lines that repeat at its other end, a change swaps with a change of
the other kind, and changes of one kind that meet become one. First every
deletion slides up and then down as far as it goes, then every insertion.

Chunks are visited with the chunks before them at hand, nearest first. A chunk
that swaps with another keeps the places it counts itself to start at.
-/

namespace ZigReflect.Drift

/-- The room that chunks leave for sliding. -/
def room (chunks : List Chunk) : Nat :=
  chunks.foldr (fun c n => c.lines.length + 1 + n) 0

/-- A chunk with the chunks before it, nearest first, and after it. -/
structure Focus where
  before : List Chunk
  here : Chunk
  after : List Chunk

/-- Lines that the chunk could give to kept lines before it. -/
def overlapUp (here : Chunk) (kept : List String) : Nat :=
  if here.action = .insert then commonSuffix kept here.lines else 0

/-- Lines that the chunk could give to kept lines after it. -/
def overlapDown (here : Chunk) (kept : List String) : Nat :=
  if here.action = .insert then commonPrefix kept here.lines else 0

/-- Gives kept lines to the chunk at the start of a list. -/
def giveStart (lines : List String) (oldAt newAt : Nat) : List Chunk → List Chunk
  | ⟨.keep, o, n, kept⟩ :: rest =>
    ⟨.keep, o - lines.length, n - lines.length, lines ++ kept⟩ :: rest
  | rest => ⟨.keep, oldAt, newAt, lines⟩ :: rest

/-- Gives kept lines to the nearest chunk before. -/
def giveEnd (lines : List String) (oldAt newAt : Nat) : List Chunk → List Chunk
  | ⟨.keep, o, n, kept⟩ :: rest => ⟨.keep, o, n, kept ++ lines⟩ :: rest
  | rest => ⟨.keep, oldAt, newAt, lines⟩ :: rest

/-- Puts a chunk in front unless it has no lines. -/
def prependChunk (c : Chunk) (rest : List Chunk) : List Chunk :=
  if c.lines.isEmpty then rest else c :: rest

/-- Slides the chunk up. -/
def slideUp : Nat → Focus → Focus
  | 0, f => f
  | fuel + 1, f =>
    match f.before with
    | [] => f
    | prev :: rest =>
      if prev.action = .keep then
        let s := overlapUp f.here prev.lines
        if 0 < s then
          let given := prev.lines.drop (prev.lines.length - s)
          let stay := f.here.lines.take (f.here.lines.length - s)
          let after := giveStart given (prev.oldAt + prev.lines.length - s)
            (f.here.newAt + f.here.lines.length - s) f.after
          let here :=
            { f.here with
              oldAt := f.here.oldAt - s, newAt := f.here.newAt - s, lines := given ++ stay }
          let prev := { prev with lines := prev.lines.take (prev.lines.length - s) }
          slideUp fuel ⟨prependChunk prev rest, here, after⟩
        else if prev.lines.isEmpty then slideUp fuel { f with before := rest }
        else f
      else if prev.action = f.here.action then
        slideUp fuel ⟨rest, { prev with lines := prev.lines ++ f.here.lines }, f.after⟩
      else slideUp fuel ⟨rest, f.here, prev :: f.after⟩

/-- Slides the chunk down. -/
def slideDown : Nat → Focus → Focus
  | 0, f => f
  | fuel + 1, f =>
    match f.after with
    | [] => f
    | next :: rest =>
      if next.action = .keep then
        let s := overlapDown f.here next.lines
        if 0 < s then
          let given := next.lines.take s
          let stay := f.here.lines.drop s
          let before := giveEnd given next.oldAt f.here.newAt f.before
          let here :=
            { f.here with
              oldAt := f.here.oldAt + s, newAt := f.here.newAt + s, lines := stay ++ given }
          let next :=
            { next with
              oldAt := next.oldAt + s, newAt := next.newAt + s, lines := next.lines.drop s }
          slideDown fuel ⟨before, here, prependChunk next rest⟩
        else if next.lines.isEmpty then slideDown fuel { f with after := rest }
        else f
      else if next.action = f.here.action then
        slideDown fuel ⟨f.before, { f.here with lines := f.here.lines ++ next.lines }, rest⟩
      else slideDown fuel ⟨next :: f.before, f.here, rest⟩

/-- Slides every chunk with an action, from left to right. The chunks before
the place reached are given nearest first; the fuel is spent by one a chunk. -/
def slideAll (action : Action) : Nat → List Chunk → List Chunk → List Chunk
  | 0, before, after => before.reverse ++ after
  | _, before, [] => before.reverse
  | fuel + 1, before, c :: after =>
    if c.action = action then
      let up := slideUp (room before) ⟨before, c, after⟩
      let down := slideDown (room up.after) up
      slideAll action fuel (down.here :: down.before) down.after
    else slideAll action fuel (c :: before) after

/-- Slides every deletion, then every insertion. -/
def compact (chunks : List Chunk) : List Chunk :=
  let fuel := (room chunks + 1) * (room chunks + 1)
  let slid := slideAll .delete fuel [] chunks
  slideAll .insert fuel [] slid

end ZigReflect.Drift
