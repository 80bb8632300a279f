/-!
# Bytes as text

Bytes that are no UTF-8 are still shown as text: the longest piece that starts a
character and does not finish it is shown as one replacement character, and so
is a byte that starts none.
-/

namespace ZigReflect.Text

/-- A character whose bytes have begun. -/
structure Begun where
  /-- How many bytes are missing. -/
  missing : Nat
  /-- The bits so far. -/
  bits : Nat
  /-- The least and the greatest byte that can come next. -/
  next : UInt8 × UInt8

/-- The character that stands for bytes that are no text. -/
def replacementChar : Char := Char.ofNat 0xFFFD

/-- What a byte begins: a character by itself, or one with more bytes. Overlong
forms, surrogates and numbers beyond the last character are ruled out by the
second byte. -/
def beginChar (b : UInt8) : List Char × Option Begun :=
  let more (missing : Nat) (lo hi : UInt8) : List Char × Option Begun :=
    ([], some ⟨missing, b.toNat % Nat.pow 2 (6 - missing), (lo, hi)⟩)
  if b < 0x80 then ([Char.ofNat b.toNat], none)
  else if b < 0xC2 then ([replacementChar], none)
  else if b < 0xE0 then more 1 0x80 0xBF
  else if b == 0xE0 then more 2 0xA0 0xBF
  else if b == 0xED then more 2 0x80 0x9F
  else if b < 0xF0 then more 2 0x80 0xBF
  else if b == 0xF0 then more 3 0x90 0xBF
  else if b < 0xF4 then more 3 0x80 0xBF
  else if b == 0xF4 then more 3 0x80 0x8F
  else ([replacementChar], none)

/-- The characters of bytes after some that have begun a character. -/
def lossyFrom : Option Begun → List UInt8 → List Char
  | none, [] => []
  | some _, [] => [replacementChar]
  | none, b :: rest =>
    let (cs, begun) := beginChar b
    cs ++ lossyFrom begun rest
  | some ⟨missing, bits, (lo, hi)⟩, b :: rest =>
    if lo ≤ b && b ≤ hi then
      let bits := 64 * bits + b.toNat % 64
      if missing ≤ 1 then Char.ofNat bits :: lossyFrom none rest
      else lossyFrom (some ⟨missing - 1, bits, (0x80, 0xBF)⟩) rest
    else
      let (cs, begun) := beginChar b
      replacementChar :: (cs ++ lossyFrom begun rest)

/-- The text of some bytes; bytes that are no text are replaced. -/
def lossy (bytes : List UInt8) : String :=
  String.ofList (lossyFrom none bytes)

end ZigReflect.Text
