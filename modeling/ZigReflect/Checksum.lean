import ZigReflect.Digest
import ZigReflect.Text.Find

/-!
# Checksums

The checksum of a text is the SHA-256 digest of its UTF-8 bytes, in lower-case
hexadecimal.
-/

namespace ZigReflect

/-- A digest in hexadecimal. -/
structure Checksum where
  hex : String
deriving DecidableEq, Repr, Inhabited

namespace Checksum

/-- The checksum of bytes. -/
def ofBytes (message : ByteArray) : Checksum :=
  ⟨String.ofList ((Digest.bytes message).flatMap fun b =>
    [Text.hexChar (b.toNat / 16), Text.hexChar (b.toNat % 16)])⟩

/-- The checksum of a text. -/
def ofText (s : String) : Checksum :=
  ofBytes s.toUTF8

/-- The first twelve digits, for log lines. -/
def short (c : Checksum) : String :=
  String.ofList (c.hex.toList.take 12)

/-- Whether this is the checksum of a text. -/
def verifies (c : Checksum) (s : String) : Bool :=
  c == ofText s

end Checksum

end ZigReflect
