import CatalogShell.Text.Utf8

/-!
# Integers on the wire

Integers travel with the most significant byte first, negative ones in two's complement.
-/

namespace CatalogShell.Wire

/-- A number below `2 ^ (8 · width)` in so many bytes. -/
def encodeNat : Nat → Nat → Bytes
  | 0, _ => []
  | width + 1, n =>
    UInt8.ofNat (n / Nat.pow 0x100 width) :: encodeNat width (n % Nat.pow 0x100 width)

/-- The number that bytes stand for. -/
def decodeNat (bs : Bytes) : Nat := bs.foldl (fun n b => 0x100 * n + b.toNat) 0

/-- An integer of `8 · width` bits in so many bytes. -/
def encodeInt (width : Nat) (n : Int) : Bytes :=
  encodeNat width (n % (Nat.pow 0x100 width : Nat)).toNat

/-- The integer that bytes stand for. -/
def decodeInt (bs : Bytes) : Int := (decodeNat bs : Int).bmod (Nat.pow 0x100 bs.length)

/-- The integer at the start of bytes, in `width` bytes, and the bytes after it. -/
def readInt? (width : Nat) (bs : Bytes) : Option (Int × Bytes) :=
  if bs.length < width then none else some (decodeInt (bs.take width), bs.drop width)

end CatalogShell.Wire
