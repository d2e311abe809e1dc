import CatalogShell.Text.Digit
import CatalogShell.Text.Utf8

/-!
# Percent-encoding

A percent sign and two hexadecimal digits stand for a byte. A percent sign that is not followed
by two of them stands for itself.
-/

namespace CatalogShell.Text.Percent

/-- The value of a byte that is a hexadecimal digit. -/
def hexByte? (b : UInt8) : Option Nat := hexDigit? (Char.ofNat b.toNat)

/-- The byte that two hexadecimal digits stand for. -/
def byte? (high low : UInt8) : Option UInt8 := do
  return UInt8.ofNat (16 * (← hexByte? high) + (← hexByte? low))

/-- The bytes that a percent-encoded text stands for. -/
def decode : Bytes → Bytes
  | [] => []
  | 0x25 :: high :: low :: bs =>
    match byte? high low with
    | some b => b :: decode bs
    | none => 0x25 :: decode (high :: low :: bs)
  | b :: bs => b :: decode bs

/-- The bytes that percent-encoded characters stand for. -/
def bytes (cs : List Char) : Bytes := decode (Utf8.encode (String.ofList cs))

/-- The text that percent-encoded characters stand for. -/
def text? (cs : List Char) : Option String := Utf8.decode? (bytes cs)

end CatalogShell.Text.Percent
