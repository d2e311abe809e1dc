import CatalogShell.Value.Row
import CatalogShell.Wire.TextArray
import CatalogShell.Wire.TypeName

/-!
# Parameters and cells on the wire

`Value.encode?` gives the bytes of a parameter. A parameter has to be of exactly the type that
the server asks for; the text and the array of text stand for several types.

`decodeCell?` reads a cell. Cells of a type that is not known here, and texts that are no UTF-8,
are shown by the name of their type.
-/

namespace CatalogShell

namespace Wire

/-- What is sent for a parameter: bytes, or `none` for NULL. -/
abbrev Sent := Option Bytes

/-- The type of exactly `t`, with its bytes. -/
def onlyAs (t wanted : Oid) (bytes : Bytes) : Option Sent :=
  if wanted = t then some (some bytes) else none

end Wire

/-- The bytes of a parameter of the wanted type. -/
def Value.encode? (wanted : Oid) : Value → Option Wire.Sent
  | .null => if Wire.isText wanted then some none else none
  | .boolean b => Wire.onlyAs 16 wanted [if b then 1 else 0]
  | .integer n => Wire.onlyAs 23 wanted (Wire.encodeInt 4 n.toInt)
  | .bigInt n => Wire.onlyAs 20 wanted (Wire.encodeInt 8 n.toInt)
  | .oid n => Wire.onlyAs 26 wanted (Wire.encodeNat 4 n.toNat)
  | .float x => Wire.onlyAs 701 wanted (Wire.encodeNat 8 x.bits.toNat)
  | .text s => if Wire.isText wanted then some (some (Text.Utf8.encode s)) else none
  | .textArray items =>
    (Wire.textItem? wanted).map fun t => some (Wire.encodeArray t.toNat items)

namespace Wire

/-- The integer that exactly `width` bytes stand for. -/
def decodeExact? (width : Nat) (bs : Bytes) : Option Int :=
  if bs.length = width then some (decodeInt bs) else none

/-- The number that exactly `width` bytes stand for. -/
def decodeExactNat? (width : Nat) (bs : Bytes) : Option Nat :=
  if bs.length = width then some (decodeNat bs) else none

/-- What is shown for a cell that cannot be read as text. -/
def placeholder (t : Oid) : Value := .text ("<" ++ (typeName? t).getD "unknown" ++ ">")

/-- The types of columns that are read as something other than text. -/
def readCell? (t : Oid) : Option (Bytes → Option Value) :=
  match t with
  | 16 => some fun bs => (decodeExactNat? 1 bs).map fun n => .boolean (n ≠ 0)
  | 18 => some fun bs =>
    (decodeExactNat? 1 bs).map fun n => .text (String.ofList [Char.ofNat n])
  | 20 => some fun bs => (decodeExact? 8 bs).map fun n => .bigInt (Int64.ofInt n)
  | 21 => some fun bs => (decodeExact? 2 bs).map fun n => .integer (Int32.ofInt n)
  | 23 => some fun bs => (decodeExact? 4 bs).map fun n => .integer (Int32.ofInt n)
  | 26 => some fun bs => (decodeExactNat? 4 bs).map fun n => .oid (UInt32.ofNat n)
  | 700 => some fun bs =>
    (decodeExactNat? 4 bs).map fun n => .float (.ofBinary32 (UInt32.ofNat n))
  | 701 => some fun bs => (decodeExactNat? 8 bs).map fun n => .float ⟨UInt64.ofNat n⟩
  | 1003 | 1009 | 1015 => some fun bs =>
    (decodeArray? bs).map fun items => .textArray (items.map fun item => item.getD "NULL")
  | _ => none

/-- A cell of a column of the given type; `none` stands for NULL. It is an error when the bytes
are not of the form of the type. -/
def decodeCell? (t : Oid) (cell : Option Bytes) : Option Value :=
  match readCell? t, cell with
  | some _, none => some .null
  | some read, some bs => read bs
  | none, cell =>
    if !isText t then some (placeholder t)
    else match cell with
      | none => some .null
      | some bs =>
        match Text.Utf8.decode? bs with
        | some s => some (.text s)
        | none => some (placeholder t)

end Wire

end CatalogShell
