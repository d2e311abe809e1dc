import CatalogShell.Decimal.Layout

/-!
# Values

A `Value` is one cell of a catalog query's answer, or one parameter of a query. The partial
readings `bool?`, `int?`, `oid?` and `text?` give its content where it has the wanted kind;
integers of all widths can stand for one another when they fit.
-/

namespace CatalogShell

/-- The number by which the catalog knows an object. -/
abbrev Oid := UInt32

/-- One cell or parameter. -/
inductive Value where
  | null
  | boolean (b : Bool)
  | integer (n : Int32)
  | bigInt (n : Int64)
  | oid (n : Oid)
  | float (x : Binary64)
  | text (s : String)
  | textArray (items : List String)
deriving DecidableEq, Inhabited

namespace Value

/-- The value is NULL. -/
def isNull : Value → Bool
  | .null => true
  | _ => false

/-- The truth value, if it is one. -/
def bool? : Value → Option Bool
  | .boolean b => some b
  | _ => none

/-- The integer, of whatever width. -/
def int? : Value → Option Int
  | .integer n => some n.toInt
  | .bigInt n => some n.toInt
  | .oid n => some n.toNat
  | _ => none

/-- The integer as an object identifier, if it lies below `2 ^ 32` and is not negative. -/
def oid? (v : Value) : Option Oid :=
  v.int?.bind fun n => if 0 ≤ n ∧ n < 0x100000000 then some (UInt32.ofNat n.toNat) else none

/-- The text, if it is one. -/
def text? : Value → Option String
  | .text s => some s
  | _ => none

/-- The name of the value's kind. -/
def typeName : Value → String
  | .null => "NULL"
  | .boolean _ => "BOOLEAN"
  | .integer _ => "INTEGER"
  | .bigInt _ => "BIGINT"
  | .oid _ => "OID"
  | .float _ => "FLOAT"
  | .text _ => "TEXT"
  | .textArray _ => "TEXT[]"

/-- Floating-point cells show all their digits in place and no more of them than needed. -/
def floatLayout : Layout := ⟨none, none, false, .upward⟩

/-- The text of a floating-point number in a cell. -/
def showFloat (x : Binary64) : String :=
  match x.parts with
  | .nan => "NaN"
  | .infinite negative => if negative then "-inf" else "inf"
  | .finite .. => floatLayout.writeBinary x

/-- The text of an integer. -/
def showInt (n : Int) : String :=
  if n < 0 then "-" ++ n.natAbs.repr else n.natAbs.repr

/-- The text shown in a cell; NULL shows as nothing. -/
def display : Value → String
  | .null => ""
  | .boolean b => if b then "t" else "f"
  | .integer n => showInt n.toInt
  | .bigInt n => showInt n.toInt
  | .oid n => n.toNat.repr
  | .float x => showFloat x
  | .text s => s
  | .textArray items => "\x7b" ++ ",".intercalate items ++ "\x7d"

end Value

end CatalogShell
