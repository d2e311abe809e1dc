/-!
# Binary floating-point numbers of 64 bits

A `Binary64` is kept as its bits, so that two values are equal exactly when they are the same
number, zero or NaN down to the payload.

* `Binary64.parts`: NaN, an infinity, or a finite value `± significand · 2 ^ exponent`.
* `Binary64.ofFloat`/`toFloat`: to and from the machine's arithmetic.
* `Binary64.ofBinary32`: the same number from its form of 32 bits.
-/

namespace CatalogShell

/-- A floating-point number in the 64-bit binary format. -/
structure Binary64 where
  bits : UInt64
deriving DecidableEq, Inhabited

namespace Binary64

/-- What a floating-point number stands for. -/
inductive Parts where
  | nan
  | infinite (negative : Bool)
  | finite (negative : Bool) (significand : Nat) (exponent : Int)
deriving DecidableEq, Repr

/-- The sign bit. -/
def isNegative (x : Binary64) : Bool := x.bits >>> 63 == 1

/-- The eleven bits after the sign. -/
def exponentField (x : Binary64) : Nat := ((x.bits >>> 52) &&& 0x7FF).toNat

/-- The low 52 bits. -/
def fraction (x : Binary64) : Nat := (x.bits &&& 0xFFFFFFFFFFFFF).toNat

/-- The number that the bits stand for. -/
def parts (x : Binary64) : Parts :=
  if x.exponentField = 0x7FF then
    if x.fraction = 0 then .infinite x.isNegative else .nan
  else if x.exponentField = 0 then .finite x.isNegative x.fraction (-1074)
  else .finite x.isNegative (0x10000000000000 + x.fraction) (x.exponentField - 1075)

/-- The value below is half as far away as the value above: the significand is the least of its
binade, and the binade is not the lowest. -/
def narrowBelow (x : Binary64) : Bool := x.fraction == 0 && x.exponentField > 1

def ofFloat (x : Float) : Binary64 := ⟨x.toBits⟩

def toFloat (x : Binary64) : Float := Float.ofBits x.bits

/-- The number of a 32-bit pattern. A NaN keeps its payload and becomes quiet. -/
def ofBinary32 (b : UInt32) : Binary64 :=
  let sign := (b >>> 31).toUInt64 <<< 63
  let field := (b >>> 23) &&& 0xFF
  let fraction := b &&& 0x7FFFFF
  if field = 0xFF then
    let quiet : UInt64 := if fraction = 0 then 0 else (1 : UInt64) <<< 51
    ⟨sign ||| ((0x7FF : UInt64) <<< 52) ||| quiet ||| (fraction.toUInt64 <<< 29)⟩
  else if field = 0 then
    if fraction = 0 then ⟨sign⟩
    else
      let top := fraction.toNat.log2
      let shifted := (fraction.toNat <<< (52 - top)) - 0x10000000000000
      ⟨sign ||| (UInt64.ofNat (top + 874) <<< 52) ||| UInt64.ofNat shifted⟩
  else ⟨sign ||| ((field.toUInt64 + 896) <<< 52) ||| (fraction.toUInt64 <<< 29)⟩

end Binary64

end CatalogShell
