import CatalogShell.Json.Basic

/-!
# Reading JSON numbers

A number without fraction and exponent is an integer when it fits: below `2 ^ 64`, and at least
`-2 ^ 63` if it is negative. Every other number is a floating-point number, and so is `-0`.

A floating-point number is computed from a significand of at most 64 bits and a power of ten,
with one rounding for each. The significand takes digits while it fits. Further digits before
the point only raise the exponent, and further digits after it are left out.
-/

namespace CatalogShell.Json

/-- A number as it is written: its sign, its digits before and after the point, and its
exponent. `fraction` and `exponent` are `none` where that part is missing. -/
structure Numeral where
  negative : Bool
  whole : List Nat
  fraction : Option (List Nat)
  exponent : Option Int

/-- What a written number stands for. -/
inductive Number where
  | int (n : Int)
  | float (x : Binary64)

/-- Digits added to a significand while it stays below `2 ^ 64`, and the digits left over. -/
def absorb (significand : Nat) : List Nat → Nat × List Nat
  | [] => (significand, [])
  | d :: ds =>
    if 10 * significand + d < 0x10000000000000000 then absorb (10 * significand + d) ds
    else (significand, d :: ds)

/-- A power of ten, rounded to a floating-point number. -/
def powerOfTen (n : Nat) : Float := Float.ofScientific 1 false n

/-- `x · 10 ^ exponent` in steps of at most 308 powers of ten; `none` if it is too large. -/
def scaled (x : Float) (exponent : Int) : Option Float :=
  if x == 0 then some x
  else if 308 < exponent then none
  else if 0 ≤ exponent then
    let y := x * powerOfTen exponent.toNat
    if y.isInf then none else some y
  else if -308 ≤ exponent then some (x / powerOfTen (-exponent).toNat)
  else scaled (x / powerOfTen 308) (exponent + 308)
termination_by (-exponent).toNat

/-- A floating-point number from its sign, significand and exponent. -/
def floatOf (negative : Bool) (significand : Nat) (exponent : Int) : Option Number :=
  (scaled significand.toUInt64.toFloat exponent).map fun x =>
    .float (.ofFloat (if negative then -x else x))

namespace Numeral

/-- What a written number stands for; `none` if it is too large. -/
def number? (n : Numeral) : Option Number :=
  let (significand, excess) := absorb 0 n.whole
  match excess, n.fraction, n.exponent with
  | [], none, none =>
    if !n.negative then some (.int significand)
    else if 0 < significand ∧ significand ≤ 0x8000000000000000 then some (.int (-significand))
    else floatOf true significand 0
  | _, fraction, exponent =>
    let digits := fraction.getD []
    let (significand, dropped) := absorb significand digits
    floatOf n.negative significand
      (excess.length - (digits.length - dropped.length : Nat) + exponent.getD 0)

end Numeral

end CatalogShell.Json
