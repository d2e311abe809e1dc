import CatalogShell.Decimal.Binary64

/-!
# Shortest decimals

The decimal of fewest digits that reads back as a given floating-point number: it lies among the
reals that round to the number, and of those with so few digits it is the nearest. All
arithmetic is exact, on natural numbers that share one power of ten.

* `Span`: the reals that round to a number, and the number itself.
* `Span.shortest`: the search over grids of one, two, … digits. The grid of the number's own
  last digit always holds it, so the search ends there at the latest.
-/

namespace CatalogShell

/-- `digits · 10 ^ exponent`. -/
structure Decimal where
  digits : Nat
  exponent : Int
deriving DecidableEq, Repr

namespace Decimal

/-- The number of decimal digits, one for zero. -/
def digitCount (n : Nat) : Nat := n.repr.length

/-- The same number without zeros at the end of its digits; `fuel` bounds their number. -/
def stripFrom : Nat → Nat → Int → Decimal
  | 0, d, e => ⟨d, e⟩
  | fuel + 1, d, e => if d ≠ 0 ∧ d % 10 = 0 then stripFrom fuel (d / 10) (e + 1) else ⟨d, e⟩

/-- The same number without zeros at the end of its digits. -/
def strip (x : Decimal) : Decimal := stripFrom (digitCount x.digits) x.digits x.exponent

/-- The exponent of the leading digit. -/
def leading (x : Decimal) : Int := x.exponent + digitCount x.digits - 1

/-- Which of two equally near decimals is taken. -/
inductive Tie where
  | toEven
  | upward
deriving DecidableEq, Repr

/-- The reals from `low · 10 ^ exponent` to `high · 10 ^ exponent` round to the number
`value · 10 ^ exponent`; the two ends do so when `closed`. -/
structure Span where
  low : Nat
  value : Nat
  high : Nat
  closed : Bool
  exponent : Int

namespace Span

/-- The span of `significand · 2 ^ exponent`. Half the gap to a neighbour is half a unit of the
significand, or a quarter of one below a power of two. -/
def ofBinary (significand : Nat) (exponent : Int) (narrowBelow : Bool) : Span :=
  let scale := Nat.pow 2 (exponent - 2).toNat * Nat.pow 5 (2 - exponent).toNat
  { low := (4 * significand - if narrowBelow then 1 else 2) * scale
    value := 4 * significand * scale
    high := (4 * significand + 2) * scale
    closed := significand % 2 == 0
    exponent := min (exponent - 2) 0 }

/-- `n · 10 ^ exponent` rounds to the number. -/
def holds (s : Span) (n : Nat) : Bool :=
  if s.closed then s.low ≤ n && n ≤ s.high else s.low < n && n < s.high

/-- The nearest to the value of the points of a grid, the multiples of `unit`, that round to
the number. -/
def onGrid (s : Span) (tie : Tie) (unit : Nat) : Option Nat :=
  let below := s.value / unit
  let above := below + 1
  match s.holds (below * unit), s.holds (above * unit) with
  | false, false => none
  | true, false => some below
  | false, true => some above
  | true, true =>
    match compare (2 * s.value) ((below + above) * unit) with
    | .lt => some below
    | .gt => some above
    | .eq => match tie with
      | .upward => some above
      | .toEven => some (if below % 2 = 0 then below else above)

/-- The first hit among the grids of `10 ^ places`, `10 ^ (places - 1)`, …, `1`. -/
def search (s : Span) (tie : Tie) : Nat → Decimal
  | 0 => ⟨s.value, s.exponent⟩
  | places + 1 =>
    match s.onGrid tie (Nat.pow 10 (places + 1)) with
    | some d => ⟨d, s.exponent + (places + 1)⟩
    | none => search s tie places

/-- The shortest decimal that rounds to the number. -/
def shortest (s : Span) (tie : Tie) : Decimal :=
  (s.search tie (digitCount s.value - 1)).strip

end Span

end Decimal

/-- The shortest decimal of the magnitude of a finite number. -/
def Binary64.shortest (x : Binary64) (tie : Decimal.Tie) : Decimal :=
  match x.parts with
  | .finite _ 0 _ => ⟨0, 0⟩
  | .finite _ m e => (Decimal.Span.ofBinary m e x.narrowBelow).shortest tie
  | _ => ⟨0, 0⟩

end CatalogShell
