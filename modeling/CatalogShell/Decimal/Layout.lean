import CatalogShell.Decimal.Shortest

/-!
# Written decimals

How a decimal is laid out as text: with all its digits in place, or as digits and an exponent.
A `Layout` holds the decisions of one format.
-/

namespace CatalogShell

/-- The decisions of one way to write decimals. -/
structure Layout where
  /-- The least exponent of the leading digit that is written in place; `none`: all are. -/
  plainFrom : Option Int
  /-- The greatest such exponent; `none`: all are. -/
  plainTo : Option Int
  /-- A whole number in place ends in `.0`. -/
  pointZero : Bool
  /-- Which of two equally near shortest decimals is written. -/
  tie : Decimal.Tie

namespace Layout

/-- The exponent of the leading digit is written in place. -/
def isPlain (l : Layout) (leading : Int) : Bool :=
  l.plainFrom.all (· ≤ leading) && l.plainTo.all (leading ≤ ·)

/-- Digits in place: the point stands `point` digits after the first one's left edge. -/
def plain (l : Layout) (digits : List Char) (point : Int) : List Char :=
  if point ≤ 0 then '0' :: '.' :: (List.replicate (-point).toNat '0' ++ digits)
  else if digits.length ≤ point then
    digits ++ List.replicate (point.toNat - digits.length) '0' ++
      if l.pointZero then ['.', '0'] else []
  else digits.take point.toNat ++ '.' :: digits.drop point.toNat

/-- One digit, the point and the other digits if there are any, and a signed exponent. -/
def scientific (digits : List Char) (leading : Int) : List Char :=
  let mantissa := match digits with
    | first :: second :: rest => first :: '.' :: second :: rest
    | short => short
  let sign := if leading < 0 then '-' else '+'
  mantissa ++ 'e' :: sign :: leading.natAbs.repr.toList

/-- The text of a decimal without a sign. -/
def write (l : Layout) (x : Decimal) : List Char :=
  let digits := x.digits.repr.toList
  if l.isPlain x.leading then l.plain digits (x.leading + 1) else scientific digits x.leading

/-- The text of a finite number with its sign. -/
def writeBinary (l : Layout) (x : Binary64) : String :=
  String.ofList ((if x.isNegative then ['-'] else []) ++ l.write (x.shortest l.tie))

end Layout

end CatalogShell
