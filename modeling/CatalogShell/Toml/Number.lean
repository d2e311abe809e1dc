import CatalogShell.Toml.Basic
import CatalogShell.Toml.Lexeme

/-!
# Numbers of TOML

Integers of 64 bits, in four bases, and floating-point numbers. An underscore may stand between
two digits. A decimal integer, also before a point or an exponent, has no zeros in front. A
number that is too large is refused.
-/

namespace CatalogShell.Toml

/-- Digits of a base with underscores between them, after the first digit. -/
def moreDigits (base : Nat) : List Char → Option (List Nat × List Char)
  | [] => some ([], [])
  | ['_'] => none
  | '_' :: c :: cs => do
    let d ← Text.digitIn? base c
    let (ds, rest) ← moreDigits base cs
    return (d :: ds, rest)
  | c :: cs =>
    match Text.digitIn? base c with
    | none => some ([], c :: cs)
    | some d => (moreDigits base cs).map fun (ds, rest) => (d :: ds, rest)

/-- At least one digit of a base, with underscores between them. -/
def readDigits (base : Nat) : List Char → Option (List Nat × List Char)
  | [] => none
  | c :: cs => do
    let d ← Text.digitIn? base c
    let (ds, rest) ← moreDigits base cs
    return (d :: ds, rest)

/-- A sign, if there is one, and whether it is a minus sign. -/
def readSign : List Char → Bool × List Char
  | '+' :: cs => (false, cs)
  | '-' :: cs => (true, cs)
  | cs => (false, cs)

/-- The digits of a decimal number without zeros in front. -/
def readWhole : List Char → Option (List Nat × List Char)
  | '0' :: cs => some ([0], cs)
  | cs => readDigits 10 cs

/-- An exponent after its mark. -/
def readExponent (cs : List Char) : Option (Int × List Char) := do
  let (negative, cs) := readSign cs
  let (ds, rest) ← readDigits 10 cs
  let n := Text.natOfDigits 10 ds
  return (if negative then -n else n, rest)

/-- An exponent with its mark, or none. -/
def readExponent? (cs : List Char) : Option (Option Int × List Char) :=
  match cs with
  | 'e' :: cs | 'E' :: cs => (readExponent cs).map fun (n, rest) => (some n, rest)
  | cs => some (none, cs)

/-- The bits of the nearest floating-point number to `digits · 10 ^ exponent`, infinity
included. -/
def nearestFloat (digits : Nat) (exponent : Int) : Float :=
  if digits = 0 then 0
  else if 400 < exponent then Float.ofScientific 1 false 400
  else if exponent < -(400 + digits.log2 : Nat) then 0
  else Float.ofScientific digits (exponent < 0) exponent.natAbs

/-- A floating-point number. One above all others is refused; one below all others is infinite. -/
def floatOf? (negative : Bool) (digits : Nat) (exponent : Int) : Option Toml :=
  let x := nearestFloat digits exponent
  if x.isInf && !negative then none else some (.float (.ofFloat (if negative then -x else x)))

/-- An integer with a sign. -/
def intOf? (negative : Bool) (n : Nat) : Option Toml :=
  if negative then if n ≤ 0x8000000000000000 then some (.int (-n)) else none
  else if n < 0x8000000000000000 then some (.int n) else none

/-- A decimal number. -/
def readDecimal (cs : List Char) : Option (Toml × List Char) := do
  let (negative, cs) := readSign cs
  let (whole, rest) ← readWhole cs
  match rest with
  | '.' :: rest =>
    let (fraction, rest) ← readDigits 10 rest
    let (exponent, rest) ← readExponent? rest
    let digits := Text.natOfDigits 10 (whole ++ fraction)
    return (← floatOf? negative digits (exponent.getD 0 - fraction.length), rest)
  | rest =>
    let n := Text.natOfDigits 10 whole
    match ← readExponent? rest with
    | (some exponent, rest) => return (← floatOf? negative n exponent, rest)
    | (none, rest) => return (← intOf? negative n, rest)

/-- An integer of a base other than ten, after its mark. -/
def readBased (base : Nat) (cs : List Char) : Option (Toml × List Char) := do
  let (ds, rest) ← readDigits base cs
  return (← intOf? false (Text.natOfDigits base ds), rest)

/-- The numbers that are no decimals: infinity and not-a-number. -/
def readSpecial (cs : List Char) : Option (Toml × List Char) :=
  let (negative, cs) := readSign cs
  match cs with
  | 'i' :: 'n' :: 'f' :: rest =>
    some (.float ⟨if negative then 0xFFF0000000000000 else 0x7FF0000000000000⟩, rest)
  | 'n' :: 'a' :: 'n' :: rest =>
    some (.float ⟨if negative then 0xFFF8000000000000 else 0x7FF8000000000000⟩, rest)
  | _ => none

/-- A number at the start of a text. -/
def readNumber (cs : List Char) : Option (Toml × List Char) :=
  match cs with
  | '0' :: 'x' :: cs => readBased 16 cs
  | '0' :: 'o' :: cs => readBased 8 cs
  | '0' :: 'b' :: cs => readBased 2 cs
  | cs =>
    match readSpecial cs with
    | some found => some found
    | none => readDecimal cs

end CatalogShell.Toml
