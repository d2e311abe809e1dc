import CatalogShell.Json.Number
import CatalogShell.Text.Digit

/-!
# Reading JSON

`read` turns a text into a `Draft`: the JSON grammar is checked everywhere, but a number that is
too large and a string with half a surrogate pair count as errors only where their value is
asked for. So a member that nobody looks at may hold them.
-/

namespace CatalogShell.Json

open Text (takeDigits natOfDigits hexDigit?)

/-- JSON as it is read. `none` stands for a number or a string without a value. -/
inductive Draft where
  | null
  | bool (b : Bool)
  | number (n : Option Number)
  | str (s : Option String)
  | arr (items : List Draft)
  | obj (members : List (Option String × Draft))

/-- The characters that may stand between tokens. -/
def isSpace (c : Char) : Bool := c = ' ' || c = '\t' || c = '\n' || c = '\r'

/-- The text from the next token on. -/
def skipSpace (cs : List Char) : List Char := cs.dropWhile isSpace

/-- The digits after a point, at least one of them. -/
def readFraction : List Char → Option (Option (List Nat) × List Char)
  | '.' :: cs =>
    match takeDigits cs with
    | ([], _) => none
    | (ds, rest) => some (some ds, rest)
  | cs => some (none, cs)

/-- An exponent with its mark and sign, with at least one digit. -/
def readExponent (cs : List Char) : Option (Option Int × List Char) :=
  let digits (sign : Int) (cs : List Char) : Option (Option Int × List Char) :=
    match takeDigits cs with
    | ([], _) => none
    | (ds, rest) => some (some (sign * natOfDigits 10 ds), rest)
  match cs with
  | c :: cs =>
    if c = 'e' ∨ c = 'E' then
      match cs with
      | '+' :: cs => digits 1 cs
      | '-' :: cs => digits (-1) cs
      | cs => digits 1 cs
    else some (none, c :: cs)
  | [] => some (none, [])

/-- A number after its sign. The digits before the point have no zero in front. -/
def readNumeral (negative : Bool) (cs : List Char) : Option (Draft × List Char) := do
  let (whole, rest) := takeDigits cs
  match whole with
  | [] => none
  | 0 :: _ :: _ => none
  | whole => do
    let (fraction, rest) ← readFraction rest
    let (exponent, rest) ← readExponent rest
    return (.number (Numeral.number? ⟨negative, whole, fraction, exponent⟩), rest)

/-- A piece of a string: a character, or a unit written with four hexadecimal digits. -/
inductive Piece where
  | char (c : Char)
  | unit (n : Nat)

/-- The character of a unit that is no half of a surrogate pair. -/
def unitChar? (n : Nat) : Option Char :=
  if 0xD800 ≤ n ∧ n ≤ 0xDFFF then none else some (Char.ofNat n)

/-- The characters that pieces spell; a high unit and the low unit after it make up one. -/
def piecesText? : List Piece → Option (List Char)
  | [] => some []
  | .char c :: rest => (piecesText? rest).map (c :: ·)
  | .unit high :: .unit low :: rest =>
    if 0xD800 ≤ high ∧ high ≤ 0xDBFF ∧ 0xDC00 ≤ low ∧ low ≤ 0xDFFF then
      (piecesText? rest).map
        (Char.ofNat (0x10000 + (high - 0xD800) * 0x400 + (low - 0xDC00)) :: ·)
    else do
      let c ← unitChar? high
      (piecesText? (.unit low :: rest)).map (c :: ·)
  | .unit n :: rest => do
    let c ← unitChar? n
    (piecesText? rest).map (c :: ·)

/-- The character that a one-letter escape stands for. -/
def escape? (c : Char) : Option Char :=
  match c with
  | '"' => some '"'
  | '\\' => some '\\'
  | '/' => some '/'
  | 'b' => some '\x08'
  | 'f' => some '\x0C'
  | 'n' => some '\n'
  | 'r' => some '\r'
  | 't' => some '\t'
  | _ => none

/-- The pieces of a string after its opening quotation mark, up to the closing one. -/
def readPieces : List Char → Option (List Piece × List Char)
  | [] => none
  | '"' :: cs => some ([], cs)
  | '\\' :: 'u' :: a :: b :: c :: d :: cs => do
    let n := (← hexDigit? a) * 0x1000 + (← hexDigit? b) * 0x100 + (← hexDigit? c) * 0x10 +
      (← hexDigit? d)
    let (pieces, rest) ← readPieces cs
    return (.unit n :: pieces, rest)
  | '\\' :: c :: cs => do
    let c ← escape? c
    let (pieces, rest) ← readPieces cs
    return (.char c :: pieces, rest)
  | c :: cs =>
    if c = '\\' ∨ c.toNat < 0x20 then none
    else do
      let (pieces, rest) ← readPieces cs
      return (.char c :: pieces, rest)

/-- A string after its opening quotation mark. -/
def readString (cs : List Char) : Option (Option String × List Char) := do
  let (pieces, rest) ← readPieces cs
  return ((piecesText? pieces).map String.ofList, rest)

mutual

/-- A value at the start of a text. `fuel` bounds the number of values and items. -/
def readValue : Nat → List Char → Option (Draft × List Char)
  | 0, _ => none
  | fuel + 1, cs =>
    match skipSpace cs with
    | 'n' :: 'u' :: 'l' :: 'l' :: cs => some (.null, cs)
    | 't' :: 'r' :: 'u' :: 'e' :: cs => some (.bool true, cs)
    | 'f' :: 'a' :: 'l' :: 's' :: 'e' :: cs => some (.bool false, cs)
    | '"' :: cs => (readString cs).map fun (s, rest) => (.str s, rest)
    | '-' :: cs => readNumeral true cs
    | '[' :: cs =>
      match skipSpace cs with
      | ']' :: cs => some (.arr [], cs)
      | cs => (readItems fuel cs).map fun (items, rest) => (.arr items, rest)
    | '{' :: cs =>
      match skipSpace cs with
      | '}' :: cs => some (.obj [], cs)
      | cs => (readMembers fuel cs).map fun (members, rest) => (.obj members, rest)
    | cs => readNumeral false cs

/-- The items of a list up to its closing bracket. -/
def readItems : Nat → List Char → Option (List Draft × List Char)
  | 0, _ => none
  | fuel + 1, cs =>
    match readValue fuel cs with
    | none => none
    | some (item, rest) =>
      match skipSpace rest with
      | ']' :: rest => some ([item], rest)
      | ',' :: rest => (readItems fuel rest).map fun (items, rest) => (item :: items, rest)
      | _ => none

/-- The members of an object up to its closing brace. -/
def readMembers : Nat → List Char → Option (List (Option String × Draft) × List Char)
  | 0, _ => none
  | fuel + 1, cs =>
    match skipSpace cs with
    | '"' :: cs =>
      match readString cs with
      | none => none
      | some (key, rest) =>
        match skipSpace rest with
        | ':' :: rest =>
          match readValue fuel rest with
          | none => none
          | some (item, rest) =>
            match skipSpace rest with
            | '}' :: rest => some ([(key, item)], rest)
            | ',' :: rest =>
              (readMembers fuel rest).map fun (members, rest) => ((key, item) :: members, rest)
            | _ => none
        | _ => none
    | _ => none

end

/-- The one value that a text holds. -/
def read (s : String) : Option Draft := do
  let cs := s.toList
  let (draft, rest) ← readValue (2 * cs.length + 2) cs
  if (skipSpace rest).isEmpty then some draft else none

end CatalogShell.Json
