/-!
# Digits and numerals

Digits of a base up to sixteen in either case, and what strings of them spell.

* `digitIn? base c`: the value of a digit.
* `takeDigits`: the decimal digits at the start of a text.
* `natOfDigits base`: the number that digits spell.
* `readNat?` and `readInt?`: a whole text as a number within bounds, perhaps with a sign.
-/

namespace CatalogShell.Text

/-- The value of a hexadecimal digit. -/
def hexDigit? (c : Char) : Option Nat :=
  if '0' ≤ c ∧ c ≤ '9' then some (c.toNat - 48)
  else if 'a' ≤ c ∧ c ≤ 'f' then some (c.toNat - 87)
  else if 'A' ≤ c ∧ c ≤ 'F' then some (c.toNat - 55)
  else none

/-- The value of a digit of a base up to sixteen. -/
def digitIn? (base : Nat) (c : Char) : Option Nat := (hexDigit? c).filter (· < base)

/-- The value of a decimal digit. -/
def digit? (c : Char) : Option Nat := digitIn? 10 c

/-- The digits of a base at the start of a text, and the rest. -/
def takeDigitsIn (base : Nat) : List Char → List Nat × List Char
  | [] => ([], [])
  | c :: cs =>
    match digitIn? base c with
    | some d => let (ds, rest) := takeDigitsIn base cs; (d :: ds, rest)
    | none => ([], c :: cs)

/-- The decimal digits at the start of a text, and the rest. -/
def takeDigits (cs : List Char) : List Nat × List Char := takeDigitsIn 10 cs

/-- The number that digits spell. -/
def natOfDigits (base : Nat) (ds : List Nat) : Nat := ds.foldl (fun n d => base * n + d) 0

/-- The number that hexadecimal digits spell. -/
def hexNumber? (cs : List Char) : Option Nat := (cs.mapM hexDigit?).map (natOfDigits 16)

/-- A text of at least one decimal digit. -/
def readDigits? (cs : List Char) : Option Nat :=
  match takeDigits cs with
  | ([], _) => none
  | (ds, []) => some (natOfDigits 10 ds)
  | _ => none

/-- A number up to `last`, perhaps with a plus sign. -/
def readNat? (last : Nat) (cs : List Char) : Option Nat :=
  let unsigned := match cs with
    | '+' :: rest => rest
    | cs => cs
  (readDigits? unsigned).filter (· ≤ last)

/-- A number of `width` bits with a sign of its own, perhaps with a written sign. -/
def readInt? (width : Nat) (cs : List Char) : Option Int :=
  match cs with
  | '-' :: rest =>
    ((readDigits? rest).filter (· ≤ Nat.pow 2 (width - 1))).map fun n => -n
  | cs => (readNat? (Nat.pow 2 (width - 1) - 1) cs).map Int.ofNat

theorem takeDigitsIn_length_le (base : Nat) (cs : List Char) :
    (takeDigitsIn base cs).2.length ≤ cs.length := by
  fun_induction takeDigitsIn base cs <;> grind

end CatalogShell.Text
