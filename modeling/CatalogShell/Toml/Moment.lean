import CatalogShell.Text.Digit

/-!
# Dates and times of TOML

A date, a time, or both with perhaps an offset from universal time. Days have to exist in their
month; a minute may have sixty-one seconds. Between date and time stands a `T` of either case or
a blank.

Readers answer `Found.absent` where the text has another form, so that it may be something else,
and `Found.wrong` where it has the form but is no date or time.
-/

namespace CatalogShell.Toml

/-- What a reader finds at the start of a text. -/
inductive Found where
  | absent
  | wrong
  | upTo (rest : List Char)

/-- A number of exactly `width` digits within bounds. -/
def readFixed (width low high : Nat) (cs : List Char) : Option (Nat × List Char) :=
  let (ds, _) := Text.takeDigits (cs.take width)
  let n := Text.natOfDigits 10 ds
  if ds.length = width ∧ low ≤ n ∧ n ≤ high then some (n, cs.drop width) else none

/-- The number of days of a month. -/
def daysOf (year month : Nat) : Nat :=
  if month = 2 then
    if year % 4 = 0 ∧ (year % 100 ≠ 0 ∨ year % 400 = 0) then 29 else 28
  else if month = 4 ∨ month = 6 ∨ month = 9 ∨ month = 11 then 30
  else 31

/-- A date. Four digits and a hyphen are the start of one. -/
def readDate (cs : List Char) : Found :=
  match readFixed 4 0 9999 cs with
  | some (year, '-' :: cs) =>
    match readFixed 2 1 12 cs with
    | some (month, '-' :: cs) =>
      match readFixed 2 1 (daysOf year month) cs with
      | some (_, rest) => .upTo rest
      | none => .wrong
    | _ => .wrong
  | _ => .absent

/-- The fraction of a second, if there is a point. -/
def skipFraction (cs : List Char) : List Char :=
  match cs with
  | '.' :: rest =>
    match Text.takeDigits rest with
    | ([], _) => cs
    | (_, rest) => rest
  | _ => cs

/-- A time of day. Two digits and a colon are the start of one. -/
def readTime (cs : List Char) : Found :=
  match readFixed 2 0 23 cs with
  | some (_, ':' :: cs) =>
    match readFixed 2 0 59 cs with
    | some (_, ':' :: cs) =>
      match readFixed 2 0 60 cs with
      | some (_, rest) => .upTo (skipFraction rest)
      | none => .wrong
    | _ => .wrong
  | _ => .absent

/-- An offset from universal time. -/
def readOffset (cs : List Char) : Found :=
  match cs with
  | 'Z' :: rest | 'z' :: rest => .upTo rest
  | '+' :: cs | '-' :: cs =>
    match readFixed 2 0 23 cs with
    | some (_, ':' :: cs) =>
      match readFixed 2 0 59 cs with
      | some (_, rest) => .upTo rest
      | none => .wrong
    | _ => .wrong
  | _ => .absent

/-- What follows a date: a time with perhaps an offset, or nothing. -/
def readAfterDate (cs : List Char) : Found :=
  match cs with
  | c :: after =>
    if c = 'T' ∨ c = 't' ∨ c = ' ' then
      match readTime after with
      | .absent => .upTo cs
      | .wrong => .wrong
      | .upTo rest =>
        match readOffset rest with
        | .absent => .upTo rest
        | found => found
    else .upTo cs
  | [] => .upTo []

/-- A date, a time, or both. -/
def readMoment (cs : List Char) : Found :=
  match readDate cs with
  | .absent => readTime cs
  | .wrong => .wrong
  | .upTo rest => readAfterDate rest

end CatalogShell.Toml
