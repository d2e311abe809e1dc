import CatalogShell.Text.Digit

/-!
# Internet addresses

Addresses of both versions, read from and written to their usual text. Numbers of version 4 have
no zeros in front. Version 6 may leave out one run of zero groups, and may give its last two
groups as an address of version 4; it is written with the first longest run of at least two zero
groups left out.
-/

namespace CatalogShell

/-- An Internet address: four octets, or eight groups. -/
inductive IpAddress where
  | v4 (octets : List UInt8)
  | v6 (groups : List UInt16)
deriving DecidableEq, Repr

namespace IpAddress

/-- A number of one to `width` digits at the start of a text. -/
def readNumber (base width : Nat) (zeroInFront : Bool) (cs : List Char) :
    Option (Nat × List Char) :=
  match Text.takeDigitsIn base cs with
  | ([], _) => none
  | (ds, rest) =>
    if width < ds.length then none
    else if !zeroInFront && ds.head? == some 0 && 1 < ds.length then none
    else some (Text.natOfDigits base ds, rest)

/-- A text that starts with `mark`, without it. -/
def dropMark (mark : Char) : List Char → Option (List Char)
  | c :: cs => if c = mark then some cs else none
  | [] => none

/-- `count` octets with points between them; the first has none in front if `isFirst`. -/
def readOctets (isFirst : Bool) : Nat → List Char → Option (List UInt8 × List Char)
  | 0, cs => some ([], cs)
  | count + 1, cs => do
    let cs ← if isFirst then some cs else dropMark '.' cs
    let (n, rest) ← readNumber 10 3 false cs
    if 255 < n then none
    else
      let (octets, rest) ← readOctets false count rest
      return (UInt8.ofNat n :: octets, rest)

/-- Two octets as a group. -/
def joinOctets (high low : UInt8) : UInt16 := UInt16.ofNat (0x100 * high.toNat + low.toNat)

/-- The two groups of an address of version 4. -/
def readEmbedded (cs : List Char) : Option (List UInt16 × List Char) :=
  match readOctets true 4 cs with
  | some ([a, b, c, d], rest) => some ([joinOctets a b, joinOctets c d], rest)
  | _ => none

/-- As many groups as there are, but at most `room`, and whether they end with an address of
version 4. -/
def readGroups (isFirst : Bool) : Nat → List Char → List UInt16 × Bool × List Char
  | 0, cs => ([], false, cs)
  | room + 1, cs =>
    let after := if isFirst then some cs else dropMark ':' cs
    match if room = 0 then none else after.bind readEmbedded with
    | some (groups, rest) => (groups, true, rest)
    | none =>
      match after.bind (readNumber 16 4 true) with
      | some (n, rest) =>
        let (groups, embedded, rest) := readGroups false room rest
        (UInt16.ofNat n :: groups, embedded, rest)
      | none => ([], false, cs)

/-- Eight groups, some of which may be left out. -/
def readV6 (cs : List Char) : Option (List UInt16 × List Char) :=
  let (front, embedded, rest) := readGroups true 8 cs
  if front.length = 8 then some (front, rest)
  else if embedded then none
  else match rest with
    | ':' :: ':' :: rest =>
      let (back, _, rest) := readGroups true (7 - front.length) rest
      some (front ++ List.replicate (8 - front.length - back.length) 0 ++ back, rest)
    | _ => none

/-- The address that a text spells. -/
def parse? (s : String) : Option IpAddress :=
  match readOctets true 4 s.toList with
  | some (octets, rest) => if rest.isEmpty then some (.v4 octets) else none
  | none =>
    match readV6 s.toList with
    | some (groups, []) => some (.v6 groups)
    | _ => none

/-- The number of zero groups at the start. -/
def zeroRun (groups : List UInt16) : Nat := (groups.takeWhile (· == 0)).length

/-- The place and the length of the first longest run of zero groups. -/
def longestRun : List UInt16 → Nat × Nat
  | [] => (0, 0)
  | g :: gs =>
    let here := zeroRun (g :: gs)
    let (place, length) := longestRun gs
    if 0 < here ∧ length ≤ here then (0, here) else (place + 1, length)

/-- Groups with colons between them. -/
def showGroups (groups : List UInt16) : String :=
  ":".intercalate (groups.map fun g => String.ofList (Nat.toDigits 16 g.toNat))

/-- Octets with points between them. -/
def showOctets (octets : List UInt8) : String :=
  ".".intercalate (octets.map fun b => b.toNat.repr)

/-- The two octets of a group. -/
def splitGroup (g : UInt16) : List UInt8 :=
  [UInt8.ofNat (g.toNat / 0x100), UInt8.ofNat (g.toNat % 0x100)]

/-- The text of an address. An address of version 4 inside version 6 is written as such. -/
def text : IpAddress → String
  | .v4 octets => showOctets octets
  | .v6 groups =>
    match groups with
    | [0, 0, 0, 0, 0, 0xFFFF, high, low] =>
      "::ffff:" ++ showOctets (splitGroup high ++ splitGroup low)
    | _ =>
      let (place, length) := longestRun groups
      if 1 < length then
        showGroups (groups.take place) ++ "::" ++ showGroups (groups.drop (place + length))
      else showGroups groups

end IpAddress

end CatalogShell
