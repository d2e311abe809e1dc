import CatalogShell.Text.Blank
import CatalogShell.Text.WordChar

/-!
# Regular expressions and matching

A `Regex` matches stretches of a text, given as an array of characters. A position is the number
of characters before it, and a set of positions is a number whose bit `i` tells whether
position `i` belongs to it.

* `Regex.ends`: from where a match may start to where it may end.
* `Regex.isMatch`: some stretch of the text matches.

A repetition without limit reaches all that it can reach after at most as many rounds as there
are positions, so matching ends for every expression and text.
-/

namespace CatalogShell

/-- A set of characters. -/
inductive CharSet where
  | none
  | range (low high : Char)
  | digit
  | space
  | word
  | not (a : CharSet)
  | union (a b : CharSet)
  | inter (a b : CharSet)
  | diff (a b : CharSet)
  | symmDiff (a b : CharSet)
deriving DecidableEq, Repr

/-- The character belongs to the set. -/
def CharSet.has : CharSet → Char → Bool
  | .none, _ => false
  | .range low high, c => low ≤ c && c ≤ high
  | .digit, c => Text.isDigit c
  | .space, c => Text.isBlank c
  | .word, c => Text.isWord c
  | .not a, c => !a.has c
  | .union a b, c => a.has c || b.has c
  | .inter a b, c => a.has c && b.has c
  | .diff a b, c => a.has c && !b.has c
  | .symmDiff a b, c => a.has c != b.has c

/-- One character. -/
def CharSet.single (c : Char) : CharSet := .range c c

/-- A condition on a position. The last six look at the characters on its two sides. -/
inductive Look where
  | start
  | stop
  | wordBoundary
  | notWordBoundary
  | wordStart
  | wordEnd
  | wordStartHalf
  | wordEndHalf
deriving DecidableEq, Repr

/-- The condition holds at a position of a text. -/
def Look.holds (l : Look) (text : Array Char) (i : Nat) : Bool :=
  let isWordAt (k : Nat) : Bool := text[k]?.any Text.isWord
  let before := i ≠ 0 && isWordAt (i - 1)
  let after := isWordAt i
  match l with
  | .start => i = 0
  | .stop => i = text.size
  | .wordBoundary => before != after
  | .notWordBoundary => before == after
  | .wordStart => !before && after
  | .wordEnd => before && !after
  | .wordStartHalf => !before
  | .wordEndHalf => !after

/-- A regular expression. -/
inductive Regex where
  /-- The empty text. -/
  | empty
  /-- One character of a set. -/
  | one (set : CharSet)
  /-- The empty text at a position that meets a condition. -/
  | look (l : Look)
  /-- One expression after the other. -/
  | seq (a b : Regex)
  /-- One of two expressions. -/
  | alt (a b : Regex)
  /-- Between `least` and `most` times an expression; `none`: without limit. -/
  | times (r : Regex) (least : Nat) (most : Option Nat)
deriving DecidableEq, Repr

/-- A set of positions: bit `i` stands for position `i`. -/
abbrev Positions := Nat

namespace Positions

/-- The positions below `n` that meet a condition. -/
def filter (meets : Nat → Bool) : Nat → Positions
  | 0 => 0
  | n + 1 => filter meets n ||| (if meets n then 1 <<< n else 0)

/-- The positions of `ps` that are not in `seen`. -/
def without (ps seen : Positions) : Positions := (ps ||| seen) ^^^ seen

/-- The positions that `step` reaches from `ps` in exactly `n` rounds. -/
def rounds (step : Positions → Positions) : Nat → Positions → Positions
  | 0, ps => ps
  | n + 1, ps =>
    let next := step ps
    if next = ps then ps else rounds step n next

/-- The positions that `step` reaches in at most `n` rounds: those already `seen`, and those it
reaches from the `latest` of them. -/
def upTo (step : Positions → Positions) : Nat → Positions → Positions → Positions
  | 0, seen, _ => seen
  | n + 1, seen, latest =>
    let next := (step latest).without seen
    if next = 0 then seen else upTo step n (seen ||| next) next

end Positions

namespace Regex

/-- Where a match may end if it starts at one of the given positions. -/
def ends (text : Array Char) : Regex → Positions → Positions
  | .empty, ps => ps
  | .one set, ps =>
    Positions.filter (fun i => ps.testBit i && text[i]?.any set.has) text.size <<< 1
  | .look l, ps => Positions.filter (fun i => ps.testBit i && l.holds text i) (text.size + 1)
  | .seq a b, ps => ends text b (ends text a ps)
  | .alt a b, ps => ends text a ps ||| ends text b ps
  | .times r least most, ps =>
    let first := Positions.rounds (ends text r) least ps
    Positions.upTo (ends text r) (most.elim (text.size + 1) (· - least)) first first

/-- Some stretch of the text matches. -/
def isMatch (r : Regex) (text : String) : Bool :=
  let cs := text.toList.toArray
  r.ends cs (Nat.pow 2 (cs.size + 1) - 1) ≠ 0

end Regex

end CatalogShell
