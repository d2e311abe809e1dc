import CatalogShell.Regex.Property
import CatalogShell.Text.Digit

/-!
# Reading regular expressions

`Regex.read` turns text into an expression. It goes through the text once with a stack of open
groups; each `Level` of the stack holds the branches of an alternation that are complete and the
items of the branch that is being read. Bracketed sets are read on their own, with nested sets,
named ASCII classes and the operations `&&`, `--` and `~~`. The sets that properties name (`\p`) are
those of any table.

An expression may be nested at most `maxHeight` levels deep, bracketed sets included, and its
counted repetitions may not grow beyond `maxUnrolled` when they are written out. How much they grow
is only estimated (`weight`).
-/

namespace CatalogShell.Regex

open Text (digit? hexNumber?)

/-- What an escape or a plain character stands for. -/
inductive Atom where
  | literal (c : Char)
  | set (s : CharSet)
  | look (l : Look)

/-- The character of a code point. -/
def charOfCode? (n : Nat) : Option Char :=
  if n.isValidChar then some (Char.ofNat n) else none

/-- A code point after its mark: `width` hexadecimal digits, or any number in braces. -/
def readCode (width : Nat) (cs : List Char) : Option (Atom × List Char) :=
  match cs with
  | '{' :: cs =>
    match cs.span (· ≠ '}') with
    | ([], _) => none
    | (_, []) => none
    | (digits, _ :: rest) => do
      let c ← (← hexNumber? digits) |> charOfCode?
      return (.literal c, rest)
  | cs =>
    if cs.length < width then none
    else do
      let c ← (← hexNumber? (cs.take width)) |> charOfCode?
      return (.literal c, cs.drop width)

/-- The named conditions on word boundaries. -/
def boundary? (name : List Char) : Option Look :=
  match String.ofList name with
  | "start" => some .wordStart
  | "end" => some .wordEnd
  | "start-half" => some .wordStartHalf
  | "end-half" => some .wordEndHalf
  | _ => none

/-- What follows the escape of a word boundary: perhaps a name in braces. -/
def readBoundary (cs : List Char) : Option (Atom × List Char) :=
  let isNameChar (c : Char) : Bool := c.isAlpha || c = '-'
  match cs with
  | ['{'] => none
  | '{' :: c :: cs =>
    if isNameChar c then
      match (c :: cs).span isNameChar with
      | (name, '}' :: rest) => (boundary? name).map fun l => (.look l, rest)
      | _ => none
    else some (.look .wordBoundary, '{' :: c :: cs)
  | cs => some (.look .wordBoundary, cs)

section

variable [Properties]

/-- The set that the name of a property stands for, or the characters that are not in it. -/
def propertyAtom? (negated : Bool) (name : List Char) : Option Atom :=
  (Properties.set? name).map fun s => .set (if negated then .not s else s)

/-- A property after its mark: one letter, or a name in braces. -/
def readProperty (negated : Bool) : List Char → Option (Atom × List Char)
  | [] => none
  | '{' :: cs =>
    match cs.span (· ≠ '}') with
    | (_, []) => none
    | (name, _ :: rest) => (propertyAtom? negated name).map fun a => (a, rest)
  | c :: cs => if c = '\\' then none else (propertyAtom? negated [c]).map fun a => (a, cs)

/-- An escape after its backslash. Every ASCII character that is no letter, digit or angle
bracket stands for itself. -/
def readEscape : List Char → Option (Atom × List Char)
  | [] => none
  | c :: cs =>
    match c with
    | 'd' => some (.set .digit, cs)
    | 'D' => some (.set (.not .digit), cs)
    | 's' => some (.set .space, cs)
    | 'S' => some (.set (.not .space), cs)
    | 'w' => some (.set .word, cs)
    | 'W' => some (.set (.not .word), cs)
    | 'p' => readProperty false cs
    | 'P' => readProperty true cs
    | 'x' => readCode 2 cs
    | 'u' => readCode 4 cs
    | 'U' => readCode 8 cs
    | 'a' => some (.literal '\x07', cs)
    | 'f' => some (.literal '\x0C', cs)
    | 't' => some (.literal '\t', cs)
    | 'n' => some (.literal '\n', cs)
    | 'r' => some (.literal '\r', cs)
    | 'v' => some (.literal '\x0B', cs)
    | 'A' => some (.look .start, cs)
    | 'z' => some (.look .stop, cs)
    | 'b' => readBoundary cs
    | 'B' => some (.look .notWordBoundary, cs)
    | '<' => some (.look .wordStart, cs)
    | '>' => some (.look .wordEnd, cs)
    | c => if c.toNat < 128 ∧ !c.isAlphanum then some (.literal c, cs) else none

end

/-! ## Bracketed sets -/

/-- The ASCII classes that are written `[:name:]` inside brackets. -/
def asciiClass? (name : List Char) : Option CharSet :=
  let range (low high : Char) := CharSet.range low high
  let letters := CharSet.union (range 'a' 'z') (range 'A' 'Z')
  match String.ofList name with
  | "alnum" => some (.union (range '0' '9') letters)
  | "alpha" => some letters
  | "ascii" => some (range '\x00' '\x7F')
  | "blank" => some (.union (.single '\t') (.single ' '))
  | "cntrl" => some (.union (range '\x00' '\x1F') (.single '\x7F'))
  | "digit" => some (range '0' '9')
  | "graph" => some (range '!' '~')
  | "lower" => some (range 'a' 'z')
  | "print" => some (range ' ' '~')
  | "punct" =>
    some (.union (.union (range '!' '/') (range ':' '@'))
      (.union (range '[' '\x60') (range '\x7b' '~')))
  | "space" => some (.union (range '\t' '\r') (.single ' '))
  | "upper" => some (range 'A' 'Z')
  | "word" => some (.union (.union (range '0' '9') letters) (.single '_'))
  | "xdigit" => some (.union (range '0' '9') (.union (range 'a' 'f') (range 'A' 'F')))
  | _ => none

/-- Whether a circumflex negates what follows, and what follows it. -/
def negation : List Char → Bool × List Char
  | '^' :: cs => (true, cs)
  | cs => (false, cs)

/-- The name of a class after its circumflex, and the end of the class. -/
def classAfter (negated : Bool) (cs : List Char) : Option (CharSet × List Char) :=
  match cs.span (· ≠ ':') with
  | (name, ':' :: ']' :: rest) =>
    (asciiClass? name).map fun s => (if negated then .not s else s, rest)
  | _ => none

/-- A named class after its opening bracket. -/
def readAsciiClass : List Char → Option (CharSet × List Char)
  | ':' :: cs =>
    let (negated, cs) := negation cs
    classAfter negated cs
  | _ => none

/-- One end of a range, or a class, in brackets. -/
def readSetAtom [Properties] : List Char → Option (Atom × List Char)
  | [] => none
  | '\\' :: cs => readEscape cs
  | c :: cs => some (.literal c, cs)

/-- The set of an atom in brackets; conditions on positions have none. -/
def Atom.set? : Atom → Option CharSet
  | .literal c => some (.single c)
  | .set s => some s
  | .look _ => none

/-- A range, or a single member of a set. A hyphen before a closing bracket or another hyphen
makes no range. -/
def readSetItem [Properties] (cs : List Char) : Option (CharSet × List Char) := do
  let (first, rest) ← readSetAtom cs
  let single : Option (CharSet × List Char) := first.set?.map fun s => (s, rest)
  match rest with
  | [] => none
  | '-' :: ']' :: _ => single
  | '-' :: '-' :: _ => single
  | '-' :: rest => do
    let (last, rest) ← readSetAtom rest
    match first, last with
    | .literal low, .literal high => if low ≤ high then some (.range low high, rest) else none
    | _, _ => none
  | _ => single

/-- A part of a bracketed set and how deep it is nested: characters, ranges and classes not at all,
and every set, every row of two parts or more and every operation one level deeper than its
parts. -/
structure SetPart where
  set : CharSet
  height : Nat

/-- A part that has no parts of its own. -/
def SetPart.leaf (set : CharSet) : SetPart := ⟨set, 0⟩

/-- The parts of a row, given latest first, as one part. -/
def unite : List SetPart → SetPart
  | [] => .leaf .none
  | [part] => part
  | last :: earlier =>
    ⟨earlier.foldl (fun after part => .union part.set after) last.set,
      ((last :: earlier).map SetPart.height).foldl max 0 + 1⟩

/-- An operation between two parts of a bracketed set. -/
inductive SetOp where
  | inter
  | diff
  | symmDiff

/-- The set that an operation makes of two others. -/
def SetOp.apply : SetOp → CharSet → CharSet → CharSet
  | .inter => .inter
  | .diff => .diff
  | .symmDiff => .symmDiff

/-- The result of the operation that waits for its right side, if there is one. -/
def applyOp (left : Option (SetOp × SetPart)) (right : SetPart) : SetPart :=
  match left with
  | none => right
  | some (op, left) => ⟨op.apply left.set right.set, max left.height right.height + 1⟩

/-- The set between its brackets. -/
def bracketed (negated : Bool) (part : SetPart) : SetPart :=
  ⟨if negated then .not part.set else part.set, part.height + 1⟩

/-- What stands for itself at the start of a set: hyphens, or else a closing bracket. -/
def openingAfter (negated : Bool) : List Char → Bool × List SetPart × List Char
  | '-' :: cs =>
    let hyphens := (('-' :: cs).takeWhile (· = '-')).map fun c => .leaf (.single c)
    (negated, hyphens, ('-' :: cs).dropWhile (· = '-'))
  | ']' :: cs => (negated, [.leaf (.single ']')], cs)
  | cs => (negated, [], cs)

/-- What may stand right after an opening bracket: a circumflex, and characters that stand for
themselves. -/
def readSetOpening (cs : List Char) : Bool × List SetPart × List Char :=
  let (negated, cs) := negation cs
  openingAfter negated cs

section

variable [Properties]

mutual

/-- A bracketed set after its opening bracket. `fuel` bounds the number of its parts. -/
def readSet : Nat → List Char → Option (SetPart × List Char)
  | 0, _ => none
  | fuel + 1, cs =>
    let (negated, opening, cs) := readSetOpening cs
    match readSetItems fuel none opening cs with
    | none => none
    | some (part, rest) => some (bracketed negated part, rest)

/-- The items of a set up to its closing bracket; those that were read are given latest first. -/
def readSetItems : Nat → Option (SetOp × SetPart) → List SetPart → List Char →
    Option (SetPart × List Char)
  | 0, _, _, _ => none
  | fuel + 1, left, items, cs =>
    match cs with
    | [] => none
    | ']' :: rest => some (applyOp left (unite items), rest)
    | '[' :: rest =>
      match readAsciiClass rest with
      | some (set, rest) => readSetItems fuel left (.leaf set :: items) rest
      | none =>
        match readSet fuel rest with
        | none => none
        | some (part, rest) => readSetItems fuel left (part :: items) rest
    | '&' :: '&' :: rest =>
      readSetItems fuel (some (.inter, applyOp left (unite items))) [] rest
    | '-' :: '-' :: rest =>
      readSetItems fuel (some (.diff, applyOp left (unite items))) [] rest
    | '~' :: '~' :: rest =>
      readSetItems fuel (some (.symmDiff, applyOp left (unite items))) [] rest
    | cs =>
      match readSetItem cs with
      | none => none
      | some (set, rest) => readSetItems fuel left (.leaf set :: items) rest

end

end

/-! ## Repetitions -/

/-- A bound of a repetition, with blanks around it: a number below `2 ^ 32`. -/
def readBound (cs : List Char) : Option (Nat × List Char) :=
  let (digits, rest) := (cs.dropWhile Text.isBlank).span Char.isDigit
  let n := digits.foldl (fun n c => 10 * n + (c.toNat - 48)) 0
  if digits.isEmpty ∨ 0x100000000 ≤ n then none else some (n, rest.dropWhile Text.isBlank)

/-- The bounds of a repetition after its opening brace. -/
def readBounds (cs : List Char) : Option (Nat × Option Nat × List Char) := do
  let (least, rest) ← readBound cs
  match rest with
  | '}' :: rest => some (least, some least, rest)
  | ',' :: '}' :: rest => some (least, none, rest)
  | ',' :: rest => do
    let (most, rest) ← readBound rest
    match rest with
    | '}' :: rest => if least ≤ most then some (least, some most, rest) else none
    | _ => none
  | _ => none

/-- What follows a repetition: a question mark only asks for short matches, which makes no
difference to whether a text matches. -/
def skipLazy : List Char → List Char
  | '?' :: rest => rest
  | rest => rest

/-! ## Groups and alternations -/

/-- How deep an expression may be nested. -/
def maxHeight : Nat := 250

/-- An expression and how deep it is nested: characters and conditions not at all, bracketed sets as
deep as their parts say, and every group, repetition, sequence and alternation one level deeper than
its parts. -/
structure Item where
  regex : Regex
  height : Nat

/-- An open group: its complete branches and the items of the current one, latest first. -/
structure Level where
  branches : List Item := []
  items : List Item := []

/-- The sequence of items that are given latest first. -/
def sequence : List Item → Item
  | [] => ⟨.empty, 0⟩
  | [item] => item
  | last :: earlier =>
    ⟨earlier.foldl (fun after item => .seq item.regex after) last.regex,
      ((last :: earlier).map Item.height).foldl max 0 + 1⟩

/-- The alternation of branches that are given latest first. -/
def alternation : List Item → Item
  | [] => ⟨.empty, 0⟩
  | [item] => item
  | last :: earlier =>
    ⟨earlier.foldl (fun after item => .alt item.regex after) last.regex,
      ((last :: earlier).map Item.height).foldl max 0 + 1⟩

namespace Level

/-- Add an item to the current branch. -/
def add (l : Level) (item : Item) : Level := { l with items := item :: l.items }

/-- Complete the current branch and start another. -/
def branch (l : Level) : Level := { branches := sequence l.items :: l.branches, items := [] }

/-- The expression of the level. -/
def close (l : Level) : Item := alternation (sequence l.items :: l.branches)

/-- Repeat the last item of the current branch. -/
def repeatLast (l : Level) (least : Nat) (most : Option Nat) : Option Level :=
  match l.items with
  | [] => none
  | item :: items =>
    some { l with items := ⟨.times item.regex least most, item.height + 1⟩ :: items }

end Level

/-- The item of an atom. -/
def Atom.item : Atom → Item
  | .literal c => ⟨.one (.single c), 0⟩
  | .set s => ⟨.one s, 0⟩
  | .look l => ⟨.look l, 0⟩

/-- Any character but a newline. -/
def anyChar : CharSet := .not (.single '\n')

section

variable [Properties]

/-- One step on the open groups, innermost first: the groups and the text after it. -/
def readStep (level : Level) (outer : List Level) :
    List Char → Option (Level × List Level × List Char)
  | [] => none
  | '(' :: cs => some ({}, level :: outer, cs)
  | ')' :: cs =>
    match outer with
    | [] => none
    | next :: outer =>
      let inner := level.close
      some (next.add ⟨inner.regex, inner.height + 1⟩, outer, cs)
  | '|' :: cs => some (level.branch, outer, cs)
  | '[' :: cs =>
    (readSet (2 * cs.length + 2) cs).map fun (part, rest) =>
      (level.add ⟨.one part.set, part.height⟩, outer, rest)
  | '*' :: cs => (level.repeatLast 0 none).map fun level => (level, outer, skipLazy cs)
  | '+' :: cs => (level.repeatLast 1 none).map fun level => (level, outer, skipLazy cs)
  | '?' :: cs => (level.repeatLast 0 (some 1)).map fun level => (level, outer, skipLazy cs)
  | '{' :: cs => do
    let (least, most, rest) ← readBounds cs
    let level ← level.repeatLast least most
    return (level, outer, skipLazy rest)
  | '\\' :: cs => (readEscape cs).map fun (a, rest) => (level.add a.item, outer, rest)
  | '.' :: cs => some (level.add ⟨.one anyChar, 0⟩, outer, cs)
  | '^' :: cs => some (level.add ⟨.look .start, 0⟩, outer, cs)
  | '$' :: cs => some (level.add ⟨.look .stop, 0⟩, outer, cs)
  | c :: cs => some (level.add ⟨.one (.single c), 0⟩, outer, cs)

/-- Steps until the text ends. `fuel` bounds their number. -/
def readSteps : Nat → Level → List Level → List Char → Option Item
  | _, level, [], [] => some level.close
  | _, _, _ :: _, [] => none
  | 0, _, _, _ :: _ => none
  | fuel + 1, level, outer, c :: cs =>
    match readStep level outer (c :: cs) with
    | none => none
    | some (level, outer, rest) => readSteps fuel level outer rest

end

/-- About how many states a set of characters takes in an automaton over encoded text. -/
def setWeight : CharSet → Nat
  | .none => 0
  | .range low high => if low = high then low.utf8Size else if high.toNat < 128 then 1 else 8
  | .digit => 100
  | .space => 16
  | .word => 2200
  | .not a => setWeight a + 8
  | .union a b => setWeight a + setWeight b
  | .inter a b => setWeight a + setWeight b
  | .diff a b => setWeight a + setWeight b
  | .symmDiff a b => setWeight a + setWeight b

/-- About how many states an expression takes when its repetitions are written out. -/
def weight : Regex → Nat
  | .empty => 1
  | .one set => setWeight set
  | .look _ => 1
  | .seq a b => weight a + weight b
  | .alt a b => weight a + weight b + 1
  | .times r least most => (most.getD (least + 1)) * (weight r + 1)

/-- About how many states the counted repetitions of an expression add by being written out. -/
def unrolled : Regex → Nat
  | .empty => 0
  | .one _ => 0
  | .look _ => 0
  | .seq a b => unrolled a + unrolled b
  | .alt a b => unrolled a + unrolled b
  | .times r least most => if most.getD least ≤ 1 then unrolled r else weight (.times r least most)

/-- How many states counted repetitions may add. -/
def maxUnrolled : Nat := 327680

/-- The expression that characters spell. -/
def readChars [Properties] (cs : List Char) : Option Regex := do
  let item ← readSteps cs.length {} [] cs
  if item.height ≤ maxHeight ∧ unrolled item.regex ≤ maxUnrolled then some item.regex else none

/-- The expression that a text spells. -/
def read [Properties] (s : String) : Option Regex := readChars s.toList

end CatalogShell.Regex
