import CatalogShell.Failure

/-!
# Name patterns

A pattern such as `app.user*` or `"My Schema".t?` names schemas and relations. It is read as a
list of glyphs, each a quoted or a bare character. The first bare dot separates the schema part
from the name part. A part is compiled to the body of a regular expression, and a body that is
not empty becomes the filter `^(body)$`.

* Bare capitals fold to lower case, `*` stands for any run, `?` for any one character.
* Quoted characters stand for themselves, and a doubled quote inside quotes for one quote.
* A dollar sign is escaped everywhere. Other bare characters are passed on as they are, so that
  bare syntax of regular expressions keeps its meaning.

`compile` accepts a quote that is never closed; in `PatternMode.strict` it is refused.
-/

namespace CatalogShell

/-- A character of a pattern, inside or outside quotes. -/
inductive Glyph where
  | quoted (c : Char)
  | bare (c : Char)
deriving DecidableEq, Repr

/-- Reads a pattern from inside (`true`) or outside quotes. The flag in the result tells on which
side the pattern ends. -/
def glyphs : Bool → List Char → List Glyph × Bool
  | open_, [] => ([], open_)
  | true, '"' :: '"' :: cs => let (gs, last) := glyphs true cs; (.quoted '"' :: gs, last)
  | open_, c :: cs =>
    if c = '"' then glyphs (!open_) cs
    else
      let (gs, last) := glyphs open_ cs
      ((if open_ then .quoted c else .bare c) :: gs, last)

/-- The characters that have a meaning in regular expressions, the dollar sign aside. -/
def isMeta (c : Char) : Bool :=
  ['|', '*', '+', '?', '(', ')', '[', ']', '{', '}', '.', '^', '\\'].contains c

namespace Glyph

/-- What a glyph contributes to the body of a filter. -/
def body : Glyph → List Char
  | .quoted c => if c = '$' ∨ isMeta c then ['\\', c] else [c]
  | .bare c =>
    if c.isUpper then [c.toLower]
    else if c = '*' then ['.', '*']
    else if c = '?' then ['.']
    else if c = '.' then ['\\', '.']
    else if c = '$' then ['\\', '$']
    else [c]

end Glyph

/-- A compiled pattern. -/
structure Pattern where
  /-- The body of the schema filter, empty when any schema will do. -/
  schemaBody : List Char
  /-- The body of the name filter, empty when any name will do. -/
  nameBody : List Char
  /-- The pattern ends inside quotes. -/
  openQuote : Bool
deriving DecidableEq, Repr

/-- The body that a list of glyphs compiles to. -/
def bodyOf (gs : List Glyph) : List Char := gs.flatMap Glyph.body

/-- The glyphs before the first bare dot, and those after it if there is one. -/
def splitAtDot : List Glyph → List Glyph × Option (List Glyph)
  | [] => ([], none)
  | g :: gs =>
    if g = .bare '.' then ([], some gs)
    else let (before, after) := splitAtDot gs; (g :: before, after)

namespace Pattern

/-- Compiles a pattern. A quote that is never closed runs to the end. -/
def compile (text : String) : Pattern :=
  let (gs, openQuote) := glyphs false text.toList
  match splitAtDot gs with
  | (name, none) => ⟨[], bodyOf name, openQuote⟩
  | (schema, some name) => ⟨bodyOf schema, bodyOf name, openQuote⟩

/-- The filter of a body: none for an empty one, otherwise anchored at both ends. -/
def filterOf (body : List Char) : Option String :=
  if body.isEmpty then none else some (String.ofList ('^' :: '(' :: (body ++ [')', '$'])))

/-- The regular expression for the schema, if the pattern restricts it. -/
def schemaFilter? (p : Pattern) : Option String := filterOf p.schemaBody

/-- The regular expression for the name, if the pattern restricts it. -/
def nameFilter? (p : Pattern) : Option String := filterOf p.nameBody

/-- Neither schema nor name is restricted. -/
def isUnfiltered (p : Pattern) : Bool := p.schemaBody.isEmpty && p.nameBody.isEmpty

end Pattern

/-- What becomes of a pattern whose quotes are not closed. -/
inductive PatternMode where
  | lenient
  | strict
deriving DecidableEq, Repr, Inhabited

/-- Compiles a pattern as the mode says. -/
def PatternMode.compile (mode : PatternMode) (text : String) : Except Failure Pattern :=
  let p := Pattern.compile text
  if mode = .strict ∧ p.openQuote then .error (.unterminatedQuote text) else .ok p

end CatalogShell
