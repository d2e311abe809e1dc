import CatalogShell.Text.Digit

/-!
# Lexemes of TOML

Blanks, line ends, comments and strings, each read from the start of a text. Strings of several
lines drop a line end right after their opening quotes, and write every line end as a newline.
-/

namespace CatalogShell.Toml

/-- A blank within a line. -/
def isSpace (c : Char) : Bool := c = ' ' || c = '\t'

/-- The text from the next character on that is not blank. -/
def skipSpace (cs : List Char) : List Char := cs.dropWhile isSpace

/-- What follows a line end. -/
def dropLineEnd : List Char → Option (List Char)
  | '\n' :: cs => some cs
  | '\r' :: '\n' :: cs => some cs
  | _ => none

/-- The character may stand in a comment. -/
def isCommentChar (c : Char) : Bool := c = '\t' || (0x20 ≤ c.toNat && c.toNat ≠ 0x7F)

/-- The text after a comment, if there is one. -/
def skipComment : List Char → List Char
  | '#' :: cs => cs.dropWhile isCommentChar
  | cs => cs

/-- The text after the rest of a line that says nothing more. -/
def endLine (cs : List Char) : Option (List Char) :=
  match skipComment (skipSpace cs) with
  | [] => some []
  | cs => dropLineEnd cs

/-- The text after blanks, line ends and comments. -/
def skipLines : List Char → List Char
  | [] => []
  | '#' :: cs => skipLines (cs.dropWhile isCommentChar)
  | '\r' :: '\n' :: cs => skipLines cs
  | c :: cs => if isSpace c || c = '\n' then skipLines cs else c :: cs
termination_by cs => cs.length
decreasing_by
  · exact Nat.lt_succ_of_le (List.dropWhile_sublist _).length_le
  all_goals grind

/-- The text after blanks and line ends. -/
def skipBlankLines : List Char → List Char
  | '\r' :: '\n' :: cs => skipBlankLines cs
  | c :: cs => if isSpace c || c = '\n' then skipBlankLines cs else c :: cs
  | [] => []

/-! ## Strings -/

/-- The character stands for itself in a string with escapes. -/
def isPlain (c : Char) : Bool := isCommentChar c && c ≠ '"' && c ≠ '\\'

/-- The character stands for itself in a string without escapes. -/
def isLiteral (c : Char) : Bool := isCommentChar c && c ≠ '\''

/-- A character given by so many hexadecimal digits. -/
def readCode (width : Nat) (cs : List Char) : Option (Char × List Char) :=
  if cs.length < width then none
  else do
    let n ← Text.hexNumber? (cs.take width)
    if n.isValidChar then some (Char.ofNat n, cs.drop width) else none

/-- A character after a backslash. -/
def readEscape : List Char → Option (Char × List Char)
  | 'b' :: cs => some ('\x08', cs)
  | 't' :: cs => some ('\t', cs)
  | 'n' :: cs => some ('\n', cs)
  | 'f' :: cs => some ('\x0C', cs)
  | 'r' :: cs => some ('\r', cs)
  | '"' :: cs => some ('"', cs)
  | '\\' :: cs => some ('\\', cs)
  | 'u' :: cs => readCode 4 cs
  | 'U' :: cs => readCode 8 cs
  | _ => none

/-- A string after its opening quote, with the text after the closing one. `fuel` bounds the
number of characters. -/
def readBasic : Nat → List Char → Option (List Char × List Char)
  | 0, _ => none
  | _ + 1, '"' :: cs => some ([], cs)
  | fuel + 1, '\\' :: cs => do
    let (c, cs) ← readEscape cs
    let (s, rest) ← readBasic fuel cs
    return (c :: s, rest)
  | fuel + 1, c :: cs =>
    if isPlain c then (readBasic fuel cs).map fun (s, rest) => (c :: s, rest) else none
  | _ + 1, [] => none

/-- A string without escapes after its opening quote. -/
def readLiteral (cs : List Char) : Option (List Char × List Char) :=
  match cs.dropWhile isLiteral with
  | '\'' :: rest => some (cs.takeWhile isLiteral, rest)
  | _ => none

/-- The number of times that a character stands at the start of a text. -/
def runLength (c : Char) (cs : List Char) : Nat := (cs.takeWhile (· = c)).length

/-- How a run of quotes in a string of several lines is read: up to two are content, and the last
three of up to five close the string. -/
def readQuotes (quote : Char) (cs : List Char) : List Char × Bool × List Char :=
  let n := runLength quote cs
  let content := if n < 3 then n else min (n - 3) 2
  (List.replicate content quote, 3 ≤ n, cs.drop (if n < 3 then n else content + 3))

/-- A string of several lines after its opening quotes. A backslash at the end of a line takes
the blanks and line ends after it away. -/
def readBasicLines : Nat → List Char → Option (List Char × List Char)
  | 0, _ => none
  | _ + 1, [] => none
  | fuel + 1, '"' :: cs =>
    let (content, closed, rest) := readQuotes '"' ('"' :: cs)
    if closed then some (content, rest)
    else (readBasicLines fuel rest).map fun (s, rest) => (content ++ s, rest)
  | fuel + 1, '\\' :: cs =>
    match dropLineEnd (skipSpace cs) with
    | some rest => readBasicLines fuel (skipBlankLines rest)
    | none => do
      let (c, cs) ← readEscape cs
      let (s, rest) ← readBasicLines fuel cs
      return (c :: s, rest)
  | fuel + 1, c :: cs =>
    match dropLineEnd (c :: cs) with
    | some cs => (readBasicLines fuel cs).map fun (s, rest) => ('\n' :: s, rest)
    | none =>
      if isPlain c then (readBasicLines fuel cs).map fun (s, rest) => (c :: s, rest) else none

/-- A string of several lines without escapes, after its opening quotes. -/
def readLiteralLines : Nat → List Char → Option (List Char × List Char)
  | 0, _ => none
  | _ + 1, [] => none
  | fuel + 1, '\'' :: cs =>
    let (content, closed, rest) := readQuotes '\'' ('\'' :: cs)
    if closed then some (content, rest)
    else (readLiteralLines fuel rest).map fun (s, rest) => (content ++ s, rest)
  | fuel + 1, c :: cs =>
    match dropLineEnd (c :: cs) with
    | some cs => (readLiteralLines fuel cs).map fun (s, rest) => ('\n' :: s, rest)
    | none =>
      if isLiteral c then (readLiteralLines fuel cs).map fun (s, rest) => (c :: s, rest) else none

/-- The text without a line end at its start. -/
def skipLineEnd (cs : List Char) : List Char := (dropLineEnd cs).getD cs

/-- A string at the start of a text. -/
def readString (cs : List Char) : Option (String × List Char) :=
  let found := match cs with
    | '"' :: '"' :: '"' :: cs => readBasicLines (cs.length + 1) (skipLineEnd cs)
    | '"' :: cs => readBasic (cs.length + 1) cs
    | '\'' :: '\'' :: '\'' :: cs => readLiteralLines (cs.length + 1) (skipLineEnd cs)
    | '\'' :: cs => readLiteral cs
    | _ => none
  found.map fun (s, rest) => (String.ofList s, rest)

/-! ## Keys -/

/-- The character may stand in a bare key. -/
def isKeyChar (c : Char) : Bool := c.isAlphanum || c = '_' || c = '-'

/-- A key without dots: quoted on one line, or bare. -/
def readSimpleKey (cs : List Char) : Option (String × List Char) :=
  match cs with
  | '"' :: cs => (readBasic (cs.length + 1) cs).map fun (s, rest) => (String.ofList s, rest)
  | '\'' :: cs => (readLiteral cs).map fun (s, rest) => (String.ofList s, rest)
  | cs =>
    let key := cs.takeWhile isKeyChar
    if key.isEmpty then none else some (String.ofList key, cs.dropWhile isKeyChar)

/-- The parts of a key, with dots between them and blanks around them. -/
def readParts : Nat → List Char → Option (List String × List Char)
  | 0, _ => none
  | fuel + 1, cs => do
    let (part, rest) ← readSimpleKey (skipSpace cs)
    match skipSpace rest with
    | '.' :: rest =>
      let (parts, rest) ← readParts fuel rest
      return (part :: parts, rest)
    | rest => return ([part], rest)

/-- How deep values may be nested, and how many parts keys may have. -/
def maxDepth : Nat := 80

/-- A key: the parts before its last one, and the last one. -/
def readKey (cs : List Char) : Option (List String × String × List Char) := do
  let (parts, rest) ← readParts (cs.length + 1) cs
  if maxDepth ≤ parts.length then none
  else return (parts.dropLast, ← parts.getLast?, rest)

end CatalogShell.Toml
