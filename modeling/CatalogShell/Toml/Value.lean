import CatalogShell.Toml.Moment
import CatalogShell.Toml.Number

/-!
# Values of TOML

A value at the start of a text: a scalar, a list in brackets, which may go over several lines,
or a table in braces, which may not.
-/

namespace CatalogShell.Toml

/-- A date, a time or a number. -/
def readMeasure (cs : List Char) : Option (Toml × List Char) :=
  match readMoment cs with
  | .absent => readNumber cs
  | .wrong => none
  | .upTo rest => some (.moment (String.ofList (cs.take (cs.length - rest.length))), rest)

mutual

/-- A value at a depth of nesting. `fuel` bounds the number of values and keys. -/
def readValue : Nat → Nat → List Char → Option (Toml × List Char)
  | 0, _, _ => none
  | fuel + 1, depth, cs =>
    match cs with
    | '"' :: _ | '\'' :: _ => (readString cs).map fun (s, rest) => (.text s, rest)
    | '[' :: cs =>
      if maxDepth ≤ depth + 1 then none
      else (readItems fuel (depth + 1) cs).map fun (items, rest) => (.list items, rest)
    | '\x7b' :: cs =>
      if maxDepth ≤ depth + 1 then none
      else
        match skipSpace cs with
        | '\x7d' :: rest => some (.table .braces [], rest)
        | cs =>
          (readMembers fuel (depth + 1) [] cs).map fun (t, rest) => (.table .braces t, rest)
    | 't' :: 'r' :: 'u' :: 'e' :: rest => some (.bool true, rest)
    | 'f' :: 'a' :: 'l' :: 's' :: 'e' :: rest => some (.bool false, rest)
    | cs => readMeasure cs

/-- The items of a list up to its closing bracket. A comma may follow the last one. -/
def readItems : Nat → Nat → List Char → Option (List Toml × List Char)
  | 0, _, _ => none
  | fuel + 1, depth, cs =>
    match skipLines cs with
    | ']' :: rest => some ([], rest)
    | cs =>
      match readValue fuel depth cs with
      | none => none
      | some (v, rest) =>
        match skipLines rest with
        | ']' :: rest => some ([v], rest)
        | ',' :: rest => (readItems fuel depth rest).map fun (vs, rest) => (v :: vs, rest)
        | _ => none

/-- The members of a table up to its closing brace, added to those before. -/
def readMembers : Nat → Nat → Table → List Char → Option (Table × List Char)
  | 0, _, _, _ => none
  | fuel + 1, depth, t, cs =>
    match readKey cs with
    | some (path, key, '=' :: rest) =>
      match readValue fuel depth (skipSpace rest) with
      | none => none
      | some (v, rest) =>
        match t.define path key v with
        | none => none
        | some t =>
          match skipSpace rest with
          | '\x7d' :: rest => some (t, rest)
          | ',' :: rest => readMembers fuel depth t rest
          | _ => none
    | _ => none

end

end CatalogShell.Toml
