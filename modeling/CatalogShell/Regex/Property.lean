import CatalogShell.Regex.Basic

/-!
# Characters with a property

After `\p` and `\P` an expression names a set of characters by a property that they have, as in
`\pL`, `\p{Greek}` or `\p{sc=Greek}`. Which names there are depends on the Unicode data at hand, so
expressions are read with a table of them (`Regex.Properties`), and what is proved about reading
holds for every table.
-/

namespace CatalogShell.Regex

/-- The sets that are named by properties. A name is one letter, or what stands between braces. -/
class Properties where
  set? (name : List Char) : Option CharSet

namespace Properties

/-- The part of a name that counts: neither case nor blanks, hyphens and underscores do. -/
def plain (name : List Char) : String :=
  String.ofList ((name.filter fun c => !(c = ' ' || c = '-' || c = '_')).map Char.toLower)

/-- The properties whose characters are known to the classes `\d` and `\s` or follow from the
numbers of the characters. -/
instance known : Properties where
  set? name :=
    match plain name with
    | "any" => some (.not .none)
    | "ascii" => some (.range '\x00' '\x7F')
    | "nd" | "digit" | "decimalnumber" => some .digit
    | "space" | "wspace" | "whitespace" => some .space
    | _ => none

example : set? "White_Space".toList = some .space := rfl

end Properties

end CatalogShell.Regex
