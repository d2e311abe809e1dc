import CatalogShell.Connection.Parameter
import CatalogShell.Text.Blank

/-!
# Connection strings of keywords

Keywords and values with an equals sign between them and blanks around everything. A value that
holds blanks stands in single quotes, and a backslash takes the character after it as it is.
Reading ends where no keyword follows, so that a lone `=` hides the rest of the text.
-/

namespace CatalogShell.Connection.Keywords

/-- A bare value, up to a blank, and the rest. -/
def bareValue : List Char → List Char × List Char
  | [] => ([], [])
  | ['\\'] => ([], [])
  | '\\' :: c :: cs => let (value, rest) := bareValue cs; (c :: value, rest)
  | c :: cs =>
    if Text.isBlank c then ([], c :: cs)
    else let (value, rest) := bareValue cs; (c :: value, rest)

/-- A value after its opening quote, and what follows the closing one. -/
def quotedValue : List Char → Option (List Char × List Char)
  | [] => none
  | ['\\'] => none
  | '\\' :: c :: cs => (quotedValue cs).map fun (value, rest) => (c :: value, rest)
  | c :: cs =>
    if c = '\'' then some ([], cs)
    else (quotedValue cs).map fun (value, rest) => (c :: value, rest)

/-- A value, which is not empty unless it is quoted. -/
def value? (cs : List Char) : Option (List Char × List Char) :=
  match cs with
  | '\'' :: cs => quotedValue cs
  | cs =>
    let (value, rest) := bareValue cs
    if value.isEmpty then none else some (value, rest)

theorem bareValue_length_le (cs : List Char) : (bareValue cs).2.length ≤ cs.length := by
  fun_induction bareValue cs <;> grind

theorem quotedValue_length_le {cs value rest : List Char}
    (h : quotedValue cs = some (value, rest)) : rest.length ≤ cs.length := by
  fun_induction quotedValue cs generalizing value rest <;> grind [Option.map_eq_some_iff]

theorem value?_length_le {cs value rest : List Char} (h : value? cs = some (value, rest)) :
    rest.length ≤ cs.length := by
  unfold value? at h
  split at h
  · exact Nat.le_succ_of_le (quotedValue_length_le h)
  · have := bareValue_length_le cs
    grind

/-- The character ends a keyword. -/
def endsKeyword (c : Char) : Bool := Text.isBlank c || c = '='

/-- The text from the next character on that is not blank. -/
def skipBlank (cs : List Char) : List Char := cs.dropWhile Text.isBlank

theorem skipBlank_length_le (cs : List Char) : (skipBlank cs).length ≤ cs.length :=
  (List.dropWhile_sublist _).length_le

/-- The keywords and values of a text. -/
def pairs (cs : List Char) : Option (List (String × String)) :=
  let start := skipBlank cs
  let keyword := start.takeWhile (!endsKeyword ·)
  if keyword.isEmpty then some []
  else
    match _h : skipBlank (start.dropWhile (!endsKeyword ·)) with
    | '=' :: after =>
      match _hv : value? (skipBlank after) with
      | some (value, rest) =>
        (pairs rest).map ((String.ofList keyword, String.ofList value) :: ·)
      | none => none
    | _ => none
termination_by cs.length
decreasing_by
  have h0 : start.length = (skipBlank cs).length := rfl
  have h1 := skipBlank_length_le cs
  have h2 := skipBlank_length_le (start.dropWhile (!endsKeyword ·))
  have h3 := (List.dropWhile_sublist (l := start) (!endsKeyword ·)).length_le
  have h4 := value?_length_le _hv
  have h5 := skipBlank_length_le after
  rw [_h] at h2
  simp only [List.length_cons] at h2
  omega

/-- The connection that the text asks for. -/
def parse? (cs : List Char) : Option Connection := do
  (← pairs cs).foldlM (fun c (key, value) => c.set? key value) {}

end CatalogShell.Connection.Keywords
