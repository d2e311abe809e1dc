import CatalogShell.Describe.Columns
import CatalogShell.Proofs.Pattern.Identifier
import CatalogShell.Proofs.Text.Lines

/-!
# The statement for the state of a sequence

The only statement that text from the catalog becomes part of. `Sql.tokens?` reads the text of a
statement as the server does, as far as identifiers go: a bare identifier goes on as long as its
characters may belong to one and is folded to lower case, a quoted one ends at the first quote that
is not doubled.

* `Sql.readToken?_quoteIdentChars`: an identifier as it is written is read as one token, which
  denotes it, if what follows cannot continue it.
* `Column.sequenceState_names_sequence`: the statement names its sequence and nothing else.
-/

namespace CatalogShell

open Text (isBare isBareStart isBarePart doubleQuotes quoteIdentChars quoteIdent)

namespace Sql

/-! ## Tokens -/

/-- Letters of statements: those of ASCII, and every character beyond it. -/
def isLetter (c : Char) : Bool := c.isAlpha || 128 ≤ c.toNat

/-- A bare identifier may start with the character. -/
def isNameStart (c : Char) : Bool := isLetter c || c = '_'

/-- A bare identifier may go on with the character. -/
def isNamePart (c : Char) : Bool := isNameStart c || c.isDigit

/-- An identifier, told by the name that it denotes, or a character outside identifiers. -/
inductive Token where
  | name (cs : List Char)
  | mark (c : Char)
deriving DecidableEq, Repr

/-- The name between an opening quote, which has been read, and the first quote that is not
doubled, and what follows that quote. -/
def readQuoted? : List Char → Option (List Char × List Char)
  | [] => none
  | '"' :: '"' :: cs => (readQuoted? cs).map (Prod.map ('"' :: ·) id)
  | '"' :: cs => some ([], cs)
  | c :: cs => (readQuoted? cs).map (Prod.map (c :: ·) id)

/-- The first token of a text and what follows it. -/
def readToken? : List Char → Option (Token × List Char)
  | [] => none
  | c :: cs =>
    if c = '"' then (readQuoted? cs).map (Prod.map .name id)
    else if isNameStart c then
      some (.name ((c :: cs.takeWhile isNamePart).map Char.toLower), cs.dropWhile isNamePart)
    else some (.mark c, cs)

variable {c : Char} {cs name rest : List Char} {t : Token}

theorem exists_of_map_prodMap {α β : Type} {read : Option (α × List Char)} {f : α → β} {b : β}
    (h : read.map (Prod.map f id) = some (b, rest)) : ∃ a, read = some (a, rest) := by
  obtain ⟨⟨a, rest'⟩, hread, heq⟩ := Option.map_eq_some_iff.1 h
  obtain ⟨-, rfl⟩ := Prod.mk.inj heq
  exact ⟨a, hread⟩

theorem readQuoted?_length_lt (h : readQuoted? cs = some (name, rest)) :
    rest.length < cs.length := by
  fun_induction readQuoted? cs generalizing name with
  | case1 => cases h
  | case2 cs ih =>
    obtain ⟨name', hread⟩ := exists_of_map_prodMap h
    exact Nat.lt_succ_of_lt (Nat.lt_succ_of_lt (ih hread))
  | case3 cs =>
    cases h
    exact Nat.lt_succ_self _
  | case4 c cs _ _ ih =>
    obtain ⟨name', hread⟩ := exists_of_map_prodMap h
    exact Nat.lt_succ_of_lt (ih hread)

theorem readToken?_length_lt (h : readToken? cs = some (t, rest)) : rest.length < cs.length := by
  cases cs with
  | nil => cases h
  | cons c cs =>
    rw [readToken?] at h
    split at h
    · obtain ⟨name, hread⟩ := exists_of_map_prodMap h
      exact Nat.lt_succ_of_lt (readQuoted?_length_lt hread)
    · split at h
      · cases h
        exact Nat.lt_succ_of_le (List.dropWhile_sublist _).length_le
      · cases h
        exact Nat.lt_succ_self _

/-- The tokens of a text; none if a quoted identifier has no end. -/
def tokens? (cs : List Char) : Option (List Token) :=
  if cs.isEmpty then some []
  else match h : readToken? cs with
    | none => none
    | some (t, rest) =>
      have : rest.length < cs.length := readToken?_length_lt h
      (tokens? rest).map (t :: ·)
termination_by cs.length

theorem tokens?_of_readToken? (h : readToken? cs = some (t, rest)) :
    tokens? cs = (tokens? rest).map (t :: ·) := by
  cases cs with
  | nil => cases h
  | cons c cs =>
    rw [tokens?, if_neg (by simp)]
    split
    · next hnone => rw [h] at hnone; cases hnone
    · next hsome =>
      rw [h] at hsome
      cases hsome
      rfl

/-! ## Written identifiers are read back -/

theorem readQuoted?_closing (hrest : '"' ∉ rest.head?) :
    readQuoted? ('"' :: rest) = some ([], rest) := by
  cases rest with
  | nil => rfl
  | cons d rest =>
    have hd : d ≠ '"' := by simpa using hrest
    simp [readQuoted?, hd]

theorem readQuoted?_char (hc : c ≠ '"') :
    readQuoted? (c :: cs) = (readQuoted? cs).map (Prod.map (c :: ·) id) := by
  simp [readQuoted?, hc]

/-- Doubled quotes do not end a quoted identifier; the quote behind it does. -/
theorem readQuoted?_doubleQuotes (cs : List Char) (hrest : '"' ∉ rest.head?) :
    readQuoted? (doubleQuotes cs ++ '"' :: rest) = some (cs, rest) := by
  induction cs with
  | nil => exact readQuoted?_closing hrest
  | cons c cs ih =>
    rw [doubleQuotes]
    split
    · next hc =>
      rw [hc, List.cons_append, List.cons_append, readQuoted?, ih]
      rfl
    · next hc =>
      rw [List.cons_append, readQuoted?_char hc, ih]
      rfl

theorem isNameStart_of_isLower (h : c.isLower = true) : isNameStart c = true := by
  have halpha : c.isAlpha = true := Bool.or_eq_true_iff.2 (.inr h)
  simp [isNameStart, isLetter, halpha]

theorem isNameStart_of_isBareStart (h : isBareStart c = true) : isNameStart c = true := by
  rw [isBareStart, Bool.or_eq_true] at h
  rcases h with hlower | hunderscore
  · exact isNameStart_of_isLower hlower
  · simp [isNameStart, hunderscore]

theorem isNamePart_of_isBarePart (h : isBarePart c = true) : isNamePart c = true := by
  rw [isBarePart, Bool.or_eq_true, Bool.or_eq_true] at h
  rcases h with (hlower | hdigit) | hunderscore
  · simp [isNamePart, isNameStart_of_isLower hlower]
  · simp [isNamePart, hdigit]
  · simp [isNamePart, isNameStart, hunderscore]

theorem map_toLower_of_isBare (h : isBare cs = true) : cs.map Char.toLower = cs := by
  have hlower : ∀ c ∈ cs, c.toLower = id c := fun c hc =>
    toLower_of_not_isUpper (Text.not_isUpper_of_isBarePart (Text.isBarePart_of_isBare h c hc))
  rw [List.map_congr_left hlower, List.map_id]

/-- A bare identifier is read up to where it cannot go on. It is in lower case already. -/
theorem readToken?_bare (h : isBare cs = true) (hrest : ∀ d ∈ rest.head?, isNamePart d = false) :
    readToken? (cs ++ rest) = some (.name cs, rest) := by
  have hparts := Text.isBarePart_of_isBare h
  have hlower := map_toLower_of_isBare h
  cases cs with
  | nil => cases h
  | cons c cs =>
    have hquote : c ≠ '"' := Text.ne_of_isBarePart (hparts c List.mem_cons_self) (by decide)
    have hstart : isNameStart c = true :=
      isNameStart_of_isBareStart (Bool.and_eq_true_iff.1 h).1
    have hnames : ∀ d ∈ cs, isNamePart d = true := fun d hd =>
      isNamePart_of_isBarePart (hparts d (List.mem_cons_of_mem c hd))
    obtain ⟨htake, hdrop⟩ := Text.takeWhile_dropWhile_append hnames hrest
    rw [List.cons_append, readToken?, if_neg hquote, if_pos hstart, htake, hdrop, hlower]

/-- An identifier as it is written is read as one token, which denotes it. -/
theorem readToken?_quoteIdentChars (cs : List Char) (hquote : '"' ∉ rest.head?)
    (hrest : ∀ d ∈ rest.head?, isNamePart d = false) :
    readToken? (quoteIdentChars cs ++ rest) = some (.name cs, rest) := by
  unfold quoteIdentChars
  split
  · next hbare => exact readToken?_bare hbare hrest
  · rw [List.cons_append, List.append_assoc, List.singleton_append, readToken?, if_pos rfl,
      readQuoted?_doubleQuotes cs hquote]
    rfl

example : readToken? "\"a\"\"b.C\".d".toList = some (.name "a\"b.C".toList, ".d".toList) := by
  decide

/-- Two written identifiers with a dot between them. -/
theorem tokens?_qualified (schema name : List Char) :
    tokens? (quoteIdentChars schema ++ '.' :: quoteIdentChars name) =
      some [.name schema, .mark '.', .name name] := by
  -- The dot can neither continue an identifier nor double a quote, so that the schema ends before it.
  have hschema : readToken? (quoteIdentChars schema ++ '.' :: quoteIdentChars name) =
      some (.name schema, '.' :: quoteIdentChars name) :=
    readToken?_quoteIdentChars schema (by simp) (by simp; decide)
  have hdot : readToken? ('.' :: quoteIdentChars name) = some (.mark '.', quoteIdentChars name) :=
    rfl
  have hname : readToken? (quoteIdentChars name ++ []) = some (.name name, []) :=
    readToken?_quoteIdentChars name (by simp) (by simp)
  rw [List.append_nil] at hname
  have hend : tokens? [] = some [] := by rw [tokens?]; rfl
  rw [tokens?_of_readToken? hschema, tokens?_of_readToken? hdot, tokens?_of_readToken? hname, hend]
  rfl

end Sql

namespace Column

theorem sql_sequenceState (schema name : String) : (sequenceState schema name).sql =
    "SELECT * FROM " ++ (quoteIdent schema ++ "." ++ quoteIdent name) := by
  simp [sequenceState, Query.ofText, Query.sql, Fragment.sql, String.append_assoc]

theorem tokens?_quoteIdent (schema name : String) :
    Sql.tokens? (quoteIdent schema ++ "." ++ quoteIdent name).toList =
      some [.name schema.toList, .mark '.', .name name.toList] := by
  simpa [quoteIdent] using Sql.tokens?_qualified schema.toList name.toList

/-- The text behind `SELECT * FROM` is read as one identifier, one dot and one identifier, which
denote the schema and the name, and as nothing else, whatever the two contain. Two sequences have
the same statement only if they have the same schema and name. -/
theorem sequenceState_names_sequence (schema name : String) :
    (∃ text, (sequenceState schema name).sql = "SELECT * FROM " ++ text ∧
      Sql.tokens? text.toList = some [.name schema.toList, .mark '.', .name name.toList]) ∧
    (sequenceState schema name).params = [] ∧
    ∀ schema' name', (sequenceState schema' name').sql = (sequenceState schema name).sql ↔
      schema' = schema ∧ name' = name := by
  refine ⟨⟨_, sql_sequenceState schema name, tokens?_quoteIdent schema name⟩, rfl, ?_⟩
  intro schema' name'
  constructor
  · intro h
    rw [sql_sequenceState, sql_sequenceState, String.append_right_inj] at h
    have htokens := tokens?_quoteIdent schema' name'
    rw [h, tokens?_quoteIdent schema name] at htokens
    simpa [String.toList_inj, eq_comm] using htokens
  · rintro ⟨rfl, rfl⟩
    rfl

end Column

end CatalogShell
