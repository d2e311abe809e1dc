import CatalogShell.Pattern.Matcher
import CatalogShell.Proofs.Regex.Enclosed

/-!
# Which filters have to match a whole name

The filter of a body is written `^(body)$`, so that it is meant to match whole names. It does where
the body is an expression of its own. But the body is only put between the anchors as a text: one
that closes the group around it, and opens another for the parenthesis that is left, takes the
anchors apart (`Pattern.matcher_accepts_part`).

`Pattern.matcher_anchored`: this is the only way in which a filter that can be read fails to match
whole names.
-/

namespace CatalogShell

/-- The expression matches a text from its first to its last character. -/
def Regex.MatchesAll (r : Regex) (s : String) : Prop :=
  Matches s.toList.toArray r 0 s.toList.length

section

variable [Regex.Properties]

/-- What the filter of a body accepts. -/
inductive FilterMatches (body : List Char) : Option Regex → Prop where
  /-- There is no filter, and everything is accepted. -/
  | any (empty : body = []) : FilterMatches body none
  /-- The body is an expression that is matched with whole texts. -/
  | whole {filter b : Regex} (nonempty : body ≠ []) (reads : Regex.readChars body = some b)
      (accepts : ∀ s, filter.isMatch s = true ↔ b.MatchesAll s)
      (closed : ¬ Regex.ClosesOutside {} [] body) : FilterMatches body (some filter)
  /-- The body is no expression: it closes the group that is put around it. -/
  | split {filter : Regex} (nonempty : body ≠ []) (fails : Regex.readChars body = none)
      (closes : Regex.ClosesOutside {} [] body) : FilterMatches body (some filter)

theorem filterMatches_of_ok {body : List Char} {filter : Option Regex}
    (h : filterRegex? (Pattern.filterOf body) = .ok filter) : FilterMatches body filter := by
  cases body with
  | nil =>
    cases h
    exact .any rfl
  | cons c cs =>
    have hread : (filterRegex (String.ofList (Regex.enclosed (c :: cs)))).map some = .ok filter := h
    rw [filterRegex, Regex.read, String.toList_ofList] at hread
    cases hr : Regex.readChars (Regex.enclosed (c :: cs)) with
    | none =>
      rw [hr] at hread
      cases hread
    | some r =>
      rw [hr] at hread
      cases hread
      rcases Regex.readChars_enclosed hr with ⟨b, hb, rfl, hclosed⟩ | ⟨hnone, hcloses⟩
      · exact .whole (by simp) hb (Regex.isMatch_anchored b) hclosed
      · exact .split (by simp) hnone hcloses

/-- A filter that is not split accepts what its body matches as a whole. -/
theorem FilterMatches.all_isMatch {body : List Char} {filter : Option Regex}
    (h : FilterMatches body filter) (hclosed : ¬ Regex.ClosesOutside {} [] body) (s : String) :
    filter.all (·.isMatch s) = true ↔
      body = [] ∨ ∃ b, Regex.readChars body = some b ∧ b.MatchesAll s := by
  cases h with
  | any empty => exact iff_of_true rfl (.inl empty)
  | @whole filter b nonempty reads accepts _ =>
    rw [Option.all_some, accepts]
    constructor
    · intro hall
      exact .inr ⟨b, reads, hall⟩
    · rintro (hnil | ⟨b', hb', hall⟩)
      · exact absurd hnil nonempty
      · rw [reads] at hb'
        cases hb'
        exact hall
  | split nonempty fails closes => exact absurd closes hclosed

namespace Pattern

theorem filterRegex?_of_matcher {p : Pattern} {m : Matcher} (h : p.matcher = .ok m) :
    filterRegex? (filterOf p.schemaBody) = .ok m.schema ∧
      filterRegex? (filterOf p.nameBody) = .ok m.name := by
  unfold matcher at h
  cases hschema : filterRegex? p.schemaFilter? with
  | error e =>
    rw [hschema] at h
    cases h
  | ok schema =>
    cases hname : filterRegex? p.nameFilter? with
    | error e =>
      rw [hschema, hname] at h
      cases h
    | ok name =>
      rw [hschema, hname] at h
      cases h
      exact ⟨hschema, hname⟩

/-- Where the filters of a pattern can be read, each of them accepts just the names that its body
matches from the first to the last character, unless the body closes the group that is put around
it. A body that does so is no expression of its own; every other one is. -/
theorem matcher_anchored (text : String) (m : Matcher) (h : (compile text).matcher = .ok m) :
    let p := compile text
    FilterMatches p.schemaBody m.schema ∧ FilterMatches p.nameBody m.name ∧
    (¬ Regex.ClosesOutside {} [] p.schemaBody → ¬ Regex.ClosesOutside {} [] p.nameBody →
      ∀ schema name, m.accepts schema name = true ↔
        (p.schemaBody = [] ∨ ∃ b, Regex.readChars p.schemaBody = some b ∧ b.MatchesAll schema) ∧
        (p.nameBody = [] ∨ ∃ b, Regex.readChars p.nameBody = some b ∧ b.MatchesAll name)) := by
  intro p
  obtain ⟨hschema, hname⟩ := filterRegex?_of_matcher h
  have hs : FilterMatches p.schemaBody m.schema := filterMatches_of_ok hschema
  have hn : FilterMatches p.nameBody m.name := filterMatches_of_ok hname
  refine ⟨hs, hn, ?_⟩
  intro hsclosed hnclosed schema name
  rw [Matcher.accepts, Bool.and_eq_true, hs.all_isMatch hsclosed, hn.all_isMatch hnclosed]

end Pattern

end

namespace Pattern

theorem matcher_anchored_alternatives :
    ∃ m b, (compile "ab|cd").matcher = .ok m ∧ Regex.readChars (compile "ab|cd").nameBody = some b ∧
      (∀ schema name, m.accepts schema name = true ↔ b.MatchesAll name) ∧
      m.accepts "public" "cd" = true ∧ m.accepts "public" "abx" = false := by
  refine ⟨_, _, rfl, rfl, ?_, rfl, rfl⟩
  have haccepts := (matcher_anchored "ab|cd" _ rfl).2.2
  have hschemaClosed : ¬ Regex.ClosesOutside {} [] (compile "ab|cd").schemaBody := by
    intro hcloses
    cases hcloses.readSteps 0
  have hnameClosed : ¬ Regex.ClosesOutside {} [] (compile "ab|cd").nameBody := by
    intro hcloses
    cases hcloses.readSteps 5
  intro schema name
  rw [haccepts hschemaClosed hnameClosed]
  constructor
  · rintro ⟨-, hnil | ⟨b, hb, hall⟩⟩
    · cases hnil
    · cases hb
      exact hall
  · intro hall
    exact ⟨.inl rfl, .inr ⟨_, rfl, hall⟩⟩

/-- A body that closes the group around it: the anchors belong to one alternative each, and a name
is accepted that only starts with `a`. -/
theorem matcher_accepts_part :
    (compile "a)|(b").nameFilter? = some "^(a)|(b)$" ∧
      Regex.readChars (compile "a)|(b").nameBody = none ∧
      ∃ m, (compile "a)|(b").matcher = .ok m ∧ m.accepts "public" "axyz" = true :=
  ⟨rfl, rfl, _, rfl, rfl⟩

end Pattern

end CatalogShell
