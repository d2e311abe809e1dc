import CatalogShell.Command.Line
import CatalogShell.Proofs.Text.Lines
import Mathlib.Data.List.TakeWhile
import Mathlib.Data.List.Basic

/-!
# Command lines and their parts

`CommandLine.Splits input line`: the text `input` is written from the parts of `line`, the verb
with a plus sign for the verbose form, then the arguments with blanks around them.

* `CommandLine.parse?_eq_some_iff`: parsing gives just the parts that a text is written from, so
  that no text is written from two (`Splits.unique`).
* `CommandLine.parse?_eq_none_iff`: every text that starts with a backslash has parts.
-/

namespace CatalogShell

namespace Text

variable {cs gap args tail : List Char}

theorem dropWhile_isBlank_of_head (h : ∀ c, cs.head? = some c → isBlank c = false) :
    cs.dropWhile isBlank = cs := by
  cases cs with
  | nil => rfl
  | cons c cs => exact List.dropWhile_cons_of_neg (by simp [h c rfl])

/-- Trimming takes the blanks around a text off, and no more. -/
theorem trimChars_append (hgap : ∀ c ∈ gap, isBlank c = true) (htail : ∀ c ∈ tail, isBlank c = true)
    (hhead : ∀ c, args.head? = some c → isBlank c = false)
    (hlast : ∀ c, args.getLast? = some c → isBlank c = false) :
    trimChars (gap ++ args ++ tail) = args := by
  have hreverse : ∀ c ∈ tail.reverse, isBlank c = true := by simpa using htail
  rw [trimChars, dropBlankEnd, List.append_assoc, List.dropWhile_append_of_pos hgap]
  cases args with
  | nil =>
    have hnone : tail.dropWhile isBlank = [] := List.dropWhile_eq_nil_iff.2 htail
    rw [List.nil_append, hnone]
    rfl
  | cons a args =>
    have hfront : (a :: args ++ tail).dropWhile isBlank = a :: args ++ tail :=
      dropWhile_isBlank_of_head (by simpa using hhead)
    have hback : (a :: args).reverse.dropWhile isBlank = (a :: args).reverse :=
      dropWhile_isBlank_of_head (by simpa only [List.head?_reverse] using hlast)
    rw [hfront, List.reverse_append, List.dropWhile_append_of_pos hreverse, hback,
      List.reverse_reverse]

theorem isBlank_of_head?_dropWhile {c : Char} (h : (cs.dropWhile isBlank).head? = some c) :
    isBlank c = false := by
  have hnot := List.head?_dropWhile_not isBlank cs
  rwa [h] at hnot

/-- What trimming takes off is blank, and what is left has no blank at its ends. -/
theorem exists_trimChars (cs : List Char) :
    ∃ gap tail, cs = gap ++ trimChars cs ++ tail ∧ (∀ c ∈ gap, isBlank c = true) ∧
      (∀ c ∈ tail, isBlank c = true) ∧
      (∀ c, (trimChars cs).head? = some c → isBlank c = false) ∧
      ∀ c, (trimChars cs).getLast? = some c → isBlank c = false := by
  obtain ⟨rest, hrest⟩ : ∃ rest, rest = cs.dropWhile isBlank := ⟨_, rfl⟩
  have hcs : cs = cs.takeWhile isBlank ++ rest := by
    rw [hrest, List.takeWhile_append_dropWhile]
  have htrim : trimChars cs = (rest.reverse.dropWhile isBlank).reverse := by
    rw [trimChars, dropBlankEnd, hrest]
  have hsplit : rest = trimChars cs ++ (rest.reverse.takeWhile isBlank).reverse := by
    rw [htrim, ← List.reverse_append, List.takeWhile_append_dropWhile, List.reverse_reverse]
  refine ⟨cs.takeWhile isBlank, (rest.reverse.takeWhile isBlank).reverse, ?_, ?_, ?_, ?_, ?_⟩
  · rw [List.append_assoc, ← hsplit]
    exact hcs
  · exact fun c hc => List.mem_takeWhile_imp hc
  · intro c hc
    exact List.mem_takeWhile_imp (List.mem_reverse.1 hc)
  · intro c hc
    -- The first character that is left is the first one after the blanks in front.
    have hhead : rest.head? = some c := by
      rw [hsplit, List.head?_append, hc]
      rfl
    rw [hrest] at hhead
    exact isBlank_of_head?_dropWhile hhead
  · intro c hc
    rw [htrim, List.getLast?_reverse] at hc
    exact isBlank_of_head?_dropWhile hc

/-- A word without blanks, before a blank or the end, is the leading word. -/
theorem leadingWord_append {word rest : List Char} (hword : ∀ c ∈ word, isBlank c = false)
    (hrest : ∀ c, rest.head? = some c → isBlank c = true) :
    leadingWord (word ++ rest) = word ∧ afterLeadingWord (word ++ rest) = rest := by
  have hpos : ∀ c ∈ word, (!isBlank c) = true := by
    intro c hc
    simp [hword c hc]
  have hstop : ∀ c ∈ rest.head?, (!isBlank c) = false := by
    intro c hc
    simp [hrest c hc]
  exact takeWhile_dropWhile_append hpos hstop

/-- A text that starts with no blank starts with its leading word. -/
theorem head?_leadingWord {c : Char} (h : cs.head? = some c) (hc : isBlank c = false) :
    (leadingWord cs).head? = some c := by
  obtain ⟨rest, rfl⟩ := List.head?_eq_some_iff.1 h
  rw [leadingWord, List.takeWhile_cons_of_pos (by simp [hc])]
  rfl

/-- The leading word ends at a blank. -/
theorem isBlank_of_head?_afterLeadingWord {c : Char}
    (h : (afterLeadingWord cs).head? = some c) : isBlank c = true := by
  have hnot := List.head?_dropWhile_not (!isBlank ·) cs
  rw [afterLeadingWord] at h
  rw [h] at hnot
  simpa using hnot

end Text

namespace CommandLine

open Text (isBlank)

/-- The first word of a line: the verb, with a plus sign for the verbose form. -/
def word (line : CommandLine) : List Char :=
  line.verb.toList ++ if line.verbose then ['+'] else []

/-- A text is written from the parts of a line. Its first word is the verb, which starts with a
backslash and has no blank in it; a plus sign at the end of the word is that of the verbose form,
and only that one. The arguments are the rest without the blanks at its ends. -/
structure Splits (input : String) (line : CommandLine) : Prop where
  backslash : line.verb.toList.head? = some '\\'
  unblank : ∀ c ∈ line.verb.toList, isBlank c = false
  plain : line.verbose = false → line.verb.toList.getLast? ≠ some '+'
  head : ∀ c, line.args.toList.head? = some c → isBlank c = false
  last : ∀ c, line.args.toList.getLast? = some c → isBlank c = false
  written : ∃ gap tail, input.toList = line.word ++ (gap ++ line.args.toList ++ tail) ∧
    (∀ c ∈ gap, isBlank c = true) ∧ (∀ c ∈ tail, isBlank c = true) ∧
    (line.args ≠ "" → gap ≠ [])

theorem dropPlus_word {line : CommandLine}
    (h : line.verbose = false → line.verb.toList.getLast? ≠ some '+') :
    dropPlus line.word = (line.verb.toList, line.verbose) := by
  obtain ⟨verb, args, verbose⟩ := line
  cases verbose with
  | true => simp [word, dropPlus]
  | false => simpa [word, dropPlus] using h rfl

/-- The verb and the form that a word stands for make up the word. -/
theorem dropPlus_append (cs : List Char) :
    (dropPlus cs).1 ++ (if (dropPlus cs).2 then ['+'] else []) = cs ∧
      ((dropPlus cs).2 = false → (dropPlus cs).1.getLast? ≠ some '+') := by
  unfold dropPlus
  by_cases h : cs.getLast? = some '+'
  · rw [if_pos h]
    exact ⟨List.dropLast_append_getLast? '+' h, by simp⟩
  · rw [if_neg h]
    exact ⟨List.append_nil cs, fun _ => h⟩

variable {input : String} {line : CommandLine}

namespace Splits

theorem unblank_word (h : Splits input line) : ∀ c ∈ line.word, isBlank c = false := by
  intro c hc
  rcases List.mem_append.1 hc with hverb | hplus
  · exact h.unblank c hverb
  · have hc : c = '+' := by
      cases hv : line.verbose <;> simp_all
    subst hc
    decide

/-- The first blank of a text is the one after its first word. -/
theorem leadingWord_eq (h : Splits input line) :
    Text.leadingWord input.toList = line.word ∧
      ∃ gap tail, Text.afterLeadingWord input.toList = gap ++ line.args.toList ++ tail ∧
        (∀ c ∈ gap, isBlank c = true) ∧ (∀ c ∈ tail, isBlank c = true) := by
  obtain ⟨gap, tail, hinput, hgap, htail, hargs⟩ := h.written
  have hstop : ∀ c, (gap ++ line.args.toList ++ tail).head? = some c → isBlank c = true := by
    intro c hc
    cases gap with
    | cons g gap =>
      obtain rfl : g = c := by simpa using hc
      exact hgap g List.mem_cons_self
    | nil =>
      have hempty : line.args = "" := by
        by_contra hne
        exact hargs hne rfl
      rw [hempty] at hc
      exact htail c (List.mem_of_mem_head? hc)
  obtain ⟨hleading, hafter⟩ := Text.leadingWord_append h.unblank_word hstop
  rw [hinput]
  exact ⟨hleading, gap, tail, hafter, hgap, htail⟩

theorem head?_input (h : Splits input line) : input.toList.head? = some '\\' := by
  obtain ⟨gap, tail, hinput, -⟩ := h.written
  rw [hinput, word, List.append_assoc, List.head?_append, h.backslash]
  rfl

end Splits

theorem parse?_of_head? (h : input.toList.head? = some '\\') :
    parse? input = some
      ⟨String.ofList (dropPlus (Text.leadingWord input.toList)).1,
        String.ofList (Text.trimChars (Text.afterLeadingWord input.toList)),
        (dropPlus (Text.leadingWord input.toList)).2⟩ := by
  unfold parse?
  cases hcs : input.toList with
  | nil => simp [hcs] at h
  | cons c cs =>
    obtain rfl : c = '\\' := by simpa [hcs] using h
    rfl

theorem parse?_of_splits (h : Splits input line) : parse? input = some line := by
  obtain ⟨hword, gap, tail, hafter, hgap, htail⟩ := h.leadingWord_eq
  rw [parse?_of_head? h.head?_input, hword, dropPlus_word h.plain, hafter,
    Text.trimChars_append hgap htail h.head h.last, String.ofList_toList, String.ofList_toList]

/-- A text that starts with a backslash is written from parts. -/
theorem exists_splits (h : input.toList.head? = some '\\') : ∃ line, Splits input line := by
  obtain ⟨word, hword⟩ : ∃ word, word = Text.leadingWord input.toList := ⟨_, rfl⟩
  obtain ⟨rest, hrest⟩ : ∃ rest, rest = Text.afterLeadingWord input.toList := ⟨_, rfl⟩
  have hinput : word ++ rest = input.toList := by
    rw [hword, hrest, Text.leadingWord_append_afterLeadingWord]
  have hunblank : ∀ c ∈ word, isBlank c = false := by
    intro c hc
    rw [hword] at hc
    simpa using List.mem_takeWhile_imp hc
  have hhead : word.head? = some '\\' := by
    rw [hword]
    exact Text.head?_leadingWord h (by decide)
  obtain ⟨gap, tail, hsplit, hgap, htail, hfirst, hlast⟩ := Text.exists_trimChars rest
  obtain ⟨hjoin, hplain⟩ := dropPlus_append word
  refine ⟨⟨String.ofList (dropPlus word).1, String.ofList (Text.trimChars rest),
    (dropPlus word).2⟩, ?_, ?_, ?_, ?_, ?_, gap, tail, ?_, hgap, htail, ?_⟩
  · rw [String.toList_ofList]
    cases hverb : (dropPlus word).1 with
    | nil =>
      -- The word would be empty, or a plus sign only.
      rw [← hjoin, hverb] at hhead
      cases hplus : (dropPlus word).2 <;> simp [hplus] at hhead
    | cons c cs =>
      rw [← hjoin, hverb] at hhead
      simpa using hhead
  · intro c hc
    refine hunblank c ?_
    rw [← hjoin]
    exact List.mem_append_left _ (by simpa using hc)
  · simpa using hplain
  · simpa using hfirst
  · simpa using hlast
  · rw [← hinput, CommandLine.word, String.toList_ofList, String.toList_ofList, hjoin, ← hsplit]
  · intro hargs hgap
    -- The rest of the text starts with a blank, the arguments do not.
    obtain ⟨c, hc⟩ : ∃ c, (Text.trimChars rest).head? = some c := by
      cases htrim : Text.trimChars rest with
      | nil => simp [htrim] at hargs
      | cons c cs => exact ⟨c, rfl⟩
    have hstart : rest.head? = some c := by
      rw [hsplit, hgap, List.nil_append, List.head?_append, hc]
      rfl
    rw [hrest] at hstart
    have hblank : isBlank c = true := Text.isBlank_of_head?_afterLeadingWord hstart
    rw [hfirst c hc] at hblank
    cases hblank

/-- Parsing gives just the parts that a text is written from. -/
theorem parse?_eq_some_iff : parse? input = some line ↔ Splits input line := by
  constructor
  · intro h
    have hhead : input.toList.head? = some '\\' := by
      unfold parse? at h
      split at h
      · next heq => rw [heq]; rfl
      · cases h
    obtain ⟨line', hline'⟩ := exists_splits hhead
    have heq := parse?_of_splits hline'
    rw [h, Option.some.injEq] at heq
    rwa [heq]
  · exact parse?_of_splits

/-- Only a text that starts with a backslash has parts. -/
theorem parse?_eq_none_iff : parse? input = none ↔ input.toList.head? ≠ some '\\' := by
  constructor
  · intro h hhead
    rw [parse?_of_head? hhead] at h
    cases h
  · intro h
    unfold parse?
    split
    · next heq => rw [heq] at h; exact absurd rfl h
    · rfl

/-- No text is written from two lines. -/
theorem Splits.unique {line' : CommandLine} (h : Splits input line) (h' : Splits input line') :
    line = line' := by
  have heq := parse?_of_splits h
  rw [parse?_of_splits h', Option.some.injEq] at heq
  exact heq.symm

/-- Splitting is exact in both directions: a text is refused just if it does not start with a
backslash, and any other has as its parts those that it is written from, whatever blanks stand
around the arguments. -/
theorem parse?_splits_exactly (input : String) :
    (parse? input = none ↔ input.toList.head? ≠ some '\\') ∧
      ∀ line, parse? input = some line ↔ Splits input line :=
  ⟨parse?_eq_none_iff, fun _ => parse?_eq_some_iff⟩

end CommandLine

end CatalogShell
