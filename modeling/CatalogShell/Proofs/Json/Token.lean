import CatalogShell.Json.Reader
import Mathlib.Tactic.SplitIfs

/-!
# Integers and strings are read back

What is written of an integer is read as the same integer, as long as it lies in the range of the
integers (`Json.readNumeral_repr`), and what is written of a string is read as the same string
(`Json.readString_escaped`), whatever its characters are.

An integer has no closing mark, so what follows it must not be part of a number (`Json.Ends`).
-/

namespace CatalogShell.Json

open Text (takeDigits takeDigitsIn natOfDigits hexDigit? digitIn? digit?)

/-! ## Digits -/

/-- What follows is no part of a number. -/
def Ends (rest : List Char) : Prop :=
  ∀ c ∈ rest.head?, digit? c = none ∧ c ≠ '.' ∧ c ≠ 'e' ∧ c ≠ 'E'

theorem ends_nil : Ends [] := by
  intro c hc
  cases hc

/-- The value of a decimal digit. -/
def digitValue (c : Char) : Nat := c.toNat - 48

theorem digit?_of_isDigit {c : Char} (h : c.isDigit = true) : digit? c = some (digitValue c) := by
  have hrange : '0' ≤ c ∧ c ≤ '9' := by simpa [Char.isDigit, Char.le_def] using h
  have hlt : digitValue c < 10 := by
    have : c.toNat ≤ 57 := hrange.2
    simp only [digitValue]
    omega
  rw [digit?, digitIn?, hexDigit?, if_pos hrange]
  simpa [Option.filter, digitValue] using hlt

theorem ne_of_isDigit {c d : Char} (h : c.isDigit = true) (hd : d.isDigit = false) : c ≠ d := by
  rintro rfl
  simp [h] at hd

theorem isSpace_of_isDigit {c : Char} (h : c.isDigit = true) : isSpace c = false := by
  have hne {d : Char} (hd : d.isDigit = false) : c ≠ d := ne_of_isDigit h hd
  simp [isSpace, @hne ' ' rfl, @hne '\t' rfl, @hne '\n' rfl, @hne '\r' rfl]

theorem exists_toDigits (n : Nat) : ∃ d ds, Nat.toDigits 10 n = d :: ds ∧ d.isDigit = true := by
  cases hdigits : Nat.toDigits 10 n with
  | nil => exact absurd hdigits Nat.toDigits_ne_nil
  | cons d ds =>
    refine ⟨d, ds, rfl, ?_⟩
    exact Nat.isDigit_of_mem_toDigits (by decide) (by decide) (hdigits ▸ List.mem_cons_self)

theorem takeDigits_append {ds rest : List Char} (hd : ∀ d ∈ ds, d.isDigit = true)
    (hrest : ∀ c ∈ rest.head?, digit? c = none) :
    takeDigits (ds ++ rest) = (ds.map digitValue, rest) := by
  induction ds with
  | nil =>
    cases rest with
    | nil => rfl
    | cons c rest =>
      have hc : digitIn? 10 c = none := hrest c rfl
      simp [takeDigits, takeDigitsIn, hc]
  | cons d ds ih =>
    rw [List.forall_mem_cons] at hd
    have hdigit : digitIn? 10 d = some (digitValue d) := digit?_of_isDigit hd.1
    have htail : takeDigitsIn 10 (ds ++ rest) = (ds.map digitValue, rest) := ih hd.2
    simp [takeDigits, takeDigitsIn, hdigit, htail]

theorem natOfDigits_digitValue (ds : List Char) :
    natOfDigits 10 (ds.map digitValue) = Nat.ofDigitChars 10 ds 0 := by
  rw [natOfDigits, List.foldl_map, Nat.ofDigitChars_eq_foldl]
  rfl

/-- The digits of a number begin with a zero only if it is zero. -/
theorem head?_toDigits_ne {n : Nat} (h : 0 < n) : (Nat.toDigits 10 n).head? ≠ some '0' := by
  induction n using Nat.strongRecOn with
  | ind n ih =>
    by_cases hn : n < 10
    · have hone : ∀ m < 10, 0 < m → [m.digitChar].head? ≠ some '0' := by decide
      rw [Nat.toDigits_of_lt_base hn]
      exact hone n hn h
    · have hfront := ih (n / 10) (by omega) (by omega)
      rw [Nat.toDigits_of_base_le (by decide) (by omega)]
      cases hdigits : Nat.toDigits 10 (n / 10) with
      | nil => exact absurd hdigits Nat.toDigits_ne_nil
      | cons d ds =>
        rw [hdigits] at hfront
        exact hfront

/-- The digits of a number have no zero in front of others. -/
theorem toDigits_ne_zero_cons (n : Nat) (d : Char) (ds : List Char) :
    Nat.toDigits 10 n ≠ '0' :: d :: ds := by
  intro h
  obtain rfl | hn := Nat.eq_zero_or_pos n
  · simp [Nat.toDigits_zero] at h
  · exact head?_toDigits_ne hn (by rw [h]; rfl)

/-! ## Integers -/

/-- The integers that a number without fraction and exponent can be. -/
def InRange (n : Int) : Prop := -0x8000000000000000 ≤ n ∧ n < 0x10000000000000000

theorem le_foldl_digits (significand : Nat) (ds : List Nat) :
    significand ≤ ds.foldl (fun n d => 10 * n + d) significand := by
  induction ds generalizing significand with
  | nil => exact Nat.le_refl _
  | cons d ds ih =>
    have hrest := ih (10 * significand + d)
    rw [List.foldl_cons]
    omega

/-- A significand takes all digits of a number that fits. -/
theorem absorb_eq (significand : Nat) (ds : List Nat)
    (h : ds.foldl (fun n d => 10 * n + d) significand < 0x10000000000000000) :
    absorb significand ds = (ds.foldl (fun n d => 10 * n + d) significand, []) := by
  induction ds generalizing significand with
  | nil => rfl
  | cons d ds ih =>
    have hle := le_foldl_digits (10 * significand + d) ds
    rw [List.foldl_cons] at h ⊢
    rw [absorb, if_pos (by omega), ih _ h]

/-- The digits of a number, as they are read. -/
def digitValues (n : Nat) : List Nat := (Nat.toDigits 10 n).map digitValue

theorem absorb_digitValues {n : Nat} (h : n < 0x10000000000000000) :
    absorb 0 (digitValues n) = (n, []) := by
  have hvalue : (digitValues n).foldl (fun n d => 10 * n + d) 0 = n :=
    (natOfDigits_digitValue _).trans Nat.ofDigitChars_ten_toDigits
  rw [absorb_eq 0 _ (by rwa [hvalue]), hvalue]

theorem number?_natural {n : Nat} (h : n < 0x10000000000000000) :
    Numeral.number? ⟨false, digitValues n, none, none⟩ = some (.int n) := by
  simp [Numeral.number?, absorb_digitValues h]

theorem number?_negative {n : Nat} (hpos : 0 < n) (h : n ≤ 0x8000000000000000) :
    Numeral.number? ⟨true, digitValues n, none, none⟩ = some (.int (-n)) := by
  simp [Numeral.number?, absorb_digitValues (show n < 0x10000000000000000 by omega), hpos, h]

theorem readFraction_of_ends {rest : List Char} (h : Ends rest) :
    readFraction rest = some (none, rest) := by
  unfold readFraction
  split
  · exact absurd rfl (h '.' rfl).2.1
  · rfl

theorem readExponent_of_ends {rest : List Char} (h : Ends rest) :
    readExponent rest = some (none, rest) := by
  cases rest with
  | nil => rfl
  | cons c rest =>
    obtain ⟨-, -, he, hE⟩ := h c rfl
    simp [readExponent, he, hE]

theorem digitValues_ne_nil (n : Nat) : digitValues n ≠ [] := by
  simp [digitValues, Nat.toDigits_ne_nil]

theorem digitValues_ne_zero_cons (n d : Nat) (ds : List Nat) : digitValues n ≠ 0 :: d :: ds := by
  intro h
  rw [digitValues, List.map_eq_cons_iff] at h
  obtain ⟨c, cs, hdigits, hc, htail⟩ := h
  obtain ⟨c', cs', rfl, -, -⟩ := List.map_eq_cons_iff.1 htail
  have hdigit : c.isDigit = true :=
    Nat.isDigit_of_mem_toDigits (by decide) (by decide) (hdigits ▸ List.mem_cons_self)
  obtain rfl : c = '0' := by
    have hlow : '0' ≤ c := by
      simp only [Char.isDigit, Bool.and_eq_true, decide_eq_true_eq] at hdigit
      exact hdigit.1
    have hcode : c.toNat = 48 := by
      have : 48 ≤ c.toNat := hlow
      simp only [digitValue] at hc
      omega
    rw [← Char.ofNat_toNat c, hcode]
  exact toDigits_ne_zero_cons n c' cs' hdigits

theorem readNumeral_toDigits (negative : Bool) (n : Nat) {rest : List Char} (hrest : Ends rest) :
    readNumeral negative (Nat.toDigits 10 n ++ rest) =
      some (.number (Numeral.number? ⟨negative, digitValues n, none, none⟩), rest) := by
  have htake : takeDigits (Nat.toDigits 10 n ++ rest) = (digitValues n, rest) :=
    takeDigits_append (fun d => Nat.isDigit_of_mem_toDigits (by decide) (by decide))
      fun c hc => (hrest c hc).1
  unfold readNumeral
  simp only [htake]
  split
  · exact absurd ‹_› (digitValues_ne_nil n)
  · exact absurd ‹_› (digitValues_ne_zero_cons n _ _)
  · simp [readFraction_of_ends hrest, readExponent_of_ends hrest]

/-! ## Strings -/

/-- The piece that is read of what is written of a character. -/
def pieceOf (c : Char) : Piece :=
  if 0x20 ≤ c.toNat ∨ c ∈ ['\x08', '\t', '\n', '\x0C', '\r'] then .char c else .unit c.toNat

theorem hexDigit?_hexDigit {n : Nat} (h : n < 16) : hexDigit? (hexDigit n) = some n := by
  revert n
  decide

/-- A character with an escape of one letter is read back. -/
theorem readPieces_letter {letter c : Char} (hu : letter ≠ 'u') (h : escape? letter = some c)
    (cs : List Char) :
    readPieces ('\\' :: letter :: cs) =
      (readPieces cs).map fun (pieces, rest) => (.char c :: pieces, rest) := by
  rw [readPieces]
  · rw [h]
    cases readPieces cs <;> rfl
  · rintro a b d e tail ⟨⟩
    exact absurd rfl hu

/-- A character that is written as it is is read back. -/
theorem readPieces_plain {c : Char} (hquote : c ≠ '"') (hslash : c ≠ '\\') (h : 0x20 ≤ c.toNat)
    (cs : List Char) :
    readPieces (c :: cs) = (readPieces cs).map fun (pieces, rest) => (.char c :: pieces, rest) := by
  rw [readPieces]
  · rw [if_neg (by simp only [hslash, false_or]; omega)]
    cases readPieces cs <;> rfl
  · exact hquote
  · intro _ _ _ _ _ hc
    exact absurd hc hslash
  · intro _ _ hc
    exact absurd hc hslash

/-- A character that is written by its code is read as that code. -/
theorem readPieces_code {n : Nat} (h : n < 0x100) (cs : List Char) :
    readPieces ('\\' :: 'u' :: '0' :: '0' :: hexDigit (n / 16) :: hexDigit (n % 16) :: cs) =
      (readPieces cs).map fun (pieces, rest) => (.unit n :: pieces, rest) := by
  have hzero : hexDigit? '0' = some 0 := by decide
  have hhigh : hexDigit? (hexDigit (n / 16)) = some (n / 16) := hexDigit?_hexDigit (by omega)
  have hlow : hexDigit? (hexDigit (n % 16)) = some (n % 16) := hexDigit?_hexDigit (by omega)
  have hcode : 0 * 0x1000 + 0 * 0x100 + n / 16 * 0x10 + n % 16 = n := by omega
  rw [readPieces, hzero, hhigh, hlow]
  simp only [Option.bind_eq_bind, Option.bind_some, hcode]
  cases readPieces cs <;> rfl

theorem readPieces_escapeChar (c : Char) (cs : List Char) :
    readPieces (escapeChar c ++ cs) =
      (readPieces cs).map fun (pieces, rest) => (pieceOf c :: pieces, rest) := by
  unfold escapeChar
  split_ifs with hquote hslash hplain hb ht hn hf hr
  · subst hquote
    exact readPieces_letter (by decide) rfl cs
  · subst hslash
    exact readPieces_letter (by decide) rfl cs
  · rw [List.singleton_append, readPieces_plain hquote hslash hplain, pieceOf,
      if_pos (.inl hplain)]
  · subst hb
    exact readPieces_letter (by decide) rfl cs
  · subst ht
    exact readPieces_letter (by decide) rfl cs
  · subst hn
    exact readPieces_letter (by decide) rfl cs
  · subst hf
    exact readPieces_letter (by decide) rfl cs
  · subst hr
    exact readPieces_letter (by decide) rfl cs
  · rw [pieceOf, if_neg (by simp [*])]
    exact readPieces_code (by omega) cs

theorem piecesText?_pieceOf (c : Char) (pieces : List Piece) :
    piecesText? (pieceOf c :: pieces) = (piecesText? pieces).map (c :: ·) := by
  unfold pieceOf
  split
  · rw [piecesText?]
  · next hcontrol =>
    simp only [not_or, Nat.not_le] at hcontrol
    have hunit : unitChar? c.toNat = some c := by
      rw [unitChar?, if_neg (by omega), Char.ofNat_toNat]
    have hsingle : ¬ 0xD800 ≤ c.toNat := by omega
    rcases pieces with _ | ⟨_ | _, _⟩ <;> simp [piecesText?, hunit, hsingle]

theorem readPieces_flatMap_escapeChar (cs rest : List Char) :
    readPieces (cs.flatMap escapeChar ++ '"' :: rest) = some (cs.map pieceOf, rest) := by
  induction cs with
  | nil => rfl
  | cons c cs ih =>
    rw [List.flatMap_cons, List.append_assoc, readPieces_escapeChar, ih]
    rfl

theorem piecesText?_map_pieceOf (cs : List Char) : piecesText? (cs.map pieceOf) = some cs := by
  induction cs with
  | nil => rfl
  | cons c cs ih => rw [List.map_cons, piecesText?_pieceOf, ih, Option.map_some]

theorem readString_escaped (s : String) (rest : List Char) :
    readString (s.toList.flatMap escapeChar ++ '"' :: rest) = some (some s, rest) := by
  simp [readString, readPieces_flatMap_escapeChar, piecesText?_map_pieceOf]

end CatalogShell.Json
