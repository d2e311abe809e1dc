import CatalogShell.Text.Utf8

/-!
# Text from its bytes

The bytes of a text are read back character by character (`Utf8.units_encode`), so that nothing in
them has to be replaced (`Utf8.decodeLossy_encode`).

A character is read back at its lead byte. How many bytes follow is told by the lead byte alone
(`lead?_two`, `lead?_three`, `lead?_four`), and the bounds for the first of them only exclude what
no character is written as.
-/

namespace CatalogShell.Text.Utf8

/-- The bits of a byte that follows another. -/
theorem follow_cons {bits low high following n : Nat} {bs : Bytes} (hn : n < 0x40)
    (hlow : low ≤ n + 0x80) (hhigh : n + 0x80 ≤ high) :
    follow bits low high (following + 1) (UInt8.ofNat (n + 0x80) :: bs) =
      follow (0x40 * bits + n) 0x80 0xBF following bs := by
  have hbyte : (UInt8.ofNat (n + 0x80)).toNat = n + 0x80 := by
    rw [UInt8.toNat_ofNat']
    omega
  rw [follow, hbyte, if_pos ⟨hlow, hhigh⟩, Nat.add_sub_cancel]

/-- The first byte of two. -/
theorem lead?_two {n : Nat} (hlow : 2 ≤ n) (hhigh : n < 0x20) :
    lead? (UInt8.ofNat (n + 0xC0)) = some { bits := n, following := 1 } := by
  have hbyte : (UInt8.ofNat (n + 0xC0)).toNat = n + 0xC0 := by
    rw [UInt8.toNat_ofNat']
    omega
  simp only [lead?, hbyte]
  rw [if_neg (by omega), if_neg (by omega), if_pos (by omega), Nat.add_sub_cancel]

/-- The first byte of three. The second one says the rest of the bits, and may not say too few for
three bytes or half of a surrogate pair. -/
theorem lead?_three {n : Nat} (hn : n < 0x10) :
    ∃ low high, lead? (UInt8.ofNat (n + 0xE0)) = some ⟨n, 2, low, high⟩ ∧
      ∀ next, next < 0x40 → 0x20 ≤ 0x40 * n + next →
        0x40 * n + next < 0x360 ∨ 0x380 ≤ 0x40 * n + next →
        low ≤ next + 0x80 ∧ next + 0x80 ≤ high := by
  have hbyte : (UInt8.ofNat (n + 0xE0)).toNat = n + 0xE0 := by
    rw [UInt8.toNat_ofNat']
    omega
  simp only [lead?, hbyte]
  rw [if_neg (by omega), if_neg (by omega), if_neg (by omega)]
  by_cases hfirst : n = 0
  · rw [if_pos (by omega)]
    subst hfirst
    exact ⟨_, _, rfl, fun next _ _ _ => by omega⟩
  · rw [if_neg (by omega)]
    by_cases hpair : n = 0xD
    · rw [if_pos (by omega)]
      subst hpair
      exact ⟨_, _, rfl, fun next _ _ _ => by omega⟩
    · rw [if_neg (by omega), if_pos (by omega), Nat.add_sub_cancel]
      exact ⟨_, _, rfl, fun next _ _ _ => by omega⟩

/-- The first byte of four. The second one may not say too few bits, nor a number beyond the last
character. -/
theorem lead?_four {n : Nat} (hn : n ≤ 4) :
    ∃ low high, lead? (UInt8.ofNat (n + 0xF0)) = some ⟨n, 3, low, high⟩ ∧
      ∀ next, next < 0x40 → 0x10 ≤ 0x40 * n + next → 0x40 * n + next < 0x110 →
        low ≤ next + 0x80 ∧ next + 0x80 ≤ high := by
  have hbyte : (UInt8.ofNat (n + 0xF0)).toNat = n + 0xF0 := by
    rw [UInt8.toNat_ofNat']
    omega
  simp only [lead?, hbyte]
  rw [if_neg (by omega), if_neg (by omega), if_neg (by omega), if_neg (by omega),
    if_neg (by omega), if_neg (by omega)]
  by_cases hfirst : n = 0
  · rw [if_pos (by omega)]
    subst hfirst
    exact ⟨_, _, rfl, fun next _ _ _ => by omega⟩
  · rw [if_neg (by omega)]
    by_cases hlast : n = 4
    · rw [if_neg (by omega), if_pos (by omega)]
      subst hlast
      exact ⟨_, _, rfl, fun next _ _ _ => by omega⟩
    · rw [if_pos (by omega), Nat.add_sub_cancel]
      exact ⟨_, _, rfl, fun next _ _ _ => by omega⟩

/-- The number of a character is none of a surrogate, and not too large. -/
theorem toNat_char (c : Char) : c.toNat < 0xD800 ∨ 0xDFFF < c.toNat ∧ c.toNat < 0x110000 :=
  c.valid

/-- A character is read back from its bytes, whatever follows them. -/
theorem units_char (c : Char) (bs : Bytes) :
    units (String.utf8EncodeChar c ++ bs) = some c :: units bs := by
  suffices h : ∃ b rest, String.utf8EncodeChar c = b :: rest ∧ unit b (rest ++ bs) = (some c, bs) by
    obtain ⟨b, rest, hbytes, hunit⟩ := h
    rw [hbytes, List.cons_append, units, hunit]
  obtain ⟨n, hn⟩ : ∃ n, n = c.toNat := ⟨_, rfl⟩
  have hchar : Char.ofNat n = c := by rw [hn, Char.ofNat_toNat]
  have hrange : n < 0xD800 ∨ 0xDFFF < n ∧ n < 0x110000 := hn ▸ toNat_char c
  have hval : c.val.toNat = n := hn.symm
  simp only [String.utf8EncodeChar, hval]
  split
  · next hone =>
    refine ⟨_, [], rfl, ?_⟩
    have hbyte : (UInt8.ofNat n).toNat = n := by
      rw [UInt8.toNat_ofNat']
      omega
    simp only [unit, lead?, hbyte, if_pos (show n < 0x80 by omega)]
    rw [follow, Option.map_some, hchar, List.nil_append]
  · next hone =>
    split
    · next htwo =>
      have hlead : n / 64 % 32 = n / 64 := Nat.mod_eq_of_lt (by omega)
      refine ⟨_, _, rfl, ?_⟩
      rw [unit, hlead, lead?_two (by omega) (by omega)]
      dsimp only [List.cons_append, List.nil_append]
      rw [follow_cons (by omega) (by omega) (by omega), follow, Nat.div_add_mod, Option.map_some,
        hchar]
    · next htwo =>
      split
      · next hthree =>
        obtain ⟨low, high, hlead, hbounds⟩ := lead?_three (n := n / 4096 % 16) (by omega)
        obtain ⟨hlow, hhigh⟩ := hbounds (n / 64 % 64) (by omega) (by omega) (by omega)
        refine ⟨_, _, rfl, ?_⟩
        rw [unit, hlead]
        dsimp only [List.cons_append, List.nil_append]
        rw [follow_cons (by omega) hlow hhigh, follow_cons (by omega) (by omega) (by omega), follow,
          Option.map_some, show 0x40 * (0x40 * (n / 4096 % 16) + n / 64 % 64) + n % 64 = n by omega,
          hchar]
      · next hthree =>
        obtain ⟨low, high, hlead, hbounds⟩ := lead?_four (n := n / 262144 % 8) (by omega)
        obtain ⟨hlow, hhigh⟩ := hbounds (n / 4096 % 64) (by omega) (by omega) (by omega)
        refine ⟨_, _, rfl, ?_⟩
        rw [unit, hlead]
        dsimp only [List.cons_append, List.nil_append]
        rw [follow_cons (by omega) hlow hhigh, follow_cons (by omega) (by omega) (by omega),
          follow_cons (by omega) (by omega) (by omega), follow, Option.map_some,
          show 0x40 * (0x40 * (0x40 * (n / 262144 % 8) + n / 4096 % 64) + n / 64 % 64) + n % 64 = n
            by omega,
          hchar]

theorem units_encode (s : String) : units (encode s) = s.toList.map some := by
  unfold encode
  induction s.toList with
  | nil => simp [units]
  | cons c cs ih => rw [List.flatMap_cons, units_char, ih, List.map_cons]

/-- Nothing is replaced in the bytes of a text. -/
@[simp] theorem decodeLossy_encode (s : String) : decodeLossy (encode s) = s := by
  simp [decodeLossy, units_encode, Function.comp_def]

end CatalogShell.Text.Utf8
