import CatalogShell.Proofs.Value.Expected

/-!
# What a cell holds, and what its getters give

`Value.Stores` says which integer a value stores, in any of the three representations.

* The readings give the integer that is stored (`Value.int?_eq_some_iff`,
  `Value.oid?_eq_some_iff`). Words of fixed width would do (`Value.map_toInt_int64?`,
  `Value.uint32?_eq_oid?`): to extend a word to 64 bits changes no integer, and neither does it to
  leave out the upper half of a word whose integer lies below `2 ^ 32` and is not negative.
* `Row.Reads` says what a getter gives for a cell, and `Row.Pairs` does so for a getter and its
  nullable form. A getter is one of these as soon as its reading of a value is described
  (`Row.reads_required`, `Row.pairs_nullable`).
* `Row.getters_agree`: all getters of one cell.
-/

namespace CatalogShell

/-! ## Stored integers -/

namespace Value

/-- The value stores the integer: with a sign in 32 or 64 bits, or without one in the 32 bits of an
object identifier. -/
inductive Stores : Value → Int → Prop where
  | integer (w : Int32) : Stores (.integer w) w.toInt
  | bigInt (w : Int64) : Stores (.bigInt w) w.toInt
  | oid (w : Oid) : Stores (.oid w) w.toNat

variable {v : Value} {n : Int} {o : Oid}

theorem int?_eq_some_iff : v.int? = some n ↔ v.Stores n := by
  constructor
  · intro h
    cases v with
    | integer w =>
      cases h
      exact .integer w
    | bigInt w =>
      cases h
      exact .bigInt w
    | oid w =>
      cases h
      exact .oid w
    | _ => cases h
  · intro h
    cases h with
    | integer | bigInt | oid => rfl

theorem oid?_eq_some_iff : v.oid? = some o ↔ v.Stores o.toNat := by
  rw [← int?_eq_some_iff, oid?, Option.bind_eq_some_iff]
  constructor
  · rintro ⟨n, hn, ho⟩
    split at ho
    · next hbounds =>
      cases ho
      have hword : (UInt32.ofNat n.toNat).toNat = n.toNat :=
        UInt32.toNat_ofNat_of_lt' (by rw [UInt32.size]; omega)
      rw [hn, hword, Int.toNat_of_nonneg hbounds.1]
    · cases ho
  · intro h
    have hhigh := o.toNat_lt
    refine ⟨o.toNat, h, ?_⟩
    rw [if_pos ⟨by omega, by omega⟩, Int.toNat_natCast, UInt32.ofNat_toNat]

/-! ### In words of fixed width -/

/-- The integer in a word of 64 bits. A word of 32 bits is extended by its sign, an object
identifier by zeros. -/
def int64? : Value → Option Int64
  | .integer w => some w.toInt64
  | .bigInt w => some w
  | .oid w => some w.toUInt64.toInt64
  | _ => none

/-- The integer in the word of an object identifier, if it is in range. Of 64 bits, the lower ones
are left. -/
def uint32? : Value → Option Oid
  | .integer w => if w < 0 then none else some w.toUInt32
  | .bigInt w => if w < 0 ∨ 0xFFFFFFFF < w then none else some w.toUInt64.toUInt32
  | .oid w => some w
  | _ => none

/-- With 32 zeros before it, a word is no negative one. -/
theorem toInt_zeroExtended (w : Oid) : w.toUInt64.toInt64.toInt = w.toNat := by
  have hnat : w.toUInt64.toBitVec.toNat = w.toNat := by
    rw [UInt64.toNat_toBitVec, UInt32.toNat_toUInt64]
  have hhigh := w.toNat_lt
  rw [Int64.toInt, UInt64.toBitVec_toInt64, BitVec.toInt_eq_toNat_of_lt (by omega), hnat]

theorem toNat_unsigned {w : Int32} (h : ¬ w < 0) : (w.toUInt32.toNat : Int) = w.toInt := by
  rw [Int32.not_lt] at h
  rw [Int32.toNat_toUInt32_of_le h]
  exact Int.toNat_of_nonneg (Int32.le_iff_toInt_le.1 h)

/-- Nothing but zeros stands in the upper half. -/
theorem toNat_lowerHalf {w : Int64} (h : ¬ (w < 0 ∨ 0xFFFFFFFF < w)) :
    (w.toUInt64.toUInt32.toNat : Int) = w.toInt := by
  rw [not_or, Int64.not_lt, Int64.not_lt] at h
  have hlow : 0 ≤ w.toInt := Int64.le_iff_toInt_le.1 h.1
  have hhigh : w.toInt ≤ 0xFFFFFFFF := Int64.le_iff_toInt_le.1 h.2
  have hword : w.toUInt64.toNat = w.toInt.toNat := Int64.toNat_toUInt64_of_le h.1
  rw [UInt64.toNat_toUInt32, hword]
  omega

/-- To extend a word changes no integer. -/
theorem map_toInt_int64? (v : Value) : v.int64?.map Int64.toInt = v.int? := by
  cases v with
  | integer w => exact congrArg some w.toInt_toInt64
  | oid w => exact congrArg some (toInt_zeroExtended w)
  | _ => rfl

/-- To leave out the upper half of a word changes no integer that is in range. -/
theorem uint32?_eq_oid? (v : Value) : v.uint32? = v.oid? := by
  symm
  -- Out of range, `oid?` gives nothing; in range, the word that is left has the same integer.
  cases v with
  | integer w =>
    rw [uint32?]
    split
    · next h =>
      have hneg : w.toInt < 0 := Int32.lt_iff_toInt_lt.1 h
      refine oid?_eq_none.2 fun n hn hle => ?_
      cases hn
      omega
    · next h => exact oid?_eq_some_iff.2 (toNat_unsigned h ▸ .integer w)
  | bigInt w =>
    rw [uint32?]
    split
    · next h =>
      have hout : w.toInt < 0 ∨ 0xFFFFFFFF < w.toInt :=
        h.imp Int64.lt_iff_toInt_lt.1 Int64.lt_iff_toInt_lt.1
      refine oid?_eq_none.2 fun n hn hle => ?_
      cases hn
      omega
    · next h => exact oid?_eq_some_iff.2 (toNat_lowerHalf h ▸ .bigInt w)
  | oid w => exact oid?_eq_some_iff.2 (.oid w)
  | _ => rfl

end Value

/-! ## Getters -/

namespace Row

section Reading

variable {α : Type} (r : Row) (label : String) (column : Nat) (expected : String)
  (Holds : Value → α → Prop)

/-- The row has a cell in the column that holds the content. -/
def Has (a : α) : Prop := ∃ v, r.get? column = some v ∧ Holds v a

/-- The getter gives the content that the cell holds, and every failure of it names the query, the
column and the kind of content that is expected there. -/
structure Reads (x : Except Failure α) : Prop where
  eq_ok_iff : ∀ a, x = .ok a ↔ r.Has column Holds a
  eq_badCell : ∀ e, x = .error e → e = .badCell label column expected

/-- The getter `x` and its nullable form `y` give the same contents, and `y` gives `none` besides,
for NULL alone. Every failure of either names the cell. -/
structure Pairs (x : Except Failure α) (y : Except Failure (Option α)) : Prop
    extends r.Reads label column expected Holds x where
  eq_ok_iff_some : ∀ a, x = .ok a ↔ y = .ok (some a)
  none_iff_null : y = .ok none ↔ r.get? column = some .null
  nullable_eq_badCell : ∀ e, y = .error e → e = .badCell label column expected

variable {r label column expected Holds} {read : Value → Option α}
  (hread : ∀ {v a}, read v = some a ↔ Holds v a) (hnull : read .null = none)

include hread hnull

theorem reads_required :
    r.Reads label column expected Holds (r.required label column expected read) where
  eq_ok_iff a := by
    rw [required_eq_ok_iff_bind hnull, Option.bind_eq_some_iff]
    exact exists_congr fun v => and_congr_right fun _ => hread
  eq_badCell _ he := (required_eq_error.1 he).1.symm

theorem pairs_nullable : r.Pairs label column expected Holds
    (r.required label column expected read) (r.nullable label column expected read) where
  toReads := reads_required hread hnull
  eq_ok_iff_some _ := required_eq_ok_iff_some
  none_iff_null := nullable_eq_none
  nullable_eq_badCell _ he := (nullable_eq_error.1 he).1.symm

end Reading

variable {r : Row} {label : String} {column : Nat}

/-- An object identifier is an integer that lies in its range. -/
theorem oid_eq_ok_iff_int {o : Oid} :
    r.oid label column = .ok o ↔ r.int label column = .ok o.toNat := by
  rw [oid_eq_ok, int_eq_ok, Option.bind_eq_some_iff, Option.bind_eq_some_iff]
  simp only [Value.oid?_eq_some_iff, Value.int?_eq_some_iff]

theorem int_eq_ok_iff_int64? {n : Int} : r.int label column = .ok n ↔
    ∃ w, (r.get? column).bind Value.int64? = some w ∧ w.toInt = n := by
  have hwide : (r.get? column).bind Value.int? =
      ((r.get? column).bind Value.int64?).map Int64.toInt := by
    rw [Option.map_bind]
    exact congrArg _ (funext fun v => v.map_toInt_int64?.symm)
  rw [int_eq_ok, hwide, Option.map_eq_some_iff]

theorem oid_eq_ok_iff_uint32? {o : Oid} :
    r.oid label column = .ok o ↔ (r.get? column).bind Value.uint32? = some o := by
  rw [oid_eq_ok, funext Value.uint32?_eq_oid?]

/-- The getters of one cell agree. `text`, `bool` and `int` give what the cell holds; their nullable
forms give the same, and `none` for NULL alone. `oid` gives an integer if and only if `int` gives
the same one and it lies in the range of identifiers. The integer is the one that the cell stores,
and words of fixed width would give it too. Every failure names the query and the column. -/
theorem getters_agree (r : Row) (label : String) (column : Nat) :
    r.Pairs label column "text" (fun v s => v = .text s) (r.text label column)
      (r.text? label column) ∧
    r.Pairs label column "boolean" (fun v b => v = .boolean b) (r.bool label column)
      (r.bool? label column) ∧
    r.Pairs label column "integer" Value.Stores (r.int label column) (r.int? label column) ∧
    r.Reads label column "oid" (fun v o => v.Stores o.toNat) (r.oid label column) ∧
    (∀ o, r.oid label column = .ok o ↔
      ∃ n, r.int label column = .ok n ∧ n = o.toNat ∧ 0 ≤ n ∧ n ≤ 4294967295) ∧
    (∀ n, r.int label column = .ok n ↔
      ∃ w, (r.get? column).bind Value.int64? = some w ∧ w.toInt = n) ∧
    ∀ o, r.oid label column = .ok o ↔ (r.get? column).bind Value.uint32? = some o := by
  refine ⟨pairs_nullable Value.text?_eq_some_iff rfl, pairs_nullable Value.bool?_eq_some_iff rfl,
    pairs_nullable Value.int?_eq_some_iff rfl, reads_required Value.oid?_eq_some_iff rfl,
    fun o => ?_, fun n => int_eq_ok_iff_int64?, fun o => oid_eq_ok_iff_uint32?⟩
  rw [oid_eq_ok_iff_int]
  constructor
  · intro h
    have hhigh := o.toNat_lt
    exact ⟨o.toNat, h, rfl, by omega, by omega⟩
  · rintro ⟨n, h, rfl, -, -⟩
    exact h

/-- The limits of the three representations. -/
example :
    let r : Row := ⟨[.integer (-0x80000000), .bigInt (-0x8000000000000000),
      .bigInt 0x7FFFFFFFFFFFFFFF, .oid 0xFFFFFFFF, .bigInt 0xFFFFFFFF, .bigInt 0x100000000]⟩
    (List.range 6).mapM (r.int "q") = .ok [-0x80000000, -0x8000000000000000, 0x7FFFFFFFFFFFFFFF,
      0xFFFFFFFF, 0xFFFFFFFF, 0x100000000] ∧
    [3, 4].mapM (r.oid "q") = .ok [0xFFFFFFFF, 0xFFFFFFFF] ∧
    r.oid "q" 0 = .error (.badCell "q" 0 "oid") ∧
    r.oid "q" 5 = .error (.badCell "q" 5 "oid") := by
  decide

end Row

end CatalogShell
