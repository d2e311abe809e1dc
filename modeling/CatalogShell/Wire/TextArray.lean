import CatalogShell.Wire.Integer

/-!
# Arrays on the wire

An array of text: the number of dimensions, a flag, the type of the items, then the length and
the lower bound of each dimension, and at last the items, each after its length. A negative
length stands for a NULL item.
-/

namespace CatalogShell.Wire

/-- An item after its length. -/
def encodeItem (item : String) : Bytes :=
  let bytes := Text.Utf8.encode item
  encodeInt 4 bytes.length ++ bytes

/-- An array of one dimension, counted from one. -/
def encodeArray (itemType : Nat) (items : List String) : Bytes :=
  encodeInt 4 1 ++ encodeInt 4 0 ++ encodeNat 4 itemType ++ encodeInt 4 items.length ++
    encodeInt 4 1 ++ items.flatMap encodeItem

/-- The bytes of an item, `none` for NULL, and the bytes after it. -/
def readItem? (bs : Bytes) : Option (Option Bytes × Bytes) := do
  let (length, rest) ← readInt? 4 bs
  if length < 0 then return (none, rest)
  else if rest.length < length.toNat then none
  else return (some (rest.take length.toNat), rest.drop length.toNat)

theorem readItem?_length_lt {bs : Bytes} {item : Option Bytes} {rest : Bytes}
    (h : readItem? bs = some (item, rest)) : rest.length < bs.length := by
  simp only [readItem?, readInt?] at h
  split at h
  · simp at h
  · simp only [Option.bind_eq_bind, Option.bind_some, Option.pure_def] at h
    split at h
    · simp only [Option.some.injEq, Prod.mk.injEq] at h
      rw [← h.2, List.length_drop]
      omega
    · split at h
      · simp at h
      · simp only [Option.some.injEq, Prod.mk.injEq] at h
        rw [← h.2, List.length_drop, List.length_drop]
        omega

/-- All items of the rest of an array, up to its end. -/
def readItems? (bs : Bytes) : Option (List (Option Bytes)) :=
  if bs.isEmpty then some []
  else
    match _h : readItem? bs with
    | none => none
    | some (item, rest) => (readItems? rest).map (item :: ·)
termination_by bs.length
decreasing_by exact readItem?_length_lt _h

/-- The number of items that the header announces, at most one dimension of them, and the bytes
after the header. -/
def readHeader? (bs : Bytes) : Option (Nat × Bytes) := do
  let (dimensions, bs) ← readInt? 4 bs
  let (_, bs) ← readInt? 4 bs
  let (_, bs) ← readInt? 4 bs
  if dimensions = 0 then return (0, bs)
  else if dimensions ≠ 1 then none
  else
    let (length, bs) ← readInt? 4 bs
    let (_, bs) ← readInt? 4 bs
    if length < 0 then none else return (length.toNat, bs)

/-- The items of an array of text, `none` for NULL. -/
def decodeArray? (bs : Bytes) : Option (List (Option String)) := do
  let (count, bs) ← readHeader? bs
  let items ← readItems? bs
  if items.length ≠ count then none
  else items.mapM fun item =>
    match item with
    | none => some none
    | some bytes => (Text.Utf8.decode? bytes).map some

end CatalogShell.Wire
