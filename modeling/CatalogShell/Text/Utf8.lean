/-!
# UTF-8

Bytes as text. Where bytes are no UTF-8, each longest run of bytes that could have begun a
character counts as one unit without a character, and so does each byte that could not.

* `Utf8.decode?`: the text of bytes that are valid throughout.
* `Utf8.decodeLossy`: the text with U+FFFD for each unit without a character.
-/

namespace CatalogShell

abbrev Bytes := List UInt8

namespace Text.Utf8

/-- The bytes of a text. -/
def encode (s : String) : Bytes := s.toList.flatMap String.utf8EncodeChar

/-- What a byte says that begins a character: its share of the character's number, how many
bytes follow, and between which bounds the first of them lies. -/
structure Lead where
  bits : Nat
  following : Nat
  low : Nat := 0x80
  high : Nat := 0xBF

/-- The meaning of a byte that begins a character. -/
def lead? (b : UInt8) : Option Lead :=
  let n := b.toNat
  if n < 0x80 then some { bits := n, following := 0 }
  else if n < 0xC2 then none
  else if n < 0xE0 then some { bits := n - 0xC0, following := 1 }
  else if n = 0xE0 then some { bits := 0, following := 2, low := 0xA0 }
  else if n = 0xED then some { bits := 0xD, following := 2, high := 0x9F }
  else if n < 0xF0 then some { bits := n - 0xE0, following := 2 }
  else if n = 0xF0 then some { bits := 0, following := 3, low := 0x90 }
  else if n < 0xF4 then some { bits := n - 0xF0, following := 3 }
  else if n = 0xF4 then some { bits := 4, following := 3, high := 0x8F }
  else none

/-- The number of a character whose lead gave `bits`, from the `following` bytes after it, and
the bytes that are not used up. -/
def follow (bits low high : Nat) : Nat → Bytes → Option Nat × Bytes
  | 0, bs => (some bits, bs)
  | _ + 1, [] => (none, [])
  | following + 1, b :: bs =>
    if low ≤ b.toNat ∧ b.toNat ≤ high then
      follow (0x40 * bits + (b.toNat - 0x80)) 0x80 0xBF following bs
    else (none, b :: bs)

theorem follow_length_le (bits low high following : Nat) (bs : Bytes) :
    (follow bits low high following bs).2.length ≤ bs.length := by
  fun_induction follow bits low high following bs <;> grind

/-- The unit that a byte begins, and the bytes after it. -/
def unit (b : UInt8) (bs : Bytes) : Option Char × Bytes :=
  match lead? b with
  | none => (none, bs)
  | some l =>
    let (n, rest) := follow l.bits l.low l.high l.following bs
    (n.map Char.ofNat, rest)

theorem unit_length_le (b : UInt8) (bs : Bytes) : (unit b bs).2.length ≤ bs.length := by
  unfold unit
  split
  · exact Nat.le_refl _
  · exact follow_length_le ..

/-- The units of bytes; `none` stands for one without a character. -/
def units : Bytes → List (Option Char)
  | [] => []
  | b :: bs => (unit b bs).1 :: units (unit b bs).2
termination_by bs => bs.length
decreasing_by exact Nat.lt_succ_of_le (unit_length_le b bs)

/-- The text of bytes that are valid throughout. -/
def decode? (bs : Bytes) : Option String := ((units bs).mapM id).map String.ofList

/-- The text of bytes, with U+FFFD for each unit without a character. -/
def decodeLossy (bs : Bytes) : String :=
  String.ofList ((units bs).map fun u => u.getD '\uFFFD')

end Text.Utf8

end CatalogShell
