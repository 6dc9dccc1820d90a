/-!
# Reading bytes as text

`Utf8.decode` reads bytes as UTF-8. Well-formed bytes are read as they are; otherwise each
ill-formed part, taken as long as it still begins some character, is replaced by U+FFFD.
-/

namespace StreamRemote.Text

namespace Utf8

/-- What the first byte of a character announces: how many bytes follow, the bits it carries
itself, and the range of the byte right behind it. -/
structure Lead where
  more : Nat
  bits : Nat
  low : UInt8
  high : UInt8
deriving DecidableEq, Repr

/-- The announcement of a first byte; the narrower ranges leave out overlong forms, surrogates
and what lies above U+10FFFF. -/
def Lead.ofByte? (b : UInt8) : Option Lead :=
  if b < 0x80 then some ⟨0, b.toNat, 0x80, 0xBF⟩
  else if b < 0xC2 then none
  else if b < 0xE0 then some ⟨1, b.toNat - 0xC0, 0x80, 0xBF⟩
  else if b == 0xE0 then some ⟨2, 0, 0xA0, 0xBF⟩
  else if b == 0xED then some ⟨2, 0x0D, 0x80, 0x9F⟩
  else if b < 0xF0 then some ⟨2, b.toNat - 0xE0, 0x80, 0xBF⟩
  else if b == 0xF0 then some ⟨3, 0, 0x90, 0xBF⟩
  else if b < 0xF4 then some ⟨3, b.toNat - 0xF0, 0x80, 0xBF⟩
  else if b == 0xF4 then some ⟨3, 4, 0x80, 0x8F⟩
  else none

/-- The character that stands for an ill-formed part. -/
def replacement : Char := '\uFFFD'

/-- Reads the `more` bytes that follow a first byte, the next of them between `low` and `high`.
Stops in front of the first byte that does not fit. -/
def follow : (more bits : Nat) → (low high : UInt8) → List UInt8 → Char × List UInt8
  | 0, bits, _, _, rest => (Char.ofNat bits, rest)
  | _ + 1, _, _, _, [] => (replacement, [])
  | more + 1, bits, low, high, b :: rest =>
    if low ≤ b ∧ b ≤ high then follow more (64 * bits + (b.toNat - 0x80)) 0x80 0xBF rest
    else (replacement, b :: rest)

/-- The first character of `b :: rest`, well-formed or not, and the bytes behind it. -/
def step (b : UInt8) (rest : List UInt8) : Char × List UInt8 :=
  match Lead.ofByte? b with
  | some lead => follow lead.more lead.bits lead.low lead.high rest
  | none => (replacement, rest)

theorem length_follow_le (more bits : Nat) (low high : UInt8) (rest : List UInt8) :
    (follow more bits low high rest).2.length ≤ rest.length := by
  induction rest generalizing more bits low high with
  | nil => cases more <;> simp [follow]
  | cons b rest ih =>
    cases more with
    | zero => simp [follow]
    | succ more =>
      simp only [follow]
      split
      · exact Nat.le_succ_of_le (ih ..)
      · exact Nat.le_refl _

theorem length_step_le (b : UInt8) (rest : List UInt8) :
    (step b rest).2.length ≤ rest.length := by
  unfold step
  split
  · exact length_follow_le ..
  · exact Nat.le_refl _

/-- Reads all bytes, with the characters read so far in `before`. -/
def repair (before : String) : List UInt8 → String
  | [] => before
  | b :: rest => repair (before.push (step b rest).1) (step b rest).2
termination_by bytes => bytes.length
decreasing_by
  exact Nat.lt_succ_of_le (length_step_le b rest)

/-- The text that bytes stand for, with U+FFFD for each ill-formed part. -/
def decode (bytes : ByteArray) : String :=
  match String.fromUTF8? bytes with
  | some s => s
  | none => repair "" bytes.data.toList

end Utf8

end StreamRemote.Text
