import StreamRemote.Text.Numeral

/-!
# Percent-encoding

A byte is written as `%` and two hexadecimal digits in upper case, unless it is the code of an
unreserved character. Reading is lenient: digits of either case count, and a `%` that is not
followed by two digits stands for itself.
-/

namespace StreamRemote.Text

namespace Percent

/-- The characters that stand for themselves: ASCII letters and digits and `-`, `.`, `_`, `~`. -/
def isUnreserved (c : Char) : Bool :=
  c.isAlphanum || c == '-' || c == '.' || c == '_' || c == '~'

/-- One hexadecimal digit in upper case. -/
def hexDigit (n : Nat) : Char :=
  if n < 10 then Char.ofNat ('0'.toNat + n) else Char.ofNat ('A'.toNat + (n - 10))

/-- The written form of one byte. -/
def encodeByte (b : UInt8) : List Char :=
  let c := Char.ofNat b.toNat
  if isUnreserved c then [c]
  else ['%', hexDigit (b.toNat / 16), hexDigit (b.toNat % 16)]

/-- The written form of a character: the written forms of its UTF-8 bytes. -/
def encodeChar (c : Char) : List Char :=
  (String.utf8EncodeChar c).flatMap encodeByte

/-- The byte that two hexadecimal digits denote. -/
def byte? (high low : Char) : Option UInt8 :=
  match hexDigit? high, hexDigit? low with
  | some h, some l => some (UInt8.ofNat (16 * h + l))
  | _, _ => none

/-- The bytes that a written text denotes. -/
def decode : List Char → List UInt8
  | '%' :: high :: low :: rest =>
    match byte? high low with
    | some b => b :: decode rest
    | none => String.utf8EncodeChar '%' ++ decode (high :: low :: rest)
  | c :: rest => String.utf8EncodeChar c ++ decode rest
  | [] => []

/-- The text that a written text denotes, when its bytes are well-formed UTF-8. -/
def decodeText? (s : List Char) : Option String :=
  String.fromUTF8? (decode s).toByteArray

/-- Writing a hexadecimal digit and reading it gives its value back. -/
theorem hexDigit?_hexDigit {n : Nat} (h : n < 16) : hexDigit? (hexDigit n) = some n := by
  have all : ∀ m ∈ List.range 16, hexDigit? (hexDigit m) = some m := by decide
  exact all n (List.mem_range.mpr h)

/-- A byte written as two digits is read back. -/
theorem byte?_hexDigit (b : UInt8) :
    byte? (hexDigit (b.toNat / 16)) (hexDigit (b.toNat % 16)) = some b := by
  have bound : b.toNat < 256 := b.toNat_lt
  simp only [byte?, hexDigit?_hexDigit (Nat.div_lt_of_lt_mul bound : b.toNat / 16 < 16),
    hexDigit?_hexDigit (Nat.mod_lt _ (by decide) : b.toNat % 16 < 16)]
  rw [Nat.div_add_mod, UInt8.ofNat_toNat]

end Percent

end StreamRemote.Text
