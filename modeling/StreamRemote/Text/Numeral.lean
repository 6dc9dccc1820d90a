/-!
# Decimal numerals of bounded size

A numeral is read from left to right and the first thing wrong with it is reported: a character
that is no ASCII digit, or the digit with which the number leaves its range. An optional sign may
precede the digits: `+` for every numeral, `-` only where negative numbers exist.

`readBelow` reads a number under a limit, and `readWord16`, `readWord64` and `readInt64` are the
three ranges in use.
-/

namespace StreamRemote.Text

/-- What is wrong with a numeral. -/
inductive NumeralError where
  /-- nothing is written -/
  | empty
  /-- some character is no digit, or a sign stands alone -/
  | invalidDigit
  /-- the number lies above its range -/
  | tooLarge
  /-- the number lies below its range -/
  | tooSmall
deriving DecidableEq, Repr

/-- The wording of a numeral's error. -/
def NumeralError.message : NumeralError → String
  | empty => "cannot parse integer from empty string"
  | invalidDigit => "invalid digit found in string"
  | tooLarge => "number too large to fit in target type"
  | tooSmall => "number too small to fit in target type"

/-- The value of an ASCII digit. -/
def digit? (c : Char) : Option Nat :=
  if '0' ≤ c ∧ c ≤ '9' then some (c.toNat - '0'.toNat) else none

/-- The value of a hexadecimal digit of either case. -/
def hexDigit? (c : Char) : Option Nat :=
  if '0' ≤ c ∧ c ≤ '9' then some (c.toNat - '0'.toNat)
  else if 'A' ≤ c ∧ c ≤ 'F' then some (c.toNat - 'A'.toNat + 10)
  else if 'a' ≤ c ∧ c ≤ 'f' then some (c.toNat - 'a'.toNat + 10)
  else none

/-- Reads digits behind a number `n` already read; a number that reaches `limit` is reported
as `beyond`. -/
def readDigits (limit : Nat) (beyond : NumeralError) : Nat → List Char → Except NumeralError Nat
  | n, [] => .ok n
  | n, c :: rest =>
    match digit? c with
    | none => .error .invalidDigit
    | some d =>
      if 10 * n + d < limit then readDigits limit beyond (10 * n + d) rest else .error beyond

/-- Reads a number below `limit`, with an optional `+` in front. -/
def readBelow (limit : Nat) : List Char → Except NumeralError Nat
  | [] => .error .empty
  | ['+'] => .error .invalidDigit
  | '+' :: rest => readDigits limit .tooLarge 0 rest
  | s => readDigits limit .tooLarge 0 s

/-- Reads a number of 16 bits. -/
def readWord16 (s : String) : Except NumeralError UInt16 :=
  (readBelow UInt16.size s.toList).map UInt16.ofNat

/-- Reads a number of 64 bits. -/
def readWord64 (s : String) : Except NumeralError UInt64 :=
  (readBelow UInt64.size s.toList).map UInt64.ofNat

/-- How many numbers of 64 bits are negative. -/
def int64Half : Nat := UInt64.size / 2

/-- Reads a signed number of 64 bits; a `-` may stand in front too. -/
def readInt64 (s : String) : Except NumeralError Int :=
  match s.toList with
  | ['-'] => .error .invalidDigit
  | '-' :: rest => (readDigits (int64Half + 1) .tooSmall 0 rest).map fun n => -(n : Int)
  | s => (readBelow int64Half s).map Int.ofNat

end StreamRemote.Text
