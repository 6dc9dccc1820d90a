import StreamRemote.Text.Numeral

/-!
# Decimal fractions

A decimal fraction has a whole part and digits behind a point, either of which may be missing,
but not both. It is written with a whole part and without zeros at its end.
-/

namespace StreamRemote.Text

/-- A decimal fraction. The digits behind the point do not end in zero. -/
structure Decimal where
  negative : Bool
  whole : Nat
  fraction : List Nat
deriving DecidableEq, Repr

namespace Decimal

/-- The values of characters that are all digits. -/
def digits? (s : List Char) : Option (List Nat) :=
  s.mapM digit?

/-- Reads a decimal fraction without its sign. -/
def readUnsigned? (negative : Bool) (s : List Char) : Option Decimal := do
  let whole ← digits? (s.takeWhile (· ≠ '.'))
  let fraction ← digits? ((s.dropWhile (· ≠ '.')).drop 1)
  if whole.isEmpty && fraction.isEmpty then none
  else
    some {
      negative
      whole := whole.foldl (fun n d => 10 * n + d) 0
      fraction := (fraction.reverse.dropWhile (· == 0)).reverse
    }

/-- Reads a decimal fraction, with an optional sign in front. -/
def read? : List Char → Option Decimal
  | '+' :: rest => readUnsigned? false rest
  | '-' :: rest => readUnsigned? true rest
  | s => readUnsigned? false s

/-- The text of a decimal fraction. -/
def render (d : Decimal) : String :=
  (if d.negative then "-" else "") ++ toString d.whole ++
    if d.fraction.isEmpty then "" else "." ++ String.join (d.fraction.map toString)

/-- The fraction lies below zero. -/
def isBelowZero (d : Decimal) : Bool :=
  d.negative && !(d.whole == 0 && d.fraction.isEmpty)

/-- The order of two fractions without their signs. -/
def compareSize (a b : Decimal) : Ordering :=
  (compare a.whole b.whole).then (compare a.fraction b.fraction)

/-- The order of two fractions. -/
def order (a b : Decimal) : Ordering :=
  match a.isBelowZero, b.isBelowZero with
  | false, false => compareSize a b
  | true, true => compareSize b a
  | true, false => .lt
  | false, true => .gt

end Decimal

end StreamRemote.Text
