import StreamRemote.Text.Decimal
import StreamRemote.Text.Split

/-!
# Fields in log filters

A log filter can ask for a field of a span, by its name alone or with its value. A value is read
as a truth value, a number or a pattern, whichever fits first.
-/

namespace StreamRemote

/-- A value that a field is asked to have. -/
inductive FieldValue where
  | flag (value : Bool)
  | decimal (value : Text.Decimal)
  | infinite (negative : Bool)
  /-- the number that is no number -/
  | undefined
  | word (value : UInt64)
  | integer (value : Int)
  | pattern (text : String)
deriving DecidableEq, Repr

namespace FieldValue

/-- Takes the sign off a text, and tells whether it is a minus. -/
def splitSign : List Char → Bool × List Char
  | '-' :: rest => (true, rest)
  | '+' :: rest => (false, rest)
  | s => (false, s)

/-- The number beyond all others, or the one that is no number, that a word stands for in either
case. -/
def special? (s : List Char) : Option FieldValue :=
  let (negative, rest) := splitSign s
  let name := String.ofList (rest.map Char.toLower)
  if name = "inf" ∨ name = "infinity" then some (infinite negative)
  else if name = "nan" then some undefined
  else none

/-- The value that a text stands for. What a pattern may look like is left open: each text that is
nothing else is taken for one, also a text that no reader of patterns would take. -/
def ofText (s : String) : FieldValue :=
  if s = "true" then flag true
  else if s = "false" then flag false
  else
    match Text.readWord64 s, Text.readInt64 s, Text.Decimal.read? s.toList with
    | .ok n, _, _ => word n
    | _, .ok n, _ => integer n
    | _, _, some d => decimal d
    | _, _, none => (special? s.toList).getD (pattern s)

/-- The text of a value. -/
def render : FieldValue → String
  | flag true => "true"
  | flag false => "false"
  | decimal d => d.render
  | infinite true => "-inf"
  | infinite false => "inf"
  | undefined => "NaN"
  | word n => toString n.toNat
  | integer n => toString n
  | pattern s => s

/-- The place of a kind of value in the order of values. What is infinite lies on either side of
the decimal fractions. -/
def rank : FieldValue → Nat
  | flag _ => 0
  | infinite true => 1
  | decimal _ => 2
  | infinite false => 3
  | undefined => 4
  | word _ => 5
  | integer _ => 6
  | pattern _ => 7

/-- The order of values: by kind, and within a kind by size. -/
def order : FieldValue → FieldValue → Ordering
  | flag a, flag b => compare a b
  | decimal a, decimal b => a.order b
  | word a, word b => compare a b
  | integer a, integer b => compare a b
  | pattern a, pattern b => compare a b
  | a, b => compare a.rank b.rank

end FieldValue

/-- A field that is asked for, with its value if that is asked for too. -/
structure FieldMatch where
  name : String
  value : Option FieldValue
deriving DecidableEq, Repr

namespace FieldMatch

/-- Reads `name` or `name=value`. -/
def ofText (s : List Char) : FieldMatch :=
  match Text.splitAtEach '=' s with
  | [] => ⟨"", none⟩
  | name :: rest =>
    ⟨String.ofList name, rest.head?.map fun value => .ofText (String.ofList value)⟩

/-- The text of a field. -/
def render (field : FieldMatch) : String :=
  match field.value with
  | none => field.name
  | some value => field.name ++ "=" ++ value.render

/-- The order of two values that may be missing. -/
def orderValue : Option FieldValue → Option FieldValue → Ordering
  | none, none => .eq
  | none, some _ => .lt
  | some _, none => .gt
  | some a, some b => a.order b

/-- The order of fields: those with a value come last, then by name, then by value. -/
def order (a b : FieldMatch) : Ordering :=
  (compare a.value.isSome b.value.isSome).then <|
    (compare a.name b.name).then (orderValue a.value b.value)

end FieldMatch

end StreamRemote
