import StreamRemote.Text.Numeral

/-!
# Levels of logging

How much is logged, from nothing to everything. A level is written by its name, in either case,
or by its number.
-/

namespace StreamRemote

/-- How much is logged. -/
inductive LogLevel where
  | off
  | error
  | warn
  | info
  | debug
  | trace
deriving DecidableEq, Repr

namespace LogLevel

/-- All levels, in the order of their numbers: each logs what the one before it does, and more. -/
def all : List LogLevel := [off, error, warn, info, debug, trace]

/-- The number of a level. -/
def number : LogLevel → Nat
  | off => 0
  | error => 1
  | warn => 2
  | info => 3
  | debug => 4
  | trace => 5

/-- The name of a level. -/
def name : LogLevel → String
  | off => "off"
  | error => "error"
  | warn => "warn"
  | info => "info"
  | debug => "debug"
  | trace => "trace"

/-- The level that logs as much as both. -/
def sup (a b : LogLevel) : LogLevel :=
  if a.number ≤ b.number then b else a

/-- The level that a text names. -/
def read? (s : String) : Option LogLevel :=
  match Text.readBelow all.length s.toList with
  | .ok n => all[n]?
  | .error _ => all.find? fun level => s.toList.map Char.toLower == level.name.toList

/-- The name of a level is read as that level. -/
theorem read?_name (level : LogLevel) : read? level.name = some level := by
  cases level <;> decide +kernel

end LogLevel

end StreamRemote
