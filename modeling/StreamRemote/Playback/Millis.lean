import StreamRemote.Text.Blank
import StreamRemote.Text.Numeral

/-!
# Durations

A duration is a number of milliseconds, with or without the unit `ms` behind it and with white
space around both.
-/

namespace StreamRemote

namespace Millis

/-- Takes the unit off the end of a text; a text without it stays as it is. -/
def dropUnit (s : List Char) : List Char :=
  if ['s', 'm'].isPrefixOf (Text.trim Text.isBlank s).reverse then
    (Text.trim Text.isBlank s).dropLast.dropLast
  else s

/-- The milliseconds that a text tells. -/
def parse? (s : String) : Option UInt64 :=
  (Text.readWord64 (String.ofList (Text.trim Text.isBlank (dropUnit s.toList)))).toOption

end Millis

end StreamRemote
