import StreamRemote.Text.Percent

/-!
# Keys

The keys of a remote control, each with the code that stands for it in a request.

A named key has its name as code. A character typed on a keyboard has the code `Lit_` with the
character behind it, percent-encoded. `Key.parse` reads codes back: names in either case, and
characters as they are or percent-encoded.
-/

namespace StreamRemote

/-- The keys with a name. -/
inductive NamedKey where
  | home
  | rev
  | fwd
  | play
  | select
  | left
  | right
  | down
  | up
  | back
  | instantReplay
  | info
  | backspace
  | search
  | enter
  | findRemote
  | volumeDown
  | volumeUp
  | volumeMute
  | powerOff
  | powerOn
  | channelUp
  | channelDown
  | inputTuner
  | inputHdmi1
  | inputHdmi2
  | inputHdmi3
  | inputHdmi4
  | inputAv1
deriving DecidableEq, Repr

namespace NamedKey

/-- All named keys, in the order of the remote control. -/
def all : List NamedKey := [
  .home, .rev, .fwd, .play, .select, .left, .right, .down, .up, .back, .instantReplay, .info,
  .backspace, .search, .enter, .findRemote, .volumeDown, .volumeUp, .volumeMute, .powerOff,
  .powerOn, .channelUp, .channelDown, .inputTuner, .inputHdmi1, .inputHdmi2, .inputHdmi3,
  .inputHdmi4, .inputAv1]

/-- The name of a key. -/
def name : NamedKey → String
  | home => "Home"
  | rev => "Rev"
  | fwd => "Fwd"
  | play => "Play"
  | select => "Select"
  | left => "Left"
  | right => "Right"
  | down => "Down"
  | up => "Up"
  | back => "Back"
  | instantReplay => "InstantReplay"
  | info => "Info"
  | backspace => "Backspace"
  | search => "Search"
  | enter => "Enter"
  | findRemote => "FindRemote"
  | volumeDown => "VolumeDown"
  | volumeUp => "VolumeUp"
  | volumeMute => "VolumeMute"
  | powerOff => "PowerOff"
  | powerOn => "PowerOn"
  | channelUp => "ChannelUp"
  | channelDown => "ChannelDown"
  | inputTuner => "InputTuner"
  | inputHdmi1 => "InputHDMI1"
  | inputHdmi2 => "InputHDMI2"
  | inputHdmi3 => "InputHDMI3"
  | inputHdmi4 => "InputHDMI4"
  | inputAv1 => "InputAV1"

/-- The key of a name, which may be written in either case. -/
def ofName? (text : String) : Option NamedKey :=
  all.find? fun key => key.name.toList.map Char.toLower == text.toList.map Char.toLower

/-- No key is left out of the list. -/
theorem mem_all (key : NamedKey) : key ∈ all := by
  cases key <;> decide

end NamedKey

/-- A key that can be pressed. -/
inductive Key where
  | named (key : NamedKey)
  /-- a character typed on a keyboard -/
  | literal (char : Char)
deriving DecidableEq, Repr

/-- A text that is the code of no key. -/
structure UnknownKey where
  text : String
deriving DecidableEq, Repr

/-- The wording of the error. -/
def UnknownKey.message (e : UnknownKey) : String :=
  "Unknown key: " ++ e.text

namespace Key

/-- What the codes of characters begin with. -/
def literalMark : List Char := "Lit_".toList

/-- The code of a key. -/
def code : Key → String
  | named key => key.name
  | literal c => String.ofList (literalMark ++ Text.Percent.encodeChar c)

/-- The name of a key, if it has one. -/
def name? : Key → Option String
  | named key => some key.name
  | literal _ => none

/-- The only character of a text. -/
def single? (text : String) : Option Char :=
  match text.toList with
  | [c] => some c
  | _ => none

/-- The key that a code stands for. -/
def ofCode? (text : String) : Option Key :=
  if literalMark.isPrefixOf text.toList then
    ((Text.Percent.decodeText? (text.toList.drop literalMark.length)).bind single?).map literal
  else (NamedKey.ofName? text).map named

/-- Reads the code of a key. -/
def parse (text : String) : Except UnknownKey Key :=
  match ofCode? text with
  | some key => .ok key
  | none => .error ⟨text⟩

/-- The code of a key for a text: the text itself unless it is a way to write a key. -/
def normalize (text : String) : String :=
  ((ofCode? text).map code).getD text

end Key

end StreamRemote
