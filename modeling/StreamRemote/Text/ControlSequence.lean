/-!
# Texts for a terminal

A text can hold characters that a terminal obeys instead of showing them: control characters, and
sequences that begin with the escape character. `ControlSequence.strip` keeps what is shown and
the control characters that lay a text out.

An escape sequence is the escape character with some intermediate characters and a final one. Some
of them open something longer. `ESC [` opens a control sequence, whose final character is from the
upper part of ASCII. `ESC X`, `ESC ^` and `ESC _` open a string, and so does `ESC P`, with
parameters, intermediate characters and a final one in front of the string. `ESC ]` opens a command
to the operating system.

Strings and commands go on up to the next escape character. Besides, a bell ends a command, and the
byte 0x9C, which is the string terminator of terminals with eight bits, ends a string, even within
a character; that character is not shown.
-/

namespace StreamRemote.Text

namespace ControlSequence

/-- Where in a text a terminal is. -/
inductive Place where
  /-- in what is shown -/
  | shown
  /-- behind an escape character -/
  | escape
  /-- behind an intermediate character of an escape sequence -/
  | intermediate
  /-- in a control sequence -/
  | sequence
  /-- at the outset of what stands in front of the string of `ESC P` -/
  | device
  /-- in the parameters in front of that string -/
  | deviceParameter
  /-- behind an intermediate character in front of that string -/
  | deviceIntermediate
  /-- in a string -/
  | string
  /-- in a command to the operating system -/
  | command
deriving DecidableEq, Repr

/-- The control characters that lay a text out: tab, line feed, form feed and carriage return. -/
def isLayout (c : Char) : Bool :=
  c == '\t' || c == '\n' || c == '\x0c' || c == '\r'

/-- The control characters of ASCII. -/
def isControl (c : Char) : Bool :=
  c.toNat < 0x20 || c == '\x7f'

/-- An intermediate character of a sequence. -/
def isIntermediate (c : Char) : Bool :=
  0x20 ≤ c.toNat && c.toNat ≤ 0x2F

/-- One of the bytes of a character is the string terminator. -/
def holdsTerminator (c : Char) : Bool :=
  (String.utf8EncodeChar c).contains 0x9C

namespace Place

/-- In these places a control character has its usual effect. -/
def obeysControls : Place → Bool
  | shown | escape | intermediate | sequence => true
  | device | deviceParameter | deviceIntermediate | string | command => false

/-- The place behind a graphic character of ASCII that is met at a place. -/
def advance (c : Char) : Place → Place
  | shown => shown
  | escape =>
    if c = '[' then sequence
    else if c = ']' then command
    else if c = 'P' then device
    else if c = 'X' ∨ c = '^' ∨ c = '_' then string
    else if isIntermediate c then intermediate
    else shown
  | intermediate => if isIntermediate c then intermediate else shown
  | sequence => if 0x40 ≤ c.toNat then shown else sequence
  | device =>
    if isIntermediate c then deviceIntermediate
    else if 0x40 ≤ c.toNat then string
    else deviceParameter
  | deviceParameter =>
    if isIntermediate c then deviceIntermediate
    else if 0x3C ≤ c.toNat then string
    else deviceParameter
  | deviceIntermediate => if isIntermediate c then deviceIntermediate else string
  | string => string
  | command => command

/-- The place behind a character beyond ASCII that is met at a place. -/
def advanceBeyond (c : Char) (place : Place) : Place :=
  if place = string ∧ holdsTerminator c then shown else place

/-- The place behind a control character that is met at a place, but for the escape character and
those that cancel a sequence. -/
def advanceControl (c : Char) (place : Place) : Place :=
  if place = command ∧ c = '\x07' then shown
  else if place.obeysControls && isLayout c then shown
  else place

/-- The place behind a character that is met at a place. -/
def next (place : Place) (c : Char) : Place :=
  if c = '\x1b' then escape
  else if c = '\x18' ∨ c = '\x1a' then shown
  else if isControl c then place.advanceControl c
  else if 0x80 ≤ c.toNat then place.advanceBeyond c
  else place.advance c

/-- A character that is met at a place is shown. -/
def shows (place : Place) (c : Char) : Bool :=
  if isControl c then place.obeysControls && isLayout c else place == shown

end Place

/-- What is shown of a text from a place on. -/
def stripFrom (place : Place) : List Char → List Char
  | [] => []
  | c :: rest =>
    if place.shows c then c :: stripFrom (place.next c) rest else stripFrom (place.next c) rest

/-- What is shown of a text. -/
def strip (s : List Char) : List Char :=
  stripFrom .shown s

end ControlSequence

end StreamRemote.Text
