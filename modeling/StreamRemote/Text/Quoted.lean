import StreamRemote.Text.Combining
import StreamRemote.Text.Printable

/-!
# Quoted text

A text in double quotes, with every character that would not show written as an escape, so that
the quoted form is one line and shows each character of the text.
-/

namespace StreamRemote.Text

namespace Quoted

/-- The escape of a character by its code point, in lower-case hexadecimal digits without
leading zeros. -/
def escapeCode (c : Char) : List Char :=
  '\\' :: 'u' :: '\x7b' :: Nat.toDigits 16 c.toNat ++ ['\x7d']

/-- The form of one character between the quotes. -/
def encodeChar (c : Char) : List Char :=
  if c = '\x00' then ['\\', '0']
  else if c = '\t' then ['\\', 't']
  else if c = '\r' then ['\\', 'r']
  else if c = '\n' then ['\\', 'n']
  else if c = '\\' then ['\\', '\\']
  else if c = '"' then ['\\', '"']
  else if isPrintable c && !isCombining c then [c]
  else escapeCode c

/-- The form of a text between the quotes. -/
def encode (s : List Char) : List Char :=
  s.flatMap encodeChar

end Quoted

/-- A text in double quotes. -/
def quoted (s : String) : String :=
  String.ofList ('"' :: Quoted.encode s.toList ++ ['"'])

end StreamRemote.Text
