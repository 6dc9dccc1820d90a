import StreamRemote.Xml.Attribute
import StreamRemote.Xml.Entity

/-!
# Why a document cannot be read

The causes for which a document is not what its reader asks for, from broken markup to a missing
field, and their wording.
-/

namespace StreamRemote.Xml

/-- Why a document cannot be read. -/
inductive ReadError where
  | markup (cause : Fault)
  | invalidEntity (cause : EntityFault)
  | invalidAttribute (cause : AttributeFault)
  /-- the input ends inside an element -/
  | unexpectedEof
  /-- something other than an element stands where only an element can -/
  | expectedElement
  /-- an element stands where only text can -/
  | unexpectedElement (name : List Char)
  | duplicateField (key : String)
  | missingField (key : String)
  | invalidBoolean (text : String)
  | invalidNumber (cause : Text.NumeralError)
  /-- the document has no element at all -/
  | noRoot
  /-- the document is of another type -/
  | wrongRoot (expected found : String)
deriving DecidableEq, Repr

/-- One byte of a name in a message: printable ASCII as it is, but for the quote, and all else by
its number in hexadecimal. -/
def showNameByte (b : UInt8) : String :=
  if b = 0x22 then "\\\""
  else if 0x20 ≤ b ∧ b ≤ 0x7E then showByte b
  else "0x" ++ String.ofList ((Nat.toDigits 16 b.toNat).map Char.toUpper)

/-- A name in quotes, with the bytes that cannot be shown written out. -/
def showName (name : List Char) : String :=
  "\"" ++ String.join ((name.flatMap String.utf8EncodeChar).map showNameByte) ++ "\""

/-- The wording of a reading error. -/
def ReadError.message : ReadError → String
  | markup cause => cause.message
  | invalidEntity cause => cause.message
  | invalidAttribute cause => "error while parsing attribute: " ++ cause.message
  | unexpectedEof => "Unexpected `Event::Eof`"
  | expectedElement => "Expecting `Event::Start`"
  | unexpectedElement name => "Unexpected `Event::Start(" ++ showName name ++ ")`"
  | duplicateField key => "duplicate field `" ++ key ++ "`"
  | missingField key => "missing field `" ++ key ++ "`"
  | invalidBoolean text => "Invalid boolean value '" ++ text ++ "'"
  | invalidNumber cause => cause.message
  | noRoot => "no root element"
  | wrongRoot expected found =>
    "expected <" ++ expected ++ "> document, found <" ++ found ++ ">"

end StreamRemote.Xml
