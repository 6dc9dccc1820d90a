import StreamRemote.Text.Utf8

/-!
# Faults in markup

What can be wrong with a document before its meaning is looked at: a piece of markup that does
not end, an end tag that closes nothing, an unknown kind of declaration.
-/

namespace StreamRemote.Xml

/-- White space of markup: space, tab, carriage return and line feed. -/
def isSpace (c : Char) : Bool :=
  c == ' ' || c == '\t' || c == '\r' || c == '\n'

/-- The kinds of markup that have to be finished. -/
inductive Construct where
  | comment
  | characterData
  | doctype
  | instruction
  | element
  | declaration
deriving DecidableEq, Repr

/-- The name of a kind of markup in messages. -/
def Construct.name : Construct → String
  | comment => "Comment"
  | characterData => "CData"
  | doctype => "DOCTYPE"
  | instruction => "XmlDecl"
  | element => "Element"
  | declaration => "Bang"

/-- What is wrong with a piece of markup. -/
inductive Fault where
  /-- the input ends, or the markup goes wrong, before it is finished -/
  | unfinished (construct : Construct)
  /-- an end tag names another element than the innermost open one -/
  | mismatch (expected found : String)
  /-- a declaration begins with a byte that begins none -/
  | unknownDeclaration (byte : UInt8)
  /-- a document type declaration declares nothing -/
  | emptyDoctype
deriving DecidableEq, Repr

/-- A byte shown as the character of that number. -/
def showByte (b : UInt8) : String :=
  String.singleton (Char.ofNat b.toNat)

/-- The first byte of a character in UTF-8. -/
def firstByte (c : Char) : UInt8 :=
  (String.utf8EncodeChar c).headD 0

/-- The wording of a fault. -/
def Fault.message : Fault → String
  | unfinished construct => "Unexpected EOF during reading " ++ construct.name
  | mismatch expected found => "Expecting </" ++ expected ++ "> found </" ++ found ++ ">"
  | unknownDeclaration byte =>
    "Only Comment (`--`), CDATA (`[CDATA[`) and DOCTYPE (`DOCTYPE`) nodes can start with a '!', " ++
      "but symbol `" ++ showByte byte ++ "` found"
  | emptyDoctype => "DOCTYPE declaration must not be empty"

end StreamRemote.Xml
