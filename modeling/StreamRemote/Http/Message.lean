import StreamRemote.Http.Reply
import StreamRemote.Text.Blank
import StreamRemote.Text.Numeral
import StreamRemote.Text.Split

/-!
# Messages of HTTP

The bytes of a request, and the reply that the bytes behind a request stand for. Requests are of
version 1.0 and ask for the connection to be closed, so the body of a reply ends where the
connection ends and is never cut into chunks.
-/

namespace StreamRemote

namespace Http

/-- The end of a line. -/
def lineEnd : String := "\r\n"

/-- The path of an address, which is what follows the base. -/
def path (base url : String) : String :=
  String.ofList (url.toList.drop base.toList.length)

/-- The text of a request. -/
def renderRequest (base authority : String) (request : Request) : String :=
  request.method.name ++ " " ++ path base request.url ++ " HTTP/1.0" ++ lineEnd ++
    "Host: " ++ authority ++ lineEnd ++
    "Connection: close" ++ lineEnd ++
    (match request.method with
      | .get => ""
      | .post => "Content-Length: 0" ++ lineEnd) ++
    lineEnd

/-- Splits bytes behind the first empty line. -/
def splitHead? : List UInt8 → Option (List UInt8 × List UInt8)
  | 13 :: 10 :: 13 :: 10 :: rest => some ([], rest)
  | b :: rest => (splitHead? rest).map fun (head, data) => (b :: head, data)
  | [] => none

/-- The status in the first line of a head, behind the version. -/
def status? (line : List Char) : Option Nat :=
  match Text.splitAtEach ' ' line with
  | _ :: code :: _ => (Text.readBelow 1000 code).toOption
  | _ => none

/-- The name of a header as it is looked for. -/
def lengthHeader : List Char := "content-length".toList

/-- The length that a line of a head declares, if it declares one. -/
def declaredLength? (line : List Char) : Option Nat :=
  if (line.takeWhile (· ≠ ':')).map Char.toLower = lengthHeader then
    (Text.readBelow UInt64.size
      (Text.trim Text.isBlank ((line.dropWhile (· ≠ ':')).drop 1))).toOption
  else none

/-- The reply that some bytes are. -/
def Reply.ofBytes? (bytes : ByteArray) : Option Reply := do
  let (head, data) ← splitHead? bytes.data.toList
  let lines := Text.splitAtEach '\n' (Text.Utf8.repair "" head).toList
  let status ← status? (← lines.head?)
  some {
    status
    data := data.toByteArray
    declared := lines.findSome? declaredLength?
  }

end Http

end StreamRemote
