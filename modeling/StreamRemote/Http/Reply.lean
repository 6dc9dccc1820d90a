import StreamRemote.Text.Utf8
import StreamRemote.Transport

/-!
# Replies over HTTP

What the reply of a server means for the request. A status from 400 on is an error; every other
one is a success. A command is done with that. A query goes on to read the body: it is cut to the
length that the reply declares, must not be shorter, and must not be longer than
`Reply.bodyLimit`.
-/

namespace StreamRemote

/-- The reply of a server. -/
structure Reply where
  status : Nat
  /-- the bytes that came behind the head -/
  data : ByteArray
  /-- the length that the head declares; without it the body ends where the data end -/
  declared : Option Nat

/-- What comes of sending a request: a reply, or an error of the connection. -/
abbrev Exchange := Except String Reply

namespace Reply

/-- The longest body that is read, in bytes: ten mebibytes. -/
def bodyLimit : Nat := 10 * 1024 * 1024

/-- A reply of this status has no body. -/
def isBodiless (status : Nat) : Bool :=
  status == 204 || status == 304

/-- The bytes of the body, as far as they have come. -/
def payload (reply : Reply) : ByteArray :=
  match reply.declared with
  | none => reply.data
  | some length => reply.data.extract 0 length

/-- The data end before the declared length is reached. -/
def isCut (reply : Reply) : Bool :=
  match reply.declared with
  | none => false
  | some length => reply.data.size < length

/-- Reads the body. -/
def body (reply : Reply) : Answer :=
  if isBodiless reply.status then .ok ""
  else if bodyLimit < reply.payload.size then .error (.body "response too big for into_string")
  else if reply.isCut then .error (.body "response body closed before all bytes were read")
  else .ok (Text.Utf8.decode reply.payload)

end Reply

namespace Exchange

/-- The reply, if it is no error. -/
def reply (exchange : Exchange) : Except TransportError Reply :=
  match exchange with
  | .error cause => .error (.network ("Network Error: " ++ cause))
  | .ok reply => if 400 ≤ reply.status then .error (.status reply.status) else .ok reply

/-- What an exchange means for a request of a method. -/
def answer (method : Method) (exchange : Exchange) : Answer := do
  let reply ← exchange.reply
  match method with
  | .get => reply.body
  | .post => pure ""

end Exchange

/-- The transport over a way to exchange requests for replies. Each request is sent once. -/
def Transport.overHttp {m : Type → Type} [Monad m] (send : Request → m Exchange) : Transport m :=
  fun request => do
    let exchange ← send request
    pure (exchange.answer request.method)

end StreamRemote
