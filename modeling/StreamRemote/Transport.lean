/-!
# Requests and their answers

A request asks for a document or gives a command. A transport carries it to a device and brings
an answer back: a body, or the reason why there is none. How a transport works is left open; it
may talk to a network, or answer by itself and note down what it was asked, as
`Transport.answering` does.
-/

namespace StreamRemote

/-- What a request does. -/
inductive Method where
  | get
  | post
deriving DecidableEq, Repr

/-- The name of a method. -/
def Method.name : Method → String
  | get => "GET"
  | post => "POST"

/-- A request to a device. -/
structure Request where
  method : Method
  url : String
deriving DecidableEq, Repr

/-- Why a request was not answered. -/
inductive TransportError where
  /-- the device refused, with this status -/
  | status (code : Nat)
  | network (cause : String)
  /-- the body of the answer could not be read -/
  | body (cause : String)
deriving DecidableEq, Repr

/-- The wording of a transport error. -/
def TransportError.message : TransportError → String
  | status code => "HTTP status " ++ toString code
  | network cause => "Network/HTTP error: " ++ cause
  | body cause => "Failed to read response body: " ++ cause

/-- The answer to a request. A command needs no body, and one that comes is ignored. -/
abbrev Answer := Except TransportError String

/-- A way to have requests answered. -/
abbrev Transport (m : Type → Type) := Request → m Answer

/-- A computation that notes down the requests it makes, the last one first. -/
abbrev Recorded := StateM (List Request)

/-- The transport that gives one answer to every request. -/
def Transport.answering (answer : Answer) : Transport Recorded := fun request => do
  modify (request :: ·)
  pure answer

/-- How long a transport waits, in milliseconds. -/
structure Timeouts where
  connect : Nat
  read : Nat
deriving DecidableEq, Repr

namespace Timeouts

/-- Five seconds to connect and ten to read. -/
def standard : Timeouts := ⟨5000, 10000⟩

/-- The same times, with another one to connect. -/
def withConnect (timeouts : Timeouts) (connect : Nat) : Timeouts :=
  { timeouts with connect }

/-- The same times, with another one to read. -/
def withRead (timeouts : Timeouts) (read : Nat) : Timeouts :=
  { timeouts with read }

/-- Once both times are replaced, nothing is left of what there was. -/
theorem withConnect_withRead (timeouts : Timeouts) (connect read : Nat) :
    (timeouts.withConnect connect).withRead read = ⟨connect, read⟩ :=
  rfl

end Timeouts

end StreamRemote
