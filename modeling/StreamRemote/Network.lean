import Std.Async.DNS
import Std.Async.TCP
import Std.Async.Timer
import StreamRemote.Device
import StreamRemote.Http.Message

/-!
# Talking to a device over the network

The transport that a program uses: it opens a connection for each request, sends the request, and
reads until the device closes the connection.
-/

namespace StreamRemote

namespace Network

open Std.Async Std.Net

/-- Gives a computation so many milliseconds. -/
def within {α : Type} [Inhabited α] (millis : Nat) (what : String) (x : Async α) : Async α :=
  Async.race x do
    sleep (.ofNat millis)
    throw (.userError ("timed out " ++ what))

/-- The addresses of a host. -/
def addresses (device : Device) : Async (List SocketAddress) := do
  let found ← DNS.getAddrInfo device.host (toString device.port.toNat)
  pure <| found.toList.map fun
    | .v4 addr => .v4 ⟨addr, device.port⟩
    | .v6 addr => .v6 ⟨addr, device.port⟩

/-- Opens a connection to the first address of a device. -/
def connect (device : Device) : Async TCP.Socket.Client := do
  match ← addresses device with
  | [] => throw (.userError ("no address for " ++ device.host))
  | address :: _ =>
    let socket ← TCP.Socket.Client.mk
    socket.connect address
    pure socket

/-- Reads what comes, up to the end of the connection; more than a body may hold is not read. -/
partial def receive (socket : TCP.Socket.Client) (before : ByteArray) : Async ByteArray := do
  if 2 * Reply.bodyLimit < before.size then pure before
  else
    match ← socket.recv? 65536 with
    | none => pure before
    | some bytes => receive socket (before ++ bytes)

/-- Sends a request and reads the reply. -/
def exchange (device : Device) (timeouts : Timeouts) (request : Request) : Async Reply := do
  let socket ← within timeouts.connect "connecting" do
    let socket ← connect device
    pure (some socket)
  let some socket := socket | throw (.userError "not connected")
  let authority := device.host ++ ":" ++ toString device.port.toNat
  socket.send (Http.renderRequest device.base authority request).toUTF8
  let bytes ← within timeouts.read "reading response" (receive socket ByteArray.empty)
  match Http.Reply.ofBytes? bytes with
  | some reply => pure reply
  | none => throw (.userError "Bad Status")

/-- The transport to a device over the network. -/
def transport (device : Device) (timeouts : Timeouts) : Transport IO := .overHttp fun request => do
  try
    let reply ← (exchange device timeouts request).block
    pure (Except.ok reply)
  catch e => pure (Except.error (toString e))

end Network

end StreamRemote
