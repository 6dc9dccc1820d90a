import StreamRemote.Device
import StreamRemote.Document.ActiveApp
import StreamRemote.Document.AppList
import StreamRemote.Document.DeviceInfo
import StreamRemote.Document.PlayerStatus
import StreamRemote.Transport

/-!
# Asking a device

A call is one thing asked of a device: to press a key, to launch an app, or to answer a query.
Each call makes exactly one request, `Call.request`, and what its answer means is decided by
`Call.conclude` alone; `Call.perform` puts a transport between the two.
-/

namespace StreamRemote

/-- One thing asked of a device. -/
inductive Call where
  /-- to press the key of a code, which goes into the request as it is -/
  | pressKey (code : String)
  | press (key : Key)
  | launchApp (appId : String)
  | query (query : Query)
deriving DecidableEq, Repr

/-- What a device answers. -/
inductive Outcome where
  /-- a command was carried out -/
  | done
  | deviceInfo (info : DeviceInfo)
  | activeApp (active : ActiveApp)
  | apps (apps : List App)
  | player (status : PlayerStatus)
deriving DecidableEq, Repr

/-- Why a query has no answer. -/
inductive QueryFailure where
  | transport (cause : TransportError)
  | document (cause : DocumentError)
deriving DecidableEq, Repr

/-- The wording of a query's failure. -/
def QueryFailure.message : QueryFailure → String
  | transport cause => cause.message
  | document cause => cause.message

/-- Why a call failed, with the address it went to. -/
inductive CallError where
  | commandFailed (url : String) (cause : TransportError)
  | queryFailed (url : String) (cause : QueryFailure)
deriving DecidableEq, Repr

namespace CallError

/-- The wording of a call's error. -/
def message : CallError → String
  | commandFailed url cause => "Command failed for " ++ url ++ ": " ++ cause.message
  | queryFailed url cause => "Query failed for " ++ url ++ ": " ++ cause.message

/-- The address that the call went to. -/
def url : CallError → String
  | commandFailed url _ | queryFailed url _ => url

/-- The call was a command. -/
def isCommandFailure : CallError → Bool
  | commandFailed _ _ => true
  | queryFailed _ _ => false

/-- The call was a query. -/
def isQueryFailure : CallError → Bool
  | commandFailed _ _ => false
  | queryFailed _ _ => true

/-- The causes behind the error, from the nearest to the last. The failure of a query on its way
is named twice: as the failure of the query, and as that of the transport. -/
def sources : CallError → List String
  | commandFailed _ cause => [cause.message]
  | queryFailed _ (.transport cause) => [cause.message, cause.message]
  | queryFailed _ (.document cause) => [cause.message]

end CallError

/-- Reads the body that answers a query. -/
def Query.readBody : Query → String → Except DocumentError Outcome
  | deviceInfo, body => (Document.parse DeviceInfo body).map .deviceInfo
  | activeApp, body => (Document.parse ActiveApp body).map .activeApp
  | apps, body => (Document.parse AppList body).map fun list => .apps list.apps
  | player, body => (Document.parse PlayerStatus body).map .player

namespace Call

/-- The request that a call makes. -/
def request (device : Device) : Call → Request
  | pressKey code => ⟨.post, device.keypressUrl code⟩
  | press key => ⟨.post, device.keypressUrl key.code⟩
  | launchApp appId => ⟨.post, device.launchUrl appId⟩
  | query q => ⟨.get, device.queryUrl q⟩

/-- What an answer to the request of a call means. -/
def conclude (device : Device) (call : Call) (answer : Answer) : Except CallError Outcome :=
  let url := (call.request device).url
  match call with
  | pressKey _ | press _ | launchApp _ =>
    match answer with
    | .ok _ => .ok .done
    | .error cause => .error (.commandFailed url cause)
  | query q =>
    match answer with
    | .ok body => (q.readBody body).mapError fun cause => .queryFailed url (.document cause)
    | .error cause => .error (.queryFailed url (.transport cause))

/-- Makes a call. -/
def perform {m : Type → Type} [Monad m] (transport : Transport m) (device : Device)
    (call : Call) : m (Except CallError Outcome) := do
  let answer ← transport (call.request device)
  pure (call.conclude device answer)

end Call

end StreamRemote
