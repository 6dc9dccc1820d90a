import StreamRemote.Call
import StreamRemote.Display
import StreamRemote.Report

/-!
# Commands

What a user can ask for. Each command is one call to a device; what comes of it is either a text
to print or a report that says what failed, beginning with the command itself.
-/

namespace StreamRemote

/-- What a user asks for. -/
inductive Command where
  | key (code : String)
  | launch (appId : String)
  | info
  | activeApp
  | apps
  | player
deriving DecidableEq, Repr

namespace Command

/-- The call that carries a command out. The code of a key goes out in its one proper form. -/
def call : Command → Call
  | key code => .pressKey (Key.normalize code)
  | launch appId => .launchApp appId
  | info => .query .deviceInfo
  | activeApp => .query .activeApp
  | apps => .query .apps
  | player => .query .player

/-- What failed when the command did. -/
def failure : Command → String
  | key code => "Failed to press " ++ Key.normalize code
  | launch appId => "Failed to launch app " ++ appId
  | info => "Failed to query device info"
  | activeApp => "Failed to query active app"
  | apps => "Failed to query apps"
  | player => "Failed to query media player"

/-- What there is to tell a user about a call. -/
def conclude (command : Command) (result : Except CallError Outcome) : Except Report String :=
  match result with
  | .ok outcome => .ok outcome.render
  | .error e => .error ⟨command.failure, e.message :: e.sources⟩

/-- Carries a command out. -/
def run {m : Type → Type} [Monad m] (transport : Transport m) (device : Device)
    (command : Command) : m (Except Report String) := do
  let result ← command.call.perform transport device
  pure (command.conclude result)

end Command

end StreamRemote
