import StreamRemote.Key

/-!
# Devices and their addresses

A device listens on a port of a host, and each thing that can be asked of it has an address of
its own. Addresses are put together from their parts as they are: nothing in a part is escaped.
-/

namespace StreamRemote

/-- A device on the network. -/
structure Device where
  host : String
  port : UInt16
deriving DecidableEq, Repr

/-- What a device can be asked about. -/
inductive Query where
  | deviceInfo
  | activeApp
  | apps
  | player
deriving DecidableEq, Repr

/-- The path of a query. -/
def Query.path : Query → String
  | deviceInfo => "query/device-info"
  | activeApp => "query/active-app"
  | apps => "query/apps"
  | player => "query/media-player"

namespace Device

/-- The port on which devices listen unless told otherwise. -/
def defaultPort : UInt16 := 8060

/-- What all addresses of a device begin with. -/
def base (device : Device) : String :=
  "http://" ++ device.host ++ ":" ++ toString device.port.toNat

/-- The address of a path. -/
def url (device : Device) (path : String) : String :=
  device.base ++ "/" ++ path

/-- The path under which keys are pressed. -/
def keypressPath : String := "keypress/"

/-- The path under which apps are launched. -/
def launchPath : String := "launch/"

/-- Where a key is pressed. -/
def keypressUrl (device : Device) (code : String) : String :=
  device.url keypressPath ++ code

/-- Where an app is launched. -/
def launchUrl (device : Device) (appId : String) : String :=
  device.url launchPath ++ appId

/-- Where a query is answered. -/
def queryUrl (device : Device) (query : Query) : String :=
  device.url query.path

end Device

end StreamRemote
