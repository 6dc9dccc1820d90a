import StreamRemote.Document.Basic

/-!
# Device info

The root `device-info` holds what a device tells about itself, each thing in an element of its
own. Three of them are always there: the device number, the serial number and the model number.
-/

namespace StreamRemote

open Xml

/-- What a device tells about itself. -/
structure DeviceInfo where
  udn : String
  serialNumber : String
  modelNumber : String
  deviceId : Option String
  vendorName : Option String
  modelName : Option String
  modelRegion : Option String
  isTv : Option Bool
  isStick : Option Bool
  friendlyDeviceName : Option String
  friendlyModelName : Option String
  defaultDeviceName : Option String
  userDeviceName : Option String
  userDeviceLocation : Option String
  softwareVersion : Option String
  softwareBuild : Option String
  networkType : Option String
  networkName : Option String
  wifiMac : Option String
  ethernetMac : Option String
  powerMode : Option String
  supportsSuspend : Option Bool
  uptime : Option UInt64
deriving DecidableEq, Repr

namespace DeviceInfo

/-- The fields of the document. -/
inductive Field where
  | udn
  | serialNumber
  | modelNumber
  | deviceId
  | vendorName
  | modelName
  | modelRegion
  | isTv
  | isStick
  | friendlyDeviceName
  | friendlyModelName
  | defaultDeviceName
  | userDeviceName
  | userDeviceLocation
  | softwareVersion
  | softwareBuild
  | networkType
  | networkName
  | wifiMac
  | ethernetMac
  | powerMode
  | supportsSuspend
  | uptime
deriving DecidableEq, Repr

/-- All fields, in the order in which what is missing is looked for. -/
def Field.all : List Field := [
  .udn, .serialNumber, .modelNumber, .deviceId, .vendorName, .modelName, .modelRegion, .isTv,
  .isStick, .friendlyDeviceName, .friendlyModelName, .defaultDeviceName, .userDeviceName,
  .userDeviceLocation, .softwareVersion, .softwareBuild, .networkType, .networkName, .wifiMac,
  .ethernetMac, .powerMode, .supportsSuspend, .uptime]

/-- The name of the element that holds a field. -/
def Field.key : Field → String
  | udn => "udn"
  | serialNumber => "serial-number"
  | modelNumber => "model-number"
  | deviceId => "device-id"
  | vendorName => "vendor-name"
  | modelName => "model-name"
  | modelRegion => "model-region"
  | isTv => "is-tv"
  | isStick => "is-stick"
  | friendlyDeviceName => "friendly-device-name"
  | friendlyModelName => "friendly-model-name"
  | defaultDeviceName => "default-device-name"
  | userDeviceName => "user-device-name"
  | userDeviceLocation => "user-device-location"
  | softwareVersion => "software-version"
  | softwareBuild => "software-build"
  | networkType => "network-type"
  | networkName => "network-name"
  | wifiMac => "wifi-mac"
  | ethernetMac => "ethernet-mac"
  | powerMode => "power-mode"
  | supportsSuspend => "supports-suspend"
  | uptime => "uptime"

/-- What a field holds. -/
def Field.kind : Field → Kind
  | isTv | isStick | supportsSuspend => .flag
  | uptime => .count
  | _ => .text

/-- How the document is written. -/
def schema : Schema Field where
  fields := Field.all
  key := Field.key
  Value f := f.kind.Value
  read f := f.kind.read

/-- The device info of a draft, if all is there that has to be. -/
def ofDraft (draft : schema.Draft) : Except ReadError DeviceInfo := do
  let udn ← draft.need .udn
  let serialNumber ← draft.need .serialNumber
  let modelNumber ← draft.need .modelNumber
  pure {
    udn, serialNumber, modelNumber
    deviceId := draft .deviceId
    vendorName := draft .vendorName
    modelName := draft .modelName
    modelRegion := draft .modelRegion
    isTv := draft .isTv
    isStick := draft .isStick
    friendlyDeviceName := draft .friendlyDeviceName
    friendlyModelName := draft .friendlyModelName
    defaultDeviceName := draft .defaultDeviceName
    userDeviceName := draft .userDeviceName
    userDeviceLocation := draft .userDeviceLocation
    softwareVersion := draft .softwareVersion
    softwareBuild := draft .softwareBuild
    networkType := draft .networkType
    networkName := draft .networkName
    wifiMac := draft .wifiMac
    ethernetMac := draft .ethernetMac
    powerMode := draft .powerMode
    supportsSuspend := draft .supportsSuspend
    uptime := draft .uptime
  }

instance : Document DeviceInfo where
  root := "device-info"
  read tag inner := do
    let draft ← schema.readElement tag inner
    ofDraft draft

/-- The name to show for a device: the first that is given of the name chosen by its owner, the
two names it gives itself and that of its model, and else its serial number. -/
def displayName (info : DeviceInfo) : String :=
  (info.userDeviceName <|> info.friendlyDeviceName <|> info.defaultDeviceName <|>
    info.modelName).getD info.serialNumber

/-- The device is known to be a television. -/
def isTelevision (info : DeviceInfo) : Bool :=
  info.isTv.getD false

/-- Whether the device is on, if it tells. -/
def isPoweredOn (info : DeviceInfo) : Option Bool :=
  info.powerMode.map (· == "PowerOn")

/-- No field is left out of the list. -/
theorem Field.mem_all (f : Field) : f ∈ Field.all := by
  cases f <;> decide

/-- Different fields have different keys. -/
theorem Field.key_injective {f g : Field} (h : f.key = g.key) : f = g := by
  have all : ∀ f ∈ Field.all, ∀ g ∈ Field.all, f.key = g.key → f = g := by decide +kernel
  exact all f (mem_all f) g (mem_all g) h

end DeviceInfo

end StreamRemote
