import StreamRemote.Call

/-!
# What a user sees

The answers of a device as text: some lines about the device, one line about the app in the
foreground or the player, and one line for each app in a list. A command that was carried out is
answered by the empty text.
-/

namespace StreamRemote

/-- Fills a text up with blanks behind it to a width; a longer text stays as it is. -/
def padRight (width : Nat) (s : String) : String :=
  s ++ String.ofList (List.replicate (width - s.length) ' ')

/-- Lines joined to a text. -/
def joinLines (lines : List String) : String :=
  String.intercalate "\n" lines

namespace DeviceInfo

/-- A line of details: a label and a value behind it. -/
def detail (label value : String) : String :=
  "  " ++ padRight 9 (label ++ ":") ++ value

/-- The details, as far as they are known. -/
def details (info : DeviceInfo) : List (String × Option String) :=
  [("Model", info.modelName),
    ("Serial", some info.serialNumber),
    ("Software", info.softwareVersion),
    ("Network", info.networkType),
    ("Power", info.powerMode),
    ("Uptime", info.uptime.map fun seconds => toString seconds.toNat ++ "s")]

/-- The text about a device. -/
def render (info : DeviceInfo) : String :=
  joinLines <|
    (info.displayName ++ " (" ++ info.modelNumber ++ ")") ::
      info.details.filterMap fun (label, value) => value.map (detail label)

end DeviceInfo

namespace App

/-- The name of an app with its id, if it has one. -/
def label (app : App) : String :=
  match app.id with
  | some id => app.name ++ " [" ++ id ++ "]"
  | none => app.name

/-- The line of an app in a list: id, type and name in columns. -/
def row (app : App) : String :=
  padRight 16 (app.id.getD "-") ++ " " ++ padRight 5 (app.kind.getD "-") ++ " " ++ app.name

/-- The text of a list of apps. -/
def renderList (apps : List App) : String :=
  joinLines (apps.map row)

end App

/-- The text about the app in the foreground. -/
def ActiveApp.render (active : ActiveApp) : String :=
  match active.screensaver with
  | some screensaver => active.app.label ++ " (screensaver: " ++ screensaver.label ++ ")"
  | none => active.app.label

namespace PlayerStatus

/-- A duration in whole seconds. -/
def seconds (millis : UInt64) : String :=
  toString (millis.toNat / 1000) ++ "s"

/-- The app that plays, if it tells its name. -/
def renderPlugin (status : PlayerStatus) : String :=
  match status.plugin.bind Plugin.name with
  | some name => " in " ++ name
  | none => ""

/-- How far the player is, and how far it can go. -/
def renderTime (status : PlayerStatus) : String :=
  match status.positionMillis, status.durationMillis with
  | some position, some duration => " at " ++ seconds position ++ " / " ++ seconds duration
  | some position, none => " at " ++ seconds position
  | none, _ => ""

/-- The text about the player. -/
def render (status : PlayerStatus) : String :=
  status.playbackState.describe ++ status.renderPlugin ++ status.renderTime

end PlayerStatus

/-- The text of an answer. -/
def Outcome.render : Outcome → String
  | done => ""
  | deviceInfo info => info.render
  | activeApp active => active.render
  | apps list => App.renderList list
  | player status => status.render

end StreamRemote
