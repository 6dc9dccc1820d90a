import StreamRemote.Document.Basic
import StreamRemote.Playback.Millis
import StreamRemote.Playback.State

/-!
# The player

The root `player` tells what the player does, and what it plays: where the media come from, how
they are coded, how far they are loaded, and where in them the player is.
-/

namespace StreamRemote

open Xml

/-- The app that media come from. -/
structure Plugin where
  id : Option String
  name : Option String
  bandwidth : Option String
deriving DecidableEq, Repr

/-- How media are coded. -/
structure MediaFormat where
  audio : Option String
  video : Option String
  captions : Option String
  drm : Option String
deriving DecidableEq, Repr

/-- How far media are loaded. -/
structure Buffering where
  current : Option UInt64
  max : Option UInt64
  target : Option UInt64
deriving DecidableEq, Repr

/-- What a player tells about itself. -/
structure PlayerStatus where
  state : String
  error : Option Bool
  plugin : Option Plugin
  format : Option MediaFormat
  buffering : Option Buffering
  position : Option String
  duration : Option String
  runtime : Option String
  isLive : Option Bool
deriving DecidableEq, Repr

namespace Plugin

/-- The fields of a plugin. -/
inductive Field where
  | id
  | name
  | bandwidth
deriving DecidableEq, Repr

/-- How a plugin is written. -/
def schema : Schema Field where
  fields := [.id, .name, .bandwidth]
  key
    | .id => "@id"
    | .name => "@name"
    | .bandwidth => "@bandwidth"
  Value _ := String
  read _ := Source.string

/-- Reads an element as a plugin. -/
def read (tag : Tag) (inner : Content) : Except ReadError Plugin :=
  (schema.readElement tag inner).map fun draft => ⟨draft .id, draft .name, draft .bandwidth⟩

end Plugin

namespace MediaFormat

/-- The fields of a format. -/
inductive Field where
  | audio
  | video
  | captions
  | drm
deriving DecidableEq, Repr

/-- How a format is written. -/
def schema : Schema Field where
  fields := [.audio, .video, .captions, .drm]
  key
    | .audio => "@audio"
    | .video => "@video"
    | .captions => "@captions"
    | .drm => "@drm"
  Value _ := String
  read _ := Source.string

/-- Reads an element as a format. -/
def read (tag : Tag) (inner : Content) : Except ReadError MediaFormat :=
  (schema.readElement tag inner).map fun draft =>
    ⟨draft .audio, draft .video, draft .captions, draft .drm⟩

end MediaFormat

namespace Buffering

/-- The fields of a buffering state. -/
inductive Field where
  | current
  | max
  | target
deriving DecidableEq, Repr

/-- How a buffering state is written. -/
def schema : Schema Field where
  fields := [.current, .max, .target]
  key
    | .current => "@current"
    | .max => "@max"
    | .target => "@target"
  Value _ := UInt64
  read _ := Source.number

/-- Reads an element as a buffering state. -/
def read (tag : Tag) (inner : Content) : Except ReadError Buffering :=
  (schema.readElement tag inner).map fun draft => ⟨draft .current, draft .max, draft .target⟩

end Buffering

namespace PlayerStatus

/-- The fields of the document. -/
inductive Field where
  | state
  | error
  | plugin
  | format
  | buffering
  | position
  | duration
  | runtime
  | isLive
deriving DecidableEq, Repr

/-- What a field holds. -/
def Field.Value : Field → Type
  | state | position | duration | runtime => String
  | error | isLive => Bool
  | plugin => Plugin
  | format => MediaFormat
  | buffering => Buffering

/-- How the document is written. -/
def schema : Schema Field where
  fields :=
    [.state, .error, .plugin, .format, .buffering, .position, .duration, .runtime, .isLive]
  key
    | .state => "@state"
    | .error => "@error"
    | .plugin => "plugin"
    | .format => "format"
    | .buffering => "buffering"
    | .position => "position"
    | .duration => "duration"
    | .runtime => "runtime"
    | .isLive => "is_live"
  Value := Field.Value
  read
    | .state | .position | .duration | .runtime => Source.string
    | .error | .isLive => Source.boolean
    | .plugin => Source.record Plugin.read
    | .format => Source.record MediaFormat.read
    | .buffering => Source.record Buffering.read

/-- The player status of a draft; the state has to be there. -/
def ofDraft (draft : schema.Draft) : Except ReadError PlayerStatus := do
  let state ← draft.need .state
  pure {
    state
    error := draft .error
    plugin := draft .plugin
    format := draft .format
    buffering := draft .buffering
    position := draft .position
    duration := draft .duration
    runtime := draft .runtime
    isLive := draft .isLive
  }

instance : Document PlayerStatus where
  root := "player"
  read tag inner := do
    let draft ← schema.readElement tag inner
    ofDraft draft

/-- What the player does. -/
def playbackState (status : PlayerStatus) : PlaybackState :=
  .ofWord status.state

/-- The player plays. -/
def isPlaying (status : PlayerStatus) : Bool :=
  status.playbackState == .playing

/-- How far the player is, in milliseconds. -/
def positionMillis (status : PlayerStatus) : Option UInt64 :=
  status.position.bind Millis.parse?

/-- How long the media are, in milliseconds. -/
def durationMillis (status : PlayerStatus) : Option UInt64 :=
  status.duration.bind Millis.parse?

/-- How long the media run, in milliseconds. -/
def runtimeMillis (status : PlayerStatus) : Option UInt64 :=
  status.runtime.bind Millis.parse?

end PlayerStatus

end StreamRemote
