import StreamRemote.Text.Quoted

/-!
# What a player does

A player tells its state by a word. `PlaybackState.ofWord` knows seven of them and keeps every
other word as it is, so no two words give the same state.
-/

namespace StreamRemote

/-- What a player does. -/
inductive PlaybackState where
  | playing
  | paused
  | buffering
  | stopped
  | startup
  | closed
  | idle
  | unknown (word : String)
deriving DecidableEq, Repr

namespace PlaybackState

/-- The state that a word stands for. -/
def ofWord (word : String) : PlaybackState :=
  if word = "play" then playing
  else if word = "pause" then paused
  else if word = "buffer" then buffering
  else if word = "stop" then stopped
  else if word = "startup" then startup
  else if word = "close" then closed
  else if word = "none" then idle
  else unknown word

/-- The state in one line. -/
def describe : PlaybackState → String
  | playing => "Playing"
  | paused => "Paused"
  | buffering => "Buffering"
  | stopped => "Stopped"
  | startup => "Startup"
  | closed => "Closed"
  | idle => "Idle"
  | unknown word => "Unknown(" ++ Text.quoted word ++ ")"

end PlaybackState

end StreamRemote
