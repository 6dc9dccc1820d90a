import StreamRemote.Network
import StreamRemote.Session

/-!
# The program

A session over the network, with the arguments and the environment of the process.
-/

open StreamRemote

/-- The environment of the process, as far as settings look at it. -/
def processEnvironment : IO Environment := do
  let names := [Settings.hostVariable, Settings.portVariable, Settings.timeoutVariable] ++
    Settings.logLevelVariables
  let values ← names.mapM fun name => do
    let value ← IO.getEnv name
    pure (name, value)
  pure fun name => (values.lookup name).join

/-- The network, as the settings say it is to be used. -/
def reachDevice (settings : Settings) : Transport IO :=
  Network.transport settings.device settings.timeouts

def main (args : List String) : IO UInt32 := do
  let ending ← Session.run reachDevice args (← processEnvironment)
  if let some text := ending.output? then IO.println text
  if let some text := ending.complaint? then IO.eprintln text
  pure (UInt32.ofNat ending.exitCode)
