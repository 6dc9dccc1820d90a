import StreamRemote.Settings

/-!
# Sessions

A session is one run of the program, from the words of its command line to what is printed at the
end. The words are read first, then the settings are put together, and only with usable settings is
a device talked to. How the device is reached is left open, as it is for a single call.
-/

namespace StreamRemote

/-- How a session ends. -/
inductive Ending where
  /-- the words give no command -/
  | misused (e : CommandLine.UsageError)
  /-- there are no settings to work with -/
  | unsettled (e : SettingsError)
  /-- the command was tried and failed -/
  | failed (report : Report)
  /-- the command was carried out, and this is what there is to tell -/
  | told (text : String)
deriving DecidableEq, Repr

namespace Ending

/-- What there is to tell about a command. -/
def ofResult : Except Report String → Ending
  | .ok text => told text
  | .error report => failed report

/-- What is printed as the result, if anything is. -/
def output? : Ending → Option String
  | misused e => if e.exitCode = 0 then some e.message else none
  | unsettled _ | failed _ => none
  | told text => if text.isEmpty then none else some text

/-- What is printed as a complaint, if anything is. -/
def complaint? : Ending → Option String
  | misused e => if e.exitCode = 0 then none else some e.message
  | unsettled e => some e.report.render
  | failed report => some report.render
  | told _ => none

/-- The exit code of the program. -/
def exitCode : Ending → Nat
  | misused e => e.exitCode
  | unsettled _ | failed _ => 1
  | told _ => 0

end Ending

namespace Session

/-- Runs the program. The device of some settings is reached by `connect`. -/
def run {m : Type → Type} [Monad m] (connect : Settings → Transport m) (words : List String)
    (env : Environment) : m Ending :=
  match CommandLine.read words with
  | .error e => pure (.misused e)
  | .ok args =>
    match Settings.resolve args env with
    | .error e => pure (.unsettled e)
    | .ok settings => do
      let result ← settings.command.run (connect settings) settings.device
      pure (.ofResult result)

end Session

end StreamRemote
