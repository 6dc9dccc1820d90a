import StreamRemote.CommandLine.Arguments
import StreamRemote.LogFilter.Filter

/-!
# Settings

What the program works with: the command line and some environment variables together. The host
of the command line wins over that of the environment, and for all else the environment wins.
What is not in force is not looked at. `Settings.resolve` gives only settings that can be used: a
host that is not blank, a port and a timeout other than zero, and a log filter that can be read.
-/

namespace StreamRemote

/-- What the program works with. The timeout is in seconds. -/
structure Settings where
  host : String
  port : UInt16
  timeout : UInt64
  logLevel : String
  command : Command
deriving DecidableEq, Repr

/-- An environment: the values of its variables, as far as they are set. -/
abbrev Environment := String → Option String

/-- Why there are no settings. -/
inductive SettingsError where
  /-- a variable does not hold a number that it could -/
  | invalidVariable (name : String) (cause : Text.NumeralError)
  | noHost
  | zeroPort
  | zeroTimeout
  | invalidLogFilter (cause : InvalidLogFilter)
deriving DecidableEq, Repr

/-- The error with its causes. -/
def SettingsError.report : SettingsError → Report
  | invalidVariable name cause =>
    ⟨"Invalid " ++ name ++ " environment variable", [cause.message]⟩
  | noHost => ⟨"No device host given; pass --host or set ROKU_HOST", []⟩
  | zeroPort => ⟨"Port must not be 0", []⟩
  | zeroTimeout => ⟨"Timeout must be positive", []⟩
  | invalidLogFilter cause => ⟨cause.message, []⟩

namespace Settings

/-- The variable that names the host. -/
def hostVariable : String := "ROKU_HOST"

/-- The variable that gives the port. -/
def portVariable : String := "ROKU_PORT"

/-- The variable that gives the timeout. -/
def timeoutVariable : String := "ROKU_TIMEOUT"

/-- The variables that give the log filter, the first one that is set. -/
def logLevelVariables : List String := ["ROKU_LOG_LEVEL", "RUST_LOG"]

/-- A number from a variable, if that is set, and else from the command line. -/
def override {α : Type} (read : String → Except Text.NumeralError α) (env : Environment)
    (name : String) (given : α) : Except SettingsError α :=
  match env name with
  | none => .ok given
  | some text => (read text).mapError (.invalidVariable name)

/-- The settings of a command line in an environment. -/
def resolve (args : CommandLine.Arguments) (env : Environment) :
    Except SettingsError Settings := do
  let host := args.host <|> env hostVariable
  let port ← override Text.readWord16 env portVariable args.port
  let timeout ← override Text.readWord64 env timeoutVariable args.timeout
  let logLevel := (logLevelVariables.findSome? env).getD args.logLevel
  match host with
  | none => throw .noHost
  | some host =>
    if host.toList.all Text.isBlank then throw .noHost
    else if port = 0 then throw .zeroPort
    else if timeout = 0 then throw .zeroTimeout
    else
      match LogFilter.parse logLevel with
      | .error cause => throw (.invalidLogFilter cause)
      | .ok _ => pure { host, port, timeout, logLevel, command := args.command }

/-- The device to talk to. -/
def device (settings : Settings) : Device :=
  ⟨settings.host, settings.port⟩

/-- How long to wait for the device: the timeout, in place of both of the standard times. -/
def timeouts (settings : Settings) : Timeouts :=
  let millis := settings.timeout.toNat * 1000
  (Timeouts.standard.withConnect millis).withRead millis

end Settings

end StreamRemote
