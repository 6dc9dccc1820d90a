import StreamRemote.Command
import StreamRemote.Text.ControlSequence
import StreamRemote.Text.Split

/-!
# The words of the command line

The options and subcommands of the program, what they are called, and what there is to say when a
command line uses them wrongly or asks for help.

What is said is for a terminal, so nothing in it that comes from the command line may steer the
terminal: only what a terminal would show of it is repeated.
-/

namespace StreamRemote

namespace CommandLine

/-- The name of the program. -/
def programName : String := "roku"

/-- The version of the program. -/
def version : String := "0.1.0"

/-- The program in one line. -/
def summary : String := "Control a Roku device over its local ECP HTTP API"

/-- The title over the whole help text. -/
def title : String := "Roku remote control"

/-- The options with a value. -/
inductive Setting where
  | host
  | port
  | timeout
  | logLevel
deriving DecidableEq, Repr

namespace Setting

/-- All options, in the order of the help text. -/
def all : List Setting := [host, port, timeout, logLevel]

/-- The name of an option behind two dashes. -/
def long : Setting → String
  | host => "host"
  | port => "port"
  | timeout => "timeout"
  | logLevel => "log-level"

/-- The letter of an option behind one dash. -/
def short? : Setting → Option Char
  | host | logLevel => none
  | port => some 'p'
  | timeout => some 't'

/-- An option with a name for its value. -/
def usage : Setting → String
  | host => "--host <HOST>"
  | port => "--port <PORT>"
  | timeout => "--timeout <TIMEOUT>"
  | logLevel => "--log-level <LOG_LEVEL>"

end Setting

/-- The options without a value, which end the reading of a command line. -/
inductive Flag where
  | help
  | version
deriving DecidableEq, Repr

namespace Flag

/-- The name of a flag behind two dashes. -/
def long : Flag → String
  | help => "help"
  | version => "version"

/-- The letter of a flag behind one dash. -/
def short : Flag → Char
  | help => 'h'
  | version => 'V'

end Flag

/-- The subcommands. -/
inductive Subcommand where
  | key
  | launch
  | info
  | activeApp
  | apps
  | player
deriving DecidableEq, Repr

namespace Subcommand

/-- All subcommands. -/
def all : List Subcommand := [key, launch, info, activeApp, apps, player]

/-- The word for a subcommand. -/
def name : Subcommand → String
  | key => "key"
  | launch => "launch"
  | info => "info"
  | activeApp => "active-app"
  | apps => "apps"
  | player => "player"

/-- A subcommand in one line. -/
def summary : Subcommand → String
  | key => "Press a key, e.g. `Home`, `VolumeUp` or `Lit_a`"
  | launch => "Launch an app by channel id"
  | info => "Show device information"
  | activeApp => "Show the app in the foreground"
  | apps => "List installed apps"
  | player => "Show media player status"

/-- The subcommand of a word. -/
def ofName? (word : String) : Option Subcommand :=
  all.find? (·.name == word)

end Subcommand

/-- The word that asks for help. -/
def helpName : String := "help"

/-- What help is asked for. -/
inductive HelpTopic where
  /-- the program, in short -/
  | brief
  /-- the program, in full -/
  | full
  | subcommand (subcommand : Subcommand)
  /-- the asking for help itself -/
  | help
deriving DecidableEq, Repr

/-- The first line of the help. -/
def HelpTopic.firstLine : HelpTopic → String
  | brief => CommandLine.summary
  | full => title
  | subcommand s => s.summary
  | help => "Print this message or the help of the given subcommand(s)"

/-- Why a command line gives no command. -/
inductive UsageError where
  | unknownArgument (arg : String)
  | unknownSubcommand (word : String)
  | missingSubcommand
  /-- not even an option is given -/
  | nothingGiven
  | missingOperand
  | missingValue (setting : Setting)
  | invalidValue (setting : Setting) (value reason : String)
  | unexpectedValue (flag : Flag) (value : String)
  | repeated (setting : Setting)
  | help (topic : HelpTopic)
  | version
deriving DecidableEq, Repr

namespace UsageError

/-- What is repeated of a word of the command line. -/
def shown (word : String) : String :=
  String.ofList (Text.ControlSequence.strip word.toList)

/-- What is printed, up to the end of its first line or further. -/
def text : UsageError → String
  | unknownArgument arg => "error: unexpected argument '" ++ shown arg ++ "' found"
  | unknownSubcommand word => "error: unrecognized subcommand '" ++ shown word ++ "'"
  | missingSubcommand =>
    "error: '" ++ programName ++ "' requires a subcommand but one was not provided"
  | nothingGiven => HelpTopic.brief.firstLine
  | missingOperand => "error: the following required arguments were not provided:"
  | missingValue setting =>
    "error: a value is required for '" ++ setting.usage ++ "' but none was supplied"
  | invalidValue setting value reason =>
    "error: invalid value '" ++ shown value ++ "' for '" ++ setting.usage ++ "': " ++ reason
  | unexpectedValue flag value =>
    "error: unexpected value '" ++ shown value ++ "' for '--" ++ flag.long ++
      "' found; no more were expected"
  | repeated setting =>
    "error: the argument '" ++ setting.usage ++ "' cannot be used multiple times"
  | help topic => topic.firstLine
  | version => programName ++ " " ++ CommandLine.version

/-- The first line of what is printed. -/
def message (e : UsageError) : String :=
  String.ofList (Text.firstLine e.text.toList)

/-- The exit code of the program: what was asked for is no failure. -/
def exitCode : UsageError → Nat
  | help _ | version => 0
  | _ => 2

end UsageError

end CommandLine

end StreamRemote
