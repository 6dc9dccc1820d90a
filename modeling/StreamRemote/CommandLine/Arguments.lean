import StreamRemote.CommandLine.Usage
import StreamRemote.Text.Numeral
import StreamRemote.Text.Split

/-!
# Reading the command line

A command line is a list of arguments: options first, then a subcommand with its operand. It is
read from left to right, and the first thing that is wrong with it is reported.

The value of an option may be attached to it or stand in the next argument. In the latter case it
is checked only when the next option is met or the whole line is read, the subcommand with its
operand included; until then it is *pending*. Behind `--` every argument is an operand.
-/

namespace StreamRemote

namespace CommandLine

/-- What a command line says. Options that are not given have their usual values. -/
structure Arguments where
  host : Option String
  port : UInt16
  timeout : UInt64
  logLevel : String
  command : Command
deriving DecidableEq, Repr

/-- The time to wait for a device, in seconds, unless told otherwise. -/
def defaultTimeout : UInt64 := 10

/-- What is logged unless told otherwise. -/
def defaultLogLevel : String := "warn"

/-! ## The forms of an argument -/

/-- How an argument is written. -/
inductive Form where
  /-- `--` alone -/
  | separator
  /-- `--name` or `--name=value` -/
  | long (name : String) (value : Option String)
  /-- letters behind a single dash -/
  | short (letters : List Char)
  | word
deriving DecidableEq, Repr

/-- The form of an argument. A dash alone is a word. -/
def Form.ofArgument (arg : String) : Form :=
  match arg.toList with
  | ['-', '-'] => .separator
  | '-' :: '-' :: rest =>
    .long (String.ofList (rest.takeWhile (· ≠ '=')))
      (if rest.contains '=' then some (String.ofList ((rest.dropWhile (· ≠ '=')).drop 1)) else none)
  | '-' :: c :: rest => .short (c :: rest)
  | _ => .word

/-! ## The values of options -/

/-- The options given so far. -/
structure Given where
  host : Option String
  port : Option UInt16
  timeout : Option UInt64
  logLevel : Option String
deriving DecidableEq, Repr

namespace Given

/-- Nothing is given. -/
def nothing : Given := ⟨none, none, none, none⟩

/-- The option has been given. -/
def has (given : Given) : Setting → Bool
  | .host => given.host.isSome
  | .port => given.port.isSome
  | .timeout => given.timeout.isSome
  | .logLevel => given.logLevel.isSome

/-- What a command line says with these options and a command. -/
def complete (given : Given) (command : Command) : Arguments where
  host := given.host
  port := given.port.getD Device.defaultPort
  timeout := given.timeout.getD defaultTimeout
  logLevel := given.logLevel.getD defaultLogLevel
  command := command

end Given

/-- Reads a port: any whole number, as long as it is one that a port can have. -/
def readPort (value : String) : Except String UInt16 :=
  match Text.readInt64 value with
  | .error e => .error e.message
  | .ok n =>
    if 0 ≤ n ∧ n ≤ 65535 then .ok (UInt16.ofNat n.toNat)
    else .error (toString n ++ " is not in 0..=65535")

/-- Gives an option a value. -/
def Given.give (given : Given) (setting : Setting) (value : String) :
    Except UsageError Given :=
  if given.has setting then .error (.repeated setting)
  else
    match setting with
    | .host => .ok { given with host := some value }
    | .logLevel => .ok { given with logLevel := some value }
    | .port =>
      match readPort value with
      | .ok port => .ok { given with port := some port }
      | .error reason => .error (.invalidValue .port value reason)
    | .timeout =>
      match Text.readWord64 value with
      | .ok timeout => .ok { given with timeout := some timeout }
      | .error e => .error (.invalidValue .timeout value e.message)

/-! ## Options -/

/-- An option whose value is not checked yet, or has not come yet. -/
structure Pending where
  setting : Setting
  value : Option String
deriving DecidableEq, Repr

/-- How far the options are read. -/
structure Progress where
  given : Given
  pending : Option Pending
deriving DecidableEq, Repr

namespace Progress

/-- Nothing is read yet. -/
def start : Progress := ⟨.nothing, none⟩

/-- The options given, once the pending one is checked. -/
def settle (progress : Progress) : Except UsageError Given :=
  match progress.pending with
  | none => .ok progress.given
  | some ⟨setting, none⟩ => .error (.missingValue setting)
  | some ⟨setting, some value⟩ => progress.given.give setting value

/-- Meets an option whose value is to come. -/
def await (progress : Progress) (setting : Setting) : Except UsageError Progress := do
  let given ← progress.settle
  pure ⟨given, some ⟨setting, none⟩⟩

/-- Meets an option with its value attached. -/
def attach (progress : Progress) (setting : Setting) (value : String) :
    Except UsageError Progress := do
  let given ← progress.settle
  let given ← given.give setting value
  pure ⟨given, none⟩

/-- Meets a flag. It ends the reading, but what is pending is checked first. -/
def react {α : Type} (progress : Progress) : Flag → Except UsageError α
  | .help => do
    let _ ← progress.settle
    throw (.help .brief)
  | .version => do
    let _ ← progress.settle
    throw .version

/-- Meets an option by its name. -/
def long (progress : Progress) (name : String) (value : Option String) :
    Except UsageError Progress :=
  match Setting.all.find? (·.long == name), value with
  | some setting, none => progress.await setting
  | some setting, some value => progress.attach setting value
  | none, value =>
    match [Flag.help, .version].find? (·.long == name), value with
    | none, _ => .error (.unknownArgument ("--" ++ name))
    | some flag, some value => .error (.unexpectedValue flag value)
    | some .help, none => do
      let _ ← progress.settle
      throw (.help .full)
    | some .version, none => progress.react .version

/-- Meets an option by its letter. What follows the letter is its value, behind a `=` or not. -/
def short (progress : Progress) : List Char → Except UsageError Progress
  | [] => .ok progress
  | c :: rest =>
    match Setting.all.find? (·.short? == some c), rest with
    | some setting, [] => progress.await setting
    | some setting, '=' :: value => progress.attach setting (String.ofList value)
    | some setting, value => progress.attach setting (String.ofList value)
    | none, _ =>
      match [Flag.help, .version].find? (·.short == c) with
      | some flag => progress.react flag
      | none => .error (.unknownArgument ("-" ++ String.singleton c))

/-- Meets a word behind an option whose value is to come. -/
def value? (progress : Progress) (word : String) : Option Progress :=
  match progress.pending with
  | some ⟨setting, none⟩ => some ⟨progress.given, some ⟨setting, some word⟩⟩
  | _ => none

end Progress

/-! ## Subcommands -/

namespace Subcommand

/-- The command of a subcommand with its operand, if it has what it needs. -/
def command? : Subcommand → Option String → Option Command
  | key, operand => operand.map .key
  | launch, operand => operand.map .launch
  | info, _ => some .info
  | activeApp, _ => some .activeApp
  | apps, _ => some .apps
  | player, _ => some .player

/-- The subcommand has an operand. -/
def takesOperand : Subcommand → Bool
  | key | launch => true
  | info | activeApp | apps | player => false

/-- Meets an operand. -/
def addOperand (subcommand : Subcommand) (operand : Option String) (word : String) :
    Except UsageError (Option String) :=
  if subcommand.takesOperand && operand.isNone then .ok (some word)
  else .error (.unknownArgument word)

/-- Meets an option; only help can be asked for. -/
def option {α : Type} (subcommand : Subcommand) : Form → Except UsageError α
  | .long name value =>
    if name = Flag.help.long then
      match value with
      | none => .error (.help (.subcommand subcommand))
      | some value => .error (.unexpectedValue .help value)
    else .error (.unknownArgument ("--" ++ name))
  | .short (c :: _) =>
    if c = Flag.help.short then .error (.help (.subcommand subcommand))
    else .error (.unknownArgument ("-" ++ String.singleton c))
  | .short [] | .separator | .word => .error .missingOperand

/-- Reads the arguments behind a subcommand; `literal` is set behind `--`. -/
def read (subcommand : Subcommand) (literal : Bool) (operand : Option String) :
    List String → Except UsageError Command
  | [] =>
    match subcommand.command? operand with
    | some command => .ok command
    | none => .error .missingOperand
  | arg :: rest =>
    match literal, Form.ofArgument arg with
    | true, _ | false, .word => do
      let operand ← subcommand.addOperand operand arg
      read subcommand literal operand rest
    | false, .separator => read subcommand true operand rest
    | false, form => subcommand.option form

end Subcommand

/-- Reads the words behind the word for help; each names a topic within the one before. -/
def readHelp : List String → UsageError
  | [] => .help .full
  | word :: rest =>
    let topic :=
      if word = helpName then some .help else (Subcommand.ofName? word).map .subcommand
    match topic, rest with
    | none, _ => .unknownSubcommand word
    | some topic, [] => .help topic
    | some _, word :: _ => .unknownSubcommand word

/-! ## The whole line -/

/-- What there is to say at the end of a command line without a subcommand. -/
def withoutSubcommand (given : Given) : UsageError :=
  if Setting.all.any given.has then .missingSubcommand else .nothingGiven

/-- Meets a word that is no value. -/
def readWord (progress : Progress) (literal : Bool) (word : String) (rest : List String) :
    Except UsageError Arguments :=
  if literal then
    if word = helpName ∨ (Subcommand.ofName? word).isSome then .error (.unknownArgument word)
    else .error (.unknownSubcommand word)
  else if word = helpName then .error (readHelp rest)
  else
    match Subcommand.ofName? word with
    | none => .error (.unknownSubcommand word)
    | some subcommand => do
      let command ← subcommand.read false none rest
      let given ← progress.settle
      pure (given.complete command)

/-- Reads arguments from some point on; `literal` is set behind `--`. -/
def readFrom (progress : Progress) (literal : Bool) : List String → Except UsageError Arguments
  | [] => do
    let given ← progress.settle
    throw (withoutSubcommand given)
  | arg :: rest =>
    match literal, Form.ofArgument arg with
    | true, _ => readWord progress true arg rest
    | false, .separator => readFrom progress true rest
    | false, .long name value => do
      let progress ← progress.long name value
      readFrom progress false rest
    | false, .short letters => do
      let progress ← progress.short letters
      readFrom progress false rest
    | false, .word =>
      match progress.value? arg with
      | some progress => readFrom progress false rest
      | none => readWord progress false arg rest

/-- Reads a command line. -/
def read (args : List String) : Except UsageError Arguments :=
  readFrom .start false args

end CommandLine

end StreamRemote
