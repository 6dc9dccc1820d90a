import Mathlib.Logic.Function.Basic
import StreamRemote.Settings
import StreamRemote.Proofs.CommandLine.Options
import StreamRemote.Proofs.Text.Numeral

/-!
# Settings from the command line and from the environment

Each option has a variable of its own that says the same thing. The two are read by different means:
a port of the command line may have a minus sign, that of a variable may not. This makes no
difference, because the only port that can be written with a minus sign is 0, and 0 is refused.

Results:
1. `CommandLine.readPort_bind`: ports other than 0 are read alike.
2. `Settings.resolve_eq`: settings are collected first, and checked afterwards.
3. `Settings.ofCommandLine?_option_eq_variable`: an option of the command line and its variable are
   interchangeable.
-/

namespace StreamRemote

open CommandLine

/-! ## Ports -/

namespace CommandLine

variable {text : String}

/-- The numbers that a port can have are read in the same way among all numbers of 63 bits. -/
theorem readBelow_int64Half {s : List Char} (n : Nat) :
    Text.readBelow UInt16.size s = .ok n ↔
      Text.readBelow Text.int64Half s = .ok n ∧ n < UInt16.size :=
  Text.readBelow_iff_of_le (by decide) (by decide)

/-- A port without a minus sign is read as in a variable. -/
theorem readPort_unsigned (unsigned : text.toList.head? ≠ some '-') :
    (readPort text).toOption = (Text.readWord16 text).toOption := by
  have signed : Text.readInt64 text =
      (Text.readBelow Text.int64Half text.toList).map Int.ofNat := by
    rw [Text.readInt64]
    split
    · next h => simp [h] at unsigned
    · next h => simp [h] at unsigned
    · rfl
  rw [readPort, signed, Text.readWord16]
  cases narrow : Text.readBelow UInt16.size text.toList with
  | ok n =>
    obtain ⟨wide, fits⟩ := (readBelow_int64Half n).mp narrow
    have inside : 0 ≤ Int.ofNat n ∧ Int.ofNat n ≤ 65535 :=
      ⟨Int.natCast_nonneg n, Int.ofNat_le.mpr (Nat.le_of_lt_succ fits)⟩
    rw [wide]
    show (if _ then _ else _ : Except String UInt16).toOption = _
    rw [if_pos inside]
    rfl
  | error =>
    cases wide : Text.readBelow Text.int64Half text.toList with
    | error => rfl
    | ok n =>
      have outside : ¬ (0 ≤ Int.ofNat n ∧ Int.ofNat n ≤ 65535) := fun inside => by
        have fits := Nat.lt_succ_of_le (Int.ofNat_le.mp inside.2)
        rw [(readBelow_int64Half n).mpr ⟨wide, fits⟩] at narrow
        contradiction
      show (if _ then _ else _ : Except String UInt16).toOption = _
      rw [if_neg outside]
      rfl

/-- A port with a minus sign is none but 0, and none at all in a variable. -/
theorem readPort_minus {rest : List Char} (h : text.toList = '-' :: rest) {port : UInt16}
    (read : readPort text = .ok port) : port = 0 := by
  rw [readPort] at read
  split at read
  · contradiction
  · next n number =>
    split at read
    · next inside =>
      have negative : n ≤ 0 := by
        rw [Text.readInt64, h] at number
        split at number
        · contradiction
        · obtain ⟨amount, digits, rfl⟩ := map_ok number
          obtain ⟨m, -, lifted⟩ := bind_ok digits
          obtain rfl := Except.ok.inj lifted
          exact Int.neg_nonpos_of_nonneg (Int.natCast_nonneg m)
        · next unsigned => exact absurd rfl (unsigned rest)
      obtain rfl : n = 0 := Int.le_antisymm negative inside.1
      cases read
      rfl
    · contradiction

/-- As far as a port is not 0, it is the same one on the command line and in a variable. -/
theorem readPort_bind {α : Type} {f : UInt16 → Option α} (zero : f 0 = none) (text : String) :
    (readPort text).toOption.bind f = (Text.readWord16 text).toOption.bind f := by
  by_cases signed : text.toList.head? = some '-'
  · obtain ⟨rest, written⟩ := List.head?_eq_some_iff.mp signed
    have word : (Text.readWord16 text).toOption = none := by
      rw [Text.readWord16, written, Text.readBelow_minus]
      rfl
    rw [word, Option.bind_none, Option.bind_eq_none_iff]
    intro port read
    rw [readPort_minus written (toOption_eq_some_iff.mp read), zero]
  · rw [readPort_unsigned signed]

end CommandLine

/-! ## Options and variables -/

namespace CommandLine.Setting

/-- The variables that stand for an option, the first one that is set. -/
def variableNames : Setting → List String
  | host => [Settings.hostVariable]
  | port => [Settings.portVariable]
  | timeout => [Settings.timeoutVariable]
  | logLevel => Settings.logLevelVariables

/-- The variable that is named for an option. -/
def ownVariable : Setting → String
  | host => Settings.hostVariable
  | port => Settings.portVariable
  | timeout => Settings.timeoutVariable
  | logLevel => "ROKU_LOG_LEVEL"

theorem variableNames_eq_cons (setting : Setting) :
    setting.variableNames = setting.ownVariable :: setting.variableNames.tail := by
  cases setting <;> rfl

theorem ownVariable_not_mem {setting other : Setting} (different : other ≠ setting) :
    setting.ownVariable ∉ other.variableNames := by
  cases setting <;> cases other <;> first | contradiction | decide

end CommandLine.Setting

/-- No variable is set that settings look at. -/
def Environment.Bare (env : Environment) : Prop :=
  ∀ setting : Setting, ∀ name ∈ setting.variableNames, env name = none

namespace Settings

/-- The settings, if what is collected from all sources can be used. -/
def check (host : Option String) (port : UInt16) (timeout : UInt64) (logLevel : String)
    (command : Command) : Except SettingsError Settings :=
  match host with
  | none => throw .noHost
  | some host =>
    if host.toList.all Text.isBlank then throw .noHost
    else if port = 0 then throw .zeroPort
    else if timeout = 0 then throw .zeroTimeout
    else
      match LogFilter.parse logLevel with
      | .error cause => throw (.invalidLogFilter cause)
      | .ok _ => pure { host, port, timeout, logLevel, command }

theorem check_zeroPort (host : Option String) (timeout : UInt64) (logLevel : String)
    (command : Command) : (check host 0 timeout logLevel command).toOption = none := by
  unfold check
  split
  · rfl
  · split <;> rfl

/-- The settings of a command line in an environment, if there are any. -/
def ofCommandLine? (args : List String) (env : Environment) : Option Settings :=
  (CommandLine.read args).toOption.bind fun parsed => (resolve parsed env).toOption

/-- What the environment says about an option. -/
def said (env : Environment) (setting : Setting) : Option String :=
  setting.variableNames.findSome? env

theorem override_toOption {α : Type} (read : String → Except Text.NumeralError α)
    (env : Environment) (name : String) (given : α) :
    (override read env name given).toOption =
      (env name).elim (some given) fun text => (read text).toOption := by
  rw [override]
  cases env name with
  | none => rfl
  | some text => exact toOption_mapError _ _

/-- Settings are collected first, and checked afterwards. -/
theorem resolve_eq (args : Arguments) (env : Environment) :
    resolve args env =
      (override Text.readWord16 env portVariable args.port >>= fun port =>
        override Text.readWord64 env timeoutVariable args.timeout >>= fun timeout =>
          check (args.host <|> env hostVariable) port timeout
            ((said env .logLevel).getD args.logLevel) args.command) :=
  rfl

/-- The same for all that matters but the reason of a failure. -/
theorem resolve_toOption (args : Arguments) (env : Environment) :
    (resolve args env).toOption =
      ((said env .port).elim (some args.port) fun text => (Text.readWord16 text).toOption).bind
        fun port =>
      ((said env .timeout).elim (some args.timeout) fun text => (Text.readWord64 text).toOption).bind
        fun timeout =>
      (check (args.host <|> said env .host) port timeout
        ((said env .logLevel).getD args.logLevel) args.command).toOption := by
  have single (name : String) : [name].findSome? env = env name := by
    cases h : env name <;> simp [List.findSome?, h]
  simp only [resolve_eq, toOption_bind, override_toOption, said, Setting.variableNames, single]

variable {env : Environment}

theorem said_of_bare (bare : env.Bare) (setting : Setting) : said env setting = none :=
  List.findSome?_eq_none_iff.mpr (bare setting)

/-- Where nothing else is set, the variable of an option speaks of this option alone. -/
theorem said_update (bare : env.Bare) (setting : Setting) (value : String) (other : Setting) :
    said (Function.update env setting.ownVariable (some value)) other =
      if other = setting then some value else none := by
  by_cases same : other = setting
  · subst same
    rw [said, other.variableNames_eq_cons, if_pos rfl, List.findSome?_cons, Function.update_self]
  · rw [if_neg same, said, List.findSome?_eq_none_iff]
    intro name mem
    have another : name ≠ setting.ownVariable := fun e => Setting.ownVariable_not_mem same (e ▸ mem)
    rw [Function.update_of_ne another, bare other name mem]

/-- A value that is given with an option or in its variable, for a command line without it. -/
theorem resolve_set {given : Given} {setting : Setting} (fresh : given.has setting = false)
    (bare : env.Bare) (command : Command) (value : String) :
    ((setting.value? value).bind fun v =>
        (resolve ((given.set setting v).complete command) env).toOption) =
      (resolve (given.complete command)
        (Function.update env setting.ownVariable (some value))).toOption := by
  simp only [resolve_toOption, said_of_bare bare, said_update bare]
  cases setting with
  | host =>
    have absent : given.host = none := by simpa [Given.has] using fresh
    simp only [Given.complete, absent]
    rfl
  | port =>
    -- the two readers differ where they read 0, but this is refused in the end
    exact readPort_bind (check_zeroPort _ _ _ _) value
  | timeout => rfl
  | logLevel => rfl

/-- A command line without some option, and no variables: to give the option in front of the
subcommand, between any two other options and in whichever way it is written, and to set its
variable instead come to the same. Either there are no settings, or the same ones. -/
theorem ofCommandLine?_option_eq_variable {values : List (Setting × String)}
    {options rest text : List String} {setting : Setting} {value : String} {parsed : Arguments}
    (front : OptionsText values options) (valid : CommandLine.read (options ++ rest) = .ok parsed)
    (absent : ¬ Sets setting (options ++ rest)) (bare : env.Bare)
    (option : OptionText setting value text) :
    ofCommandLine? (options ++ text ++ rest) env =
      ofCommandLine? (options ++ rest) (Function.update env setting.ownVariable (some value)) := by
  obtain ⟨given, command, rfl, fresh, inserted⟩ := read_insert front valid absent
  rw [ofCommandLine?, ofCommandLine?, inserted value text option, valid,
    Given.give_toOption, fresh]
  refine Eq.trans ?_ (resolve_set fresh bare command value)
  cases setting.value? value <;> rfl

theorem ofCommandLine?_option_eq_variable_port :
    let line := ["--host", "box", "--port=+08080", "-t5", "key", "Home"]
    let env : Environment := fun _ => none
    ofCommandLine? line env = some ⟨"box", 8080, 5, "warn", .key "Home"⟩ ∧
      ofCommandLine? line env =
        ofCommandLine? ["--host", "box", "-t5", "key", "Home"]
          (Function.update env "ROKU_PORT" (some "+08080")) := by
  have front : OptionsText [(.host, "box")] ["--host", "box"] :=
    .cons (.longApart (by decide)) .nil
  have valid : CommandLine.read (["--host", "box"] ++ ["-t5", "key", "Home"]) =
      .ok ⟨some "box", 8060, 5, "warn", .key "Home"⟩ :=
    toOption_eq_some_iff.mp (by decide +kernel)
  have behind : readFrom ⟨⟨none, some 1, none, none⟩, none⟩ false
      (["--host", "box"] ++ ["-t5", "key", "Home"]) =
        .ok ⟨some "box", 1, 5, "warn", .key "Home"⟩ :=
    toOption_eq_some_iff.mp (by decide +kernel)
  have absent : ¬ Sets .port (["--host", "box"] ++ ["-t5", "key", "Home"]) :=
    not_sets_of_readFrom rfl behind
  have written : "--" ++ Setting.port.long ++ "=" ++ "+08080" = "--port=+08080" := by decide
  have option : OptionText .port "+08080" ["--port=+08080"] := written ▸ .long
  have bare : Environment.Bare fun _ => none := fun _ _ _ => rfl
  exact ⟨by decide +kernel, ofCommandLine?_option_eq_variable front valid absent bare option⟩

end Settings

end StreamRemote
