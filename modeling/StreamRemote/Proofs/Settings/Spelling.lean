import StreamRemote.Proofs.Settings.Sources

/-!
# Settings written as a command line

How settings are said on a command line: `GivenBy` says which options with which texts give them, in
any order, and `OptionsText` how these options are written. A text is itself, and a number is written
as any decimal numeral of it. What has its usual value may be left out. Behind the options stands the
subcommand with its operand.

Results:
1. `CommandLine.Setting.value?_of_written`: a value that is written for an option is read from there.
2. `Settings.complete_eq_arguments`: options that give settings say these settings and nothing else.
3. `Settings.read_of_givenBy`: settings that can be used can be written as a command line, and
   however this is done they are read from there.
-/

namespace StreamRemote

open CommandLine

/-! ## Values of options -/

namespace CommandLine.Setting

/-- The text is how the value of the option is written. -/
def Written : (setting : Setting) → setting.Value → String → Prop
  | host, value, text => text = value
  | port, value, text => Text.IsNumeral text.toList (UInt16.toNat value)
  | timeout, value, text => Text.IsNumeral text.toList (UInt64.toNat value)
  | logLevel, value, text => text = value

/-- The value of an option that is left out, if it may be. -/
def usual? : (setting : Setting) → Option setting.Value
  | host => none
  | port => some Device.defaultPort
  | timeout => some defaultTimeout
  | logLevel => some defaultLogLevel

/-- The plainest text for a value. -/
def textOf : (setting : Setting) → setting.Value → String
  | host, value => value
  | port, value => toString (UInt16.toNat value)
  | timeout, value => toString (UInt64.toNat value)
  | logLevel, value => value

theorem written_textOf (setting : Setting) (value : setting.Value) :
    setting.Written value (setting.textOf value) := by
  cases setting with
  | host | logLevel => rfl
  | port | timeout => exact ⟨_, .inl rfl, Text.numeral?_toString _⟩

/-- A value that is written for an option is read from there. -/
theorem value?_of_written {setting : Setting} {value : setting.Value} {text : String}
    (written : setting.Written value text) : setting.value? text = some value := by
  cases setting with
  | host | logLevel => exact congrArg some written
  | port =>
    have unsigned : text.toList.head? ≠ some '-' := by
      obtain ⟨digits, same, numeral⟩ := written
      obtain ⟨nonempty, row⟩ := Text.numeral?_eq_some_iff.mp numeral
      intro dash
      rcases same with same | same
      · have digit := Text.digit_of_numeralFrom? row '-' (List.mem_of_head? (same ▸ dash))
        contradiction
      · simp [same] at dash
    have read := Text.readBelow_of_isNumeral written (UInt16.toNat_lt value)
    show (readPort text).toOption = _
    rw [readPort_unsigned unsigned, Text.readWord16, read]
    exact congrArg some (UInt16.ofNat_toNat)
  | timeout =>
    have read := Text.readBelow_of_isNumeral written (UInt64.toNat_lt value)
    show (Text.readWord64 text).toOption = _
    rw [Text.readWord64, read]
    exact congrArg some (UInt64.ofNat_toNat)

end CommandLine.Setting

/-! ## Commands -/

namespace Command

/-- The subcommand that asks for a command. -/
def subcommand : Command → Subcommand
  | key _ => .key
  | launch _ => .launch
  | info => .info
  | activeApp => .activeApp
  | apps => .apps
  | player => .player

/-- What stands behind the subcommand, if anything. -/
def operand? : Command → Option String
  | key code => some code
  | launch appId => some appId
  | info | activeApp | apps | player => none

/-- The end of a command line that asks for a command. -/
def words (command : Command) : List String :=
  command.subcommand.name :: command.operand?.toList

/-- A command is read from the words that ask for it, if its operand cannot be taken for an
option. -/
theorem read_operand {command : Command}
    (plain : ∀ operand ∈ command.operand?, Form.ofArgument operand = .word) :
    command.subcommand.read false none command.operand?.toList = .ok command := by
  have taken (subcommand : Subcommand) (takes : subcommand.takesOperand = true) (operand : String)
      (word : Form.ofArgument operand = .word) :
      subcommand.read false none [operand] = subcommand.read false (some operand) [] := by
    simp only [Subcommand.read, word, Subcommand.addOperand, takes]
    rfl
  cases command with
  | key code => exact taken .key rfl code (plain code rfl)
  | launch appId => exact taken .launch rfl appId (plain appId rfl)
  | info | activeApp | apps | player => rfl

end Command

/-! ## Settings -/

namespace Settings

/-- The value that an option has in the settings. -/
def value (settings : Settings) : (setting : Setting) → setting.Value
  | .host => settings.host
  | .port => settings.port
  | .timeout => settings.timeout
  | .logLevel => settings.logLevel

/-- The options, in their order, give the settings: each one at most once and with its value, and
those that are left out have their usual values. -/
structure GivenBy (settings : Settings) (values : List (Setting × String)) : Prop where
  once : (values.map Prod.fst).Nodup
  written : ∀ option ∈ values, option.1.Written (settings.value option.1) option.2
  others : ∀ setting, setting ∉ values.map Prod.fst →
    setting.usual? = some (settings.value setting)

/-- All settings can be given with options. -/
theorem exists_givenBy (settings : Settings) :
    ∃ values options, settings.GivenBy values ∧ OptionsText values options := by
  refine ⟨Setting.all.map fun setting => (setting, setting.textOf (settings.value setting)), _,
    ⟨by simp [Setting.all], ?_, ?_⟩, .cons .long (.cons .long (.cons .long (.cons .long .nil)))⟩
  · intro option mem
    obtain ⟨setting, -, rfl⟩ := List.mem_map.mp mem
    exact setting.written_textOf _
  · intro setting absent
    cases setting <;> exact absurd (by simp [Setting.all]) absent

/-- Options that give settings, with the command, say these settings and nothing else. -/
theorem complete_eq_arguments {settings : Settings} {given : Given}
    (has : ∀ setting : Setting,
      (given.get? setting).or setting.usual? = some (settings.value setting)) :
    given.complete settings.command = settings.arguments := by
  have host : given.host.or none = some settings.host := has .host
  have port : given.port.or (some Device.defaultPort) = some settings.port := has .port
  have timeout : given.timeout.or (some defaultTimeout) = some settings.timeout := has .timeout
  have logLevel : given.logLevel.or (some defaultLogLevel) = some settings.logLevel :=
    has .logLevel
  rw [Option.or_none] at host
  rw [Option.or_some, Option.some.injEq] at port timeout logLevel
  rw [Given.complete, host, port, timeout, logLevel]
  rfl

/-- Settings that can be used can be written as a command line, unless the operand of the command
looks like an option. However they are written there, the command line says them and nothing else,
and they are resolved where no variable is set. -/
theorem read_of_givenBy {settings : Settings} (usable : settings.Usable)
    (plain : ∀ operand ∈ settings.command.operand?, operand.toList.head? ≠ some '-') :
    (∃ values options, settings.GivenBy values ∧ OptionsText values options) ∧
    ∀ values options, settings.GivenBy values → OptionsText values options →
      CommandLine.read (options ++ settings.command.words) = .ok settings.arguments ∧
      resolve settings.arguments (fun _ => none) = .ok settings := by
  refine ⟨exists_givenBy settings, fun values options gives text =>
    ⟨?_, resolve_arguments usable fun _ _ _ => rfl⟩⟩
  have fresh : ∀ option ∈ values, Given.nothing.has option.1 = false := fun option _ => by
    cases option.1 <;> rfl
  obtain ⟨given, gave, got⟩ := Given.exists_giveAll gives.once
    (fun option mem => Setting.value?_of_written (gives.written option mem)) _ fresh
  have said : settings.command.subcommand.read false none settings.command.operand?.toList =
      .ok settings.command :=
    Command.read_operand fun operand mem =>
      Form.ofArgument_eq_word_iff.mpr fun dash => absurd dash (plain operand mem)
  refine read_ok_iff.mpr ⟨values, options, _, _, given, _, rfl, text, gave, said, Eq.symm ?_⟩
  refine complete_eq_arguments fun setting => ?_
  rw [got]
  split
  · rfl
  · next absent =>
    have nothing : Given.nothing.get? setting = none := by cases setting <;> rfl
    rw [nothing, Option.none_or, gives.others setting absent]

/-- A line with a value that looks like a subcommand and an operand that looks like one too, where
the timeout is left out. -/
theorem read_of_givenBy_three :
    let settings : Settings := ⟨"info", 443, 10, "x=debug", .key "help"⟩
    CommandLine.read ["-p=0443", "--host", "info", "--log-level=x=debug", "key", "help"] =
        .ok settings.arguments ∧
      resolve settings.arguments (fun _ => none) = .ok settings := by
  intro settings
  have filter : (LogFilter.parse "x=debug").toOption.isSome = true := by decide +kernel
  obtain ⟨filter, read⟩ := Option.isSome_iff_exists.mp filter
  have usable : settings.Usable :=
    ⟨⟨'i', by decide, by decide⟩, by decide, by decide, filter, toOption_eq_some_iff.mp read⟩
  have plain : ∀ operand ∈ settings.command.operand?, operand.toList.head? ≠ some '-' := by
    rintro _ ⟨⟩
    decide
  have gives : settings.GivenBy [(.port, "0443"), (.host, "info"), (.logLevel, "x=debug")] := by
    refine ⟨by decide, ?_, ?_⟩
    · simp only [List.forall_mem_cons]
      exact ⟨⟨_, .inl rfl, by decide +kernel⟩, rfl, rfl, nofun⟩
    · rintro (_ | _ | _ | _) absent
      · exact absurd (by decide) absent
      · exact absurd (by decide) absent
      · rfl
      · exact absurd (by decide) absent
  have port : OptionText .port "0443" ["-p=0443"] := by
    have written : "-" ++ String.singleton 'p' ++ "=" ++ "0443" = "-p=0443" := by decide
    exact written ▸ .shortEquals rfl
  have logLevel : OptionText .logLevel "x=debug" ["--log-level=x=debug"] := by
    have written : "--" ++ Setting.logLevel.long ++ "=" ++ "x=debug" = "--log-level=x=debug" := by
      decide
    exact written ▸ .long
  have text : OptionsText [(.port, "0443"), (.host, "info"), (.logLevel, "x=debug")]
      ["-p=0443", "--host", "info", "--log-level=x=debug"] :=
    .cons port (.cons (.longApart (by decide)) (.cons logLevel .nil))
  exact (read_of_givenBy usable plain).2 _ _ gives text

end Settings

end StreamRemote
