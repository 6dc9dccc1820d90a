import Mathlib.Control.Monad.Basic
import StreamRemote.Proofs.Settings

/-!
# The sources of settings

A setting has several sources, and the first of them that is set is in force: for the host this is
the option and then its variable, and for all else the variables and then the option. `SaidBy` says
which settings the sources in force give, and `Usable` which settings can be used.

What is not in force is not even looked at, so it makes no difference whether it could be used.

Results:
1. `Settings.resolve_ok_iff`: settings are resolved if and only if the sources in force give them
   and they can be used.
2. `Settings.resolve_arguments`: settings that can be used are resolved where nothing but they
   themselves is said.
3. `Settings.usable_of_resolve`: settings that are resolved can be used, and resolving them once more
   gives them again.
4. `Settings.resolve_congr`: sources that are not in force have no influence, neither on settings nor
   on errors.
-/

namespace StreamRemote

open CommandLine

namespace Settings

/-- The settings can be used:

* `host`: there is more than white space in the host;
* `port`, `timeout`: neither of the two numbers is 0;
* `logLevel`: the log filter can be read. -/
structure Usable (settings : Settings) : Prop where
  host : ∃ c ∈ settings.host.toList, Text.isBlank c = false
  port : settings.port ≠ 0
  timeout : settings.timeout ≠ 0
  logLevel : ∃ filter, LogFilter.parse settings.logLevel = .ok filter

/-- The command line that says nothing but the settings, and each of them. -/
def arguments (settings : Settings) : Arguments where
  host := some settings.host
  port := settings.port
  timeout := settings.timeout
  logLevel := settings.logLevel
  command := settings.command

/-- The settings are those that the sources in force give. -/
structure SaidBy (settings : Settings) (args : Arguments) (env : Environment) : Prop where
  host : (args.host <|> env hostVariable) = some settings.host
  port : override Text.readWord16 env portVariable args.port = .ok settings.port
  timeout : override Text.readWord64 env timeoutVariable args.timeout = .ok settings.timeout
  logLevel : (said env .logLevel).getD args.logLevel = settings.logLevel
  command : args.command = settings.command

variable {settings : Settings} {args args' : Arguments} {env env' : Environment}

/-! ## What is resolved -/

/-- What is collected is checked, and nothing of it is changed. -/
theorem check_ok_iff {host : Option String} {port : UInt16} {timeout : UInt64} {logLevel : String}
    {command : Command} :
    check host port timeout logLevel command = .ok settings ↔
      host = some settings.host ∧ port = settings.port ∧ timeout = settings.timeout ∧
        logLevel = settings.logLevel ∧ command = settings.command ∧ settings.Usable := by
  constructor
  · intro h
    unfold check at h
    split at h
    · contradiction
    rename_i host
    split at h
    · contradiction
    rename_i shown
    split at h
    · contradiction
    rename_i port_ne
    split at h
    · contradiction
    rename_i timeout_ne
    split at h
    · contradiction
    rename_i filter read
    cases h
    rw [Bool.not_eq_true, List.all_eq_false] at shown
    obtain ⟨c, mem, solid⟩ := shown
    exact ⟨rfl, rfl, rfl, rfl, rfl, ⟨c, mem, by simpa using solid⟩, port_ne, timeout_ne, filter,
      read⟩
  · rintro ⟨rfl, rfl, rfl, rfl, rfl, ⟨c, mem, solid⟩, port, timeout, filter, read⟩
    have shown : settings.host.toList.all Text.isBlank = false :=
      List.all_eq_false.mpr ⟨c, mem, by simp [solid]⟩
    simp only [check, shown, if_neg port, if_neg timeout, read]
    rfl

/-- Settings are resolved if and only if the sources in force give them and they can be used. -/
theorem resolve_ok_iff :
    resolve args env = .ok settings ↔ settings.SaidBy args env ∧ settings.Usable := by
  rw [resolve_eq]
  constructor
  · intro h
    obtain ⟨port, portSaid, h⟩ := bind_ok h
    obtain ⟨timeout, timeoutSaid, h⟩ := bind_ok h
    obtain ⟨host, rfl, rfl, logLevel, command, usable⟩ := check_ok_iff.mp h
    exact ⟨⟨host, portSaid, timeoutSaid, logLevel, command⟩, usable⟩
  · rintro ⟨said, usable⟩
    rw [said.port, said.timeout]
    exact check_ok_iff.mpr ⟨said.host, rfl, rfl, said.logLevel, said.command, usable⟩

/-- Settings speak for themselves where no variable is set. -/
theorem saidBy_of_bare (bare : env.Bare) (settings : Settings) :
    settings.SaidBy settings.arguments env where
  host := rfl
  port := by rw [override, bare .port portVariable (List.mem_singleton_self _)]; rfl
  timeout := by rw [override, bare .timeout timeoutVariable (List.mem_singleton_self _)]; rfl
  logLevel := by rw [said_of_bare bare]; rfl
  command := rfl

/-- Settings that can be used are resolved where nothing but they themselves is said. -/
theorem resolve_arguments (usable : settings.Usable) (bare : env.Bare) :
    resolve settings.arguments env = .ok settings :=
  resolve_ok_iff.mpr ⟨saidBy_of_bare bare settings, usable⟩

/-! ## Resolving once more -/

/-- A number that is in force is in force again where the command line says it itself. -/
theorem override_again {α : Type} {read : String → Except Text.NumeralError α} {name : String}
    {given value : α} (h : override read env name given = .ok value) :
    override read env name value = .ok value := by
  unfold override at h ⊢
  split
  · rfl
  · next text set =>
    rw [set] at h
    exact h

/-- What the sources in force give, they give again where the command line says it itself. -/
theorem SaidBy.again (h : settings.SaidBy args env) : settings.SaidBy settings.arguments env where
  host := rfl
  port := override_again h.port
  timeout := override_again h.timeout
  logLevel := by
    have logLevel := h.logLevel
    cases set : said env .logLevel with
    | none => rfl
    | some text =>
      rw [set] at logLevel
      exact logLevel
  command := rfl

/-- Nothing is left of the standard times. -/
theorem timeouts_eq (settings : Settings) :
    settings.timeouts = ⟨settings.timeout.toNat * 1000, settings.timeout.toNat * 1000⟩ :=
  Timeouts.withConnect_withRead ..

/-- Settings that are resolved can be used, and are what their sources say; both waiting times are
the timeout. Resolving them once more gives them again, in the same environment and without any. -/
theorem usable_of_resolve (h : resolve args env = .ok settings) :
    settings.Usable ∧
    (args.host = some settings.host ∨ args.host = none ∧ env hostVariable = some settings.host) ∧
    settings.command = args.command ∧
    settings.timeouts.connect = settings.timeout.toNat * 1000 ∧
    settings.timeouts.read = settings.timeout.toNat * 1000 ∧
    resolve settings.arguments env = .ok settings ∧
    resolve settings.arguments (fun _ => none) = .ok settings := by
  obtain ⟨said, usable⟩ := resolve_ok_iff.mp h
  have again : resolve settings.arguments env = .ok settings :=
    resolve_ok_iff.mpr ⟨said.again, usable⟩
  have alone : resolve settings.arguments (fun _ => none) = .ok settings :=
    resolve_arguments usable fun _ _ _ => rfl
  refine ⟨usable, ?_, said.command.symm, by rw [timeouts_eq], by rw [timeouts_eq], again, alone⟩
  have host := said.host
  cases given : args.host with
  | some text =>
    rw [given] at host
    exact .inl host
  | none =>
    rw [given] at host
    exact .inr ⟨rfl, host⟩

/-- Of a command line that could not be used by itself, with a variable for all that is wrong with
it. -/
theorem usable_of_resolve_overridden :
    let args : Arguments := ⟨none, 0, 0, "x=loud", .launch "12"⟩
    let env : Environment := fun name =>
      [("ROKU_HOST", " tv"), ("ROKU_PORT", "+65535"), ("ROKU_TIMEOUT", "3"),
        ("RUST_LOG", "warn,x=debug")].lookup name
    let settings : Settings := ⟨" tv", 65535, 3, "warn,x=debug", .launch "12"⟩
    resolve args env = .ok settings ∧ settings.Usable ∧
      resolve settings.arguments env = .ok settings ∧
      resolve settings.arguments (fun _ => none) = .ok settings := by
  intro args env settings
  have resolved : resolve args env = .ok settings := by decide +kernel
  obtain ⟨usable, -, -, -, -, again, alone⟩ := usable_of_resolve resolved
  exact ⟨resolved, usable, again, alone⟩

/-! ## Sources that are not in force -/

/-- Two command lines in their environments agree on the sources in force: a source counts only
where none of those in front of it is set. -/
structure SameInForce (args : Arguments) (env : Environment) (args' : Arguments)
    (env' : Environment) : Prop where
  command : args.command = args'.command
  givenHost : args.host = args'.host
  host : args.host = none → env "ROKU_HOST" = env' "ROKU_HOST"
  port : env "ROKU_PORT" = env' "ROKU_PORT"
  givenPort : env "ROKU_PORT" = none → args.port = args'.port
  timeout : env "ROKU_TIMEOUT" = env' "ROKU_TIMEOUT"
  givenTimeout : env "ROKU_TIMEOUT" = none → args.timeout = args'.timeout
  logLevel : env "ROKU_LOG_LEVEL" = env' "ROKU_LOG_LEVEL"
  commonLogLevel : env "ROKU_LOG_LEVEL" = none → env "RUST_LOG" = env' "RUST_LOG"
  givenLogLevel : env "ROKU_LOG_LEVEL" = none → env "RUST_LOG" = none →
    args.logLevel = args'.logLevel

/-- A number depends on what the command line says only where its variable is not set. -/
theorem override_congr {α : Type} {read : String → Except Text.NumeralError α} {name : String}
    {given given' : α} (variable_eq : env name = env' name)
    (given_eq : env name = none → given = given') :
    override read env name given = override read env' name given' := by
  unfold override
  rw [← variable_eq]
  cases set : env name with
  | none => rw [given_eq set]
  | some text => rfl

theorem SameInForce.host_eq (same : SameInForce args env args' env') :
    (args.host <|> env hostVariable) = (args'.host <|> env' hostVariable) := by
  rw [← same.givenHost]
  cases given : args.host with
  | none => exact same.host given
  | some host => rfl

theorem SameInForce.logLevel_eq (same : SameInForce args env args' env') :
    (said env .logLevel).getD args.logLevel = (said env' .logLevel).getD args'.logLevel := by
  have first (env : Environment) :
      said env .logLevel = (env "ROKU_LOG_LEVEL" <|> env "RUST_LOG") := by
    cases own : env "ROKU_LOG_LEVEL" <;> cases common : env "RUST_LOG" <;>
      simp [said, Setting.variableNames, logLevelVariables, own, common]
  rw [first, first, ← same.logLevel]
  cases own : env "ROKU_LOG_LEVEL" with
  | some text => rfl
  | none =>
    rw [← same.commonLogLevel own]
    cases common : env "RUST_LOG" with
    | some text => rfl
    | none => exact same.givenLogLevel own common

/-- Command lines and environments that agree on the sources in force come to the same settings, or
to the same error. -/
theorem resolve_congr (same : SameInForce args env args' env') :
    resolve args env = resolve args' env' := by
  have port : override Text.readWord16 env portVariable args.port =
      override Text.readWord16 env' portVariable args'.port :=
    override_congr same.port same.givenPort
  have timeout : override Text.readWord64 env timeoutVariable args.timeout =
      override Text.readWord64 env' timeoutVariable args'.timeout :=
    override_congr same.timeout same.givenTimeout
  rw [resolve_eq, resolve_eq, port, timeout, same.host_eq, same.logLevel_eq, same.command]

/-- Values that cannot be used do no harm where they are not in force, and values that can be used
are of no help there. -/
theorem resolve_congr_two :
    let useless : Arguments := ⟨some "tv", 0, 0, "x=loud", .info⟩
    let useful : Arguments := ⟨some "tv", 8060, 10, "warn", .info⟩
    let inForce (port : String) : Environment := fun name =>
      [("ROKU_PORT", port), ("ROKU_TIMEOUT", "3"), ("ROKU_LOG_LEVEL", "info")].lookup name
    let noise (env : Environment) : Environment := fun name =>
      if name = "ROKU_HOST" then some " " else if name = "RUST_LOG" then some "x=loud" else env name
    resolve useless (noise (inForce "80")) = resolve useful (inForce "80") ∧
      resolve useful (inForce "80") = .ok ⟨"tv", 80, 3, "info", .info⟩ ∧
      resolve useful (noise (inForce "0")) = resolve useless (inForce "0") ∧
      resolve useless (inForce "0") = .error .zeroPort := by
  intro useless useful inForce noise
  have shadowed : ∀ (port : String) (args args' : Arguments), args.command = args'.command →
      args.host = args'.host → args.host ≠ none →
      SameInForce args (noise (inForce port)) args' (inForce port) :=
    fun _ _ _ command host given =>
      { command := command
        givenHost := host
        host := fun absent => absurd absent given
        port := rfl
        givenPort := nofun
        timeout := rfl
        givenTimeout := nofun
        logLevel := rfl
        commonLogLevel := nofun
        givenLogLevel := nofun }
  exact ⟨resolve_congr (shadowed "80" _ _ rfl rfl nofun), by decide +kernel,
    resolve_congr (shadowed "0" _ _ rfl rfl nofun), by decide +kernel⟩

end Settings

end StreamRemote
