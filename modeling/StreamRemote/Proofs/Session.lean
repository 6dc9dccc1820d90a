import StreamRemote.Proofs.Call
import StreamRemote.Session

/-!
# What a session asks and what it tells

A session that cannot read its command line, or has no usable settings, asks nothing of a device.
Any other makes one request, that of its command, and ends with what the answer to this request
says: the text of the document that was read, or a report that begins with the command and names the
address and all causes.

* `Command.Means` says which call belongs to a command, and what a report of its failure begins
  with.
* `Query.Shows` says which text a body is shown as. It refers to `Document.parse`.
* `Ending.Tells` says which endings go with an answer.

Results:
1. `Ending.tells_conclude`: a command ends with what its answer says.
2. `Session.run_asks_once`: what a session asks, and what it ends with.
-/

namespace StreamRemote

/-- The command is carried out by the call, and its failure is reported under the headline. A text
that is a way to write a key stands for this key, and any other is taken as it is. -/
inductive Command.Means : Command → Call → String → Prop
  | key {text : String} {key : Key} : Key.parse text = .ok key →
      Means (.key text) (.pressKey key.code) ("Failed to press " ++ key.code)
  | unknownKey {text : String} {cause : UnknownKey} : Key.parse text = .error cause →
      Means (.key text) (.pressKey text) ("Failed to press " ++ text)
  | launch {appId : String} :
      Means (.launch appId) (.launchApp appId) ("Failed to launch app " ++ appId)
  | info : Means .info (.query .deviceInfo) "Failed to query device info"
  | activeApp : Means .activeApp (.query .activeApp) "Failed to query active app"
  | apps : Means .apps (.query .apps) "Failed to query apps"
  | player : Means .player (.query .player) "Failed to query media player"

/-- The body answers the query, and its document is shown as the text. -/
inductive Query.Shows : Query → String → String → Prop
  | deviceInfo {body : String} {info : DeviceInfo} :
      Document.parse DeviceInfo body = .ok info → Shows .deviceInfo body info.render
  | activeApp {body : String} {active : ActiveApp} :
      Document.parse ActiveApp body = .ok active → Shows .activeApp body active.render
  | apps {body : String} {list : AppList} :
      Document.parse AppList body = .ok list → Shows .apps body (App.renderList list.apps)
  | player {body : String} {status : PlayerStatus} :
      Document.parse PlayerStatus body = .ok status → Shows .player body status.render

/-- The ending tells what became of a call.

* `succeeded`, `failed`: there is a text to tell if and only if the call succeeded, and a report of
  the failure if and only if it failed. The causes in the report are the error of the call and what
  is behind that.
* `done`, `shown`: a command that is answered leaves nothing to tell, and a query is told by what
  the body is shown as.
* `commandFailed`, `unanswered`, `refused`: the reports in full, one for each way in which a call
  can fail.
* `silent`: with a failure, nothing is printed but the report. -/
structure Ending.Tells (call : Call) (headline : String) (request : Request) (answer : Answer)
    (outcome : Except CallError Outcome) (ending : Ending) : Prop where
  succeeded : (∃ text, ending = .told text) ↔ ∃ found, outcome = .ok found
  failed : ∀ report, ending = .failed report ↔
    ∃ e, outcome = .error e ∧ report = ⟨headline, e.message :: e.sources⟩
  done : call.IsCommand → ∀ text, ending = .told text ↔ text = "" ∧ ∃ body, answer = .ok body
  shown : ∀ q, call = .query q → ∀ text,
    ending = .told text ↔ ∃ body, answer = .ok body ∧ q.Shows body text
  commandFailed : call.IsCommand → ∀ cause, answer = .error cause →
    ending = .failed ⟨headline,
      ["Command failed for " ++ request.url ++ ": " ++ cause.message, cause.message]⟩
  unanswered : ∀ q, call = .query q → ∀ cause, answer = .error cause →
    ending = .failed ⟨headline,
      ["Query failed for " ++ request.url ++ ": " ++ cause.message, cause.message, cause.message]⟩
  refused : ∀ q, call = .query q → ∀ body cause, answer = .ok body → q.Refuses body cause →
    ending = .failed ⟨headline,
      ["Query failed for " ++ request.url ++ ": " ++ cause.message, cause.message]⟩
  silent : ∀ report, ending = .failed report →
    ending.output? = none ∧ ending.complaint? = some report.render ∧ ending.exitCode ≠ 0

/-! ## Commands -/

/-- What the body is shown as is the text of the outcome that it answers the query with. -/
theorem Query.shows_iff {q : Query} {body text : String} :
    q.Shows body text ↔ ∃ found, q.Answers body found ∧ found.render = text := by
  constructor
  · intro h
    rcases h with read | read | read | read
    · exact ⟨_, .deviceInfo read, rfl⟩
    · exact ⟨_, .activeApp read, rfl⟩
    · exact ⟨_, .apps read, rfl⟩
    · exact ⟨_, .player read, rfl⟩
  · rintro ⟨found, answers, rfl⟩
    rcases answers with read | read | read | read
    · exact .deviceInfo read
    · exact .activeApp read
    · exact .apps read
    · exact .player read

/-- Every command has its call and its headline. -/
theorem Command.means_call (command : Command) : command.Means command.call command.failure := by
  cases command with
  | key text =>
    show (key text).Means (.pressKey (Key.normalize text))
      ("Failed to press " ++ Key.normalize text)
    unfold Key.normalize
    cases found : Key.ofCode? text with
    | some key =>
      have parsed : Key.parse text = .ok key := by
        unfold Key.parse
        rw [found]
      exact .key parsed
    | none =>
      have parsed : Key.parse text = .error ⟨text⟩ := by
        unfold Key.parse
        rw [found]
      exact .unknownKey parsed
  | launch appId => exact .launch
  | info => exact .info
  | activeApp => exact .activeApp
  | apps => exact .apps
  | player => exact .player

namespace Ending

variable {command : Command} {outcome : Except CallError Outcome}

theorem ofResult_told_iff {text : String} :
    ofResult (command.conclude outcome) = .told text ↔
      ∃ found, outcome = .ok found ∧ found.render = text := by
  cases outcome <;> simp [Command.conclude, ofResult]

theorem ofResult_failed_iff {report : Report} :
    ofResult (command.conclude outcome) = .failed report ↔
      ∃ e, outcome = .error e ∧ report = ⟨command.failure, e.message :: e.sources⟩ := by
  cases outcome <;> simp [Command.conclude, ofResult, eq_comm]

/-- A command ends with what the answer to its call says. -/
theorem tells_conclude (device : Device) (command : Command) (answer : Answer) :
    Tells command.call command.failure (command.call.request device) answer
      (command.call.conclude device answer)
      (ofResult (command.conclude (command.call.conclude device answer))) := by
  have faithful := Call.faithful_conclude device command.call answer
  refine ⟨?_, fun _ => ofResult_failed_iff, fun isCommand text => ?_, fun q same text => ?_,
    fun isCommand cause none => ?_, fun q same cause none => ?_,
    fun q same body cause some refuses => ?_, ?_⟩
  · simp only [ofResult_told_iff]
    constructor
    · rintro ⟨_, found, h, -⟩
      exact ⟨found, h⟩
    · rintro ⟨found, h⟩
      exact ⟨_, found, h, rfl⟩
  · rw [ofResult_told_iff, (Call.conclude_of_isCommand device isCommand answer).2]
    cases answer <;> simp [Outcome.render, eq_comm]
  · rw [same] at faithful ⊢
    simp only [ofResult_told_iff, Query.shows_iff, faithful.ok_iff]
    constructor
    · rintro ⟨found, ⟨body, some, answers⟩, shown⟩
      exact ⟨body, some, found, answers, shown⟩
    · rintro ⟨body, some, found, answers, shown⟩
      exact ⟨found, ⟨body, some, answers⟩, shown⟩
  · have outcome := (faithful.commandFailed isCommand cause).mpr none
    exact ofResult_failed_iff.mpr ⟨_, outcome, rfl⟩
  · have outcome := (faithful.unanswered q same cause).mpr none
    exact ofResult_failed_iff.mpr ⟨_, outcome, rfl⟩
  · have outcome := (faithful.refused q same body some cause).mpr refuses
    exact ofResult_failed_iff.mpr ⟨_, outcome, rfl⟩
  · intro report ended
    rw [ended]
    exact ⟨rfl, rfl, Nat.one_ne_zero⟩

end Ending

/-! ## Sessions -/

namespace Session

variable (connect : Settings → Transport Recorded) {words : List String} {env : Environment}

theorem run_misused {e : CommandLine.UsageError} (h : CommandLine.read words = .error e) :
    run connect words env = pure (.misused e) := by
  unfold run
  rw [h]

variable {args : CommandLine.Arguments}

theorem run_unsettled {e : SettingsError} (read : CommandLine.read words = .ok args)
    (h : Settings.resolve args env = .error e) :
    run connect words env = pure (.unsettled e) := by
  unfold run
  rw [read]
  simp only [h]

theorem run_settled {settings : Settings} (read : CommandLine.read words = .ok args)
    (h : Settings.resolve args env = .ok settings) :
    run connect words env = (do
      let result ← settings.command.run (connect settings) settings.device
      pure (.ofResult result)) := by
  unfold run
  rw [read]
  simp only [h]

/-- What a session asks, and what it ends with, whatever its words and its environment are and
whatever a device answers.

* A command line that cannot be read, and settings that cannot be used, end the session before
  anything is asked.
* Otherwise one thing is asked: the request of the call that belongs to the command, of the device
  that the settings name. The call itself asks the same, and the ending tells what became of it. -/
theorem run_asks_once (respond : Settings → List Request → Answer) (words : List String)
    (env : Environment) :
    ∃ ending asked,
      (run (fun settings => .responding (respond settings)) words env).run [] = (ending, asked) ∧
      (∀ e, CommandLine.read words = .error e → ending = .misused e ∧ asked = []) ∧
      ∀ args, CommandLine.read words = .ok args →
        (∀ e, Settings.resolve args env = .error e → ending = .unsettled e ∧ asked = []) ∧
        ∀ settings, Settings.resolve args env = .ok settings →
          ∃ call headline request outcome,
            settings.command.Means call headline ∧
            call.Asks settings.device request ∧
            asked = [request] ∧
            (call.perform (.responding (respond settings)) settings.device).run [] =
              (outcome, asked) ∧
            ending.Tells call headline request (respond settings asked) outcome := by
  cases read : CommandLine.read words with
  | error e =>
    rw [run_misused _ read]
    refine ⟨_, _, rfl, ?_, nofun⟩
    rintro _ ⟨⟩
    exact ⟨rfl, rfl⟩
  | ok args =>
    cases resolved : Settings.resolve args env with
    | error e =>
      rw [run_unsettled _ read resolved]
      refine ⟨_, _, rfl, nofun, ?_⟩
      rintro _ ⟨⟩
      rw [resolved]
      refine ⟨?_, nofun⟩
      rintro _ ⟨⟩
      exact ⟨rfl, rfl⟩
    | ok settings =>
      rw [run_settled _ read resolved]
      refine ⟨_, _, rfl, nofun, ?_⟩
      rintro _ ⟨⟩
      rw [resolved]
      refine ⟨nofun, ?_⟩
      rintro _ ⟨⟩
      exact ⟨_, _, _, _, settings.command.means_call, Call.asks_request _ _, rfl,
        Call.perform_run _ _ _ _, Ending.tells_conclude _ _ _⟩

/-- A key is pressed under its own name, and there is nothing to tell about it. -/
example :
    let session := (run (fun _ => .answering (.ok "pressed")) ["--host", "tv", "key", "home"]
      fun _ => none).run []
    session.1 = .told "" ∧ session.2 = [⟨.post, "http://tv:8060/keypress/Home"⟩] := by
  decide +kernel

end Session

end StreamRemote
