import StreamRemote.Call
import StreamRemote.Proofs.Steps

/-!
# Calls one after the other

A device is asked many things in a row. Each call makes one request, whatever became of the others
before it, and its outcome tells what the answer to this one request was: nothing is asked again,
and no failure is lost or given another cause.

* `Call.Asks` says which request belongs to a call, with its address written out.
* `Call.Faithful` says which outcomes of a call go with an answer. For queries it refers to
  `Document.parse`, by `Query.Answers` and `Query.Refuses`.

Results:
1. `Call.faithful_conclude`: a single call is faithful to its answer.
2. `Call.performAll_run`: the requests and the outcomes of any calls in a row.
3. `Call.performAll_faithful`: each call in a row makes its own request, and is faithful to the
   answer that it gets.
-/

namespace StreamRemote

/-- The transport that notes down each request and answers it by all that was asked so far, the last
request first. -/
def Transport.responding (respond : List Request → Answer) : Transport Recorded := fun request => do
  modify (request :: ·)
  let asked ← get
  pure (respond asked)

namespace Query

/-- The body answers the query with the outcome. -/
inductive Answers : Query → String → Outcome → Prop
  | deviceInfo {body : String} {info : DeviceInfo} :
      Document.parse DeviceInfo body = .ok info → Answers .deviceInfo body (.deviceInfo info)
  | activeApp {body : String} {active : ActiveApp} :
      Document.parse ActiveApp body = .ok active → Answers .activeApp body (.activeApp active)
  | apps {body : String} {list : AppList} :
      Document.parse AppList body = .ok list → Answers .apps body (.apps list.apps)
  | player {body : String} {status : PlayerStatus} :
      Document.parse PlayerStatus body = .ok status → Answers .player body (.player status)

/-- The body is no document of the type that the query asks for. -/
inductive Refuses : Query → String → DocumentError → Prop
  | deviceInfo {body : String} {cause : DocumentError} :
      Document.parse DeviceInfo body = .error cause → Refuses .deviceInfo body cause
  | activeApp {body : String} {cause : DocumentError} :
      Document.parse ActiveApp body = .error cause → Refuses .activeApp body cause
  | apps {body : String} {cause : DocumentError} :
      Document.parse AppList body = .error cause → Refuses .apps body cause
  | player {body : String} {cause : DocumentError} :
      Document.parse PlayerStatus body = .error cause → Refuses .player body cause

end Query

namespace Call

/-- The calls that give a command. -/
def IsCommand : Call → Prop
  | pressKey _ | press _ | launchApp _ => True
  | query _ => False

/-- The call makes the request. Commands are posted, queries are got. -/
inductive Asks (device : Device) : Call → Request → Prop
  | pressKey {code : String} : Asks device (.pressKey code)
      ⟨.post, "http://" ++ device.host ++ ":" ++ toString device.port.toNat ++ "/keypress/" ++ code⟩
  | press {key : Key} : Asks device (.press key)
      ⟨.post,
        "http://" ++ device.host ++ ":" ++ toString device.port.toNat ++ "/keypress/" ++ key.code⟩
  | launchApp {appId : String} : Asks device (.launchApp appId)
      ⟨.post, "http://" ++ device.host ++ ":" ++ toString device.port.toNat ++ "/launch/" ++ appId⟩
  | deviceInfo : Asks device (.query .deviceInfo)
      ⟨.get, "http://" ++ device.host ++ ":" ++ toString device.port.toNat ++ "/query/device-info"⟩
  | activeApp : Asks device (.query .activeApp)
      ⟨.get, "http://" ++ device.host ++ ":" ++ toString device.port.toNat ++ "/query/active-app"⟩
  | apps : Asks device (.query .apps)
      ⟨.get, "http://" ++ device.host ++ ":" ++ toString device.port.toNat ++ "/query/apps"⟩
  | player : Asks device (.query .player)
      ⟨.get, "http://" ++ device.host ++ ":" ++ toString device.port.toNat ++ "/query/media-player"⟩

/-- The outcome of a call is what the answer to its request says:

* `done`, `commandFailed`: a command is carried out if and only if there is an answer, and fails for
  the cause for which there is none;
* `unanswered`: so does a query that is not answered;
* `empty`: the failure of a query is that its answer is empty if and only if nothing but white space
  is in the body;
* `answered`, `refused`: otherwise the outcome of a query is that of reading the body;
* `error`: each error has the address that was asked, and is one of a command if and only if
  something was posted, and one of a query if and only if something was got. -/
structure Faithful (call : Call) (request : Request) (answer : Answer)
    (outcome : Except CallError Outcome) : Prop where
  done : call.IsCommand → (outcome = .ok .done ↔ ∃ body, answer = .ok body)
  commandFailed : call.IsCommand → ∀ cause,
    outcome = .error (.commandFailed request.url cause) ↔ answer = .error cause
  unanswered : ∀ q, call = .query q → ∀ cause,
    outcome = .error (.queryFailed request.url (.transport cause)) ↔ answer = .error cause
  empty : ∀ q, call = .query q → ∀ body, answer = .ok body →
    (outcome = .error (.queryFailed request.url (.document .emptyBody)) ↔
      body.toList.all Text.isBlank = true)
  answered : ∀ q, call = .query q → ∀ body, answer = .ok body → ∀ found,
    outcome = .ok found ↔ q.Answers body found
  refused : ∀ q, call = .query q → ∀ body, answer = .ok body → ∀ cause,
    outcome = .error (.queryFailed request.url (.document cause)) ↔ q.Refuses body cause
  error : ∀ e, outcome = .error e → e.url = request.url ∧
    (e.isCommandFailure = true ↔ request.method = .post) ∧
    (e.isQueryFailure = true ↔ request.method = .get)

end Call

/-! ## Single calls -/

/-- A document is empty if and only if nothing but white space is in it. -/
theorem Document.parse_emptyBody_iff {α : Type} [Document α] {body : String} :
    Document.parse α body = .error .emptyBody ↔ body.toList.all Text.isBlank = true := by
  unfold Document.parse
  split
  · next blank => simp [blank]
  · next solid =>
    rw [mapError_error_iff]
    constructor
    · rintro ⟨cause, -, same⟩
      contradiction
    · exact fun blank => absurd blank solid

namespace Query

variable {q : Query} {body : String}

theorem readBody_ok_iff {found : Outcome} : q.readBody body = .ok found ↔ q.Answers body found := by
  constructor
  · intro h
    cases q <;> obtain ⟨value, read, rfl⟩ := map_ok h
    · exact .deviceInfo read
    · exact .activeApp read
    · exact .apps read
    · exact .player read
  · rintro (read | read | read | read) <;> (simp only [readBody, read]; rfl)

theorem readBody_error_iff {cause : DocumentError} :
    q.readBody body = .error cause ↔ q.Refuses body cause := by
  have failed : ∀ {α : Type} (x : Except DocumentError α) (f : α → Outcome),
      x.map f = .error cause ↔ x = .error cause := by
    intro α x f
    cases x <;> simp [Except.map]
  cases q with
  | deviceInfo =>
    exact (failed _ _).trans ⟨.deviceInfo, fun | .deviceInfo read => read⟩
  | activeApp =>
    exact (failed _ _).trans ⟨.activeApp, fun | .activeApp read => read⟩
  | apps =>
    exact (failed _ _).trans ⟨.apps, fun | .apps read => read⟩
  | player =>
    exact (failed _ _).trans ⟨.player, fun | .player read => read⟩

/-- The failure of a query is that the body is empty if and only if nothing but white space is in
it. -/
theorem refuses_emptyBody_iff :
    q.Refuses body .emptyBody ↔ body.toList.all Text.isBlank = true := by
  constructor
  · rintro (refused | refused | refused | refused) <;>
      exact Document.parse_emptyBody_iff.mp refused
  · intro blank
    cases q with
    | deviceInfo => exact .deviceInfo (Document.parse_emptyBody_iff.mpr blank)
    | activeApp => exact .activeApp (Document.parse_emptyBody_iff.mpr blank)
    | apps => exact .apps (Document.parse_emptyBody_iff.mpr blank)
    | player => exact .player (Document.parse_emptyBody_iff.mpr blank)

end Query

namespace Call

variable (device : Device)

/-- A call makes the request that belongs to it. -/
theorem asks_request (call : Call) : call.Asks device (call.request device) := by
  have address : ∀ path rest : String, device.base ++ "/" ++ path ++ rest =
      "http://" ++ device.host ++ ":" ++ toString device.port.toNat ++ ("/" ++ path) ++ rest := by
    intro path rest
    refine String.toList_inj.mp ?_
    simp only [Device.base, String.toList_append, List.append_assoc]
  cases call with
  | pressKey code =>
    rw [request, Device.keypressUrl, Device.url, address]
    exact .pressKey
  | press key =>
    rw [request, Device.keypressUrl, Device.url, address]
    exact .press
  | launchApp appId =>
    rw [request, Device.launchUrl, Device.url, address]
    exact .launchApp
  | query q =>
    have path := address q.path ""
    rw [String.append_empty, String.append_empty] at path
    rw [request, Device.queryUrl, Device.url, path]
    cases q with
    | deviceInfo => exact .deviceInfo
    | activeApp => exact .activeApp
    | apps => exact .apps
    | player => exact .player

/-- The outcome of a command is decided by whether there is an answer. -/
theorem conclude_of_isCommand {call : Call} (command : call.IsCommand) (answer : Answer) :
    (call.request device).method = .post ∧ call.conclude device answer =
      match answer with
      | .ok _ => .ok .done
      | .error cause => .error (.commandFailed (call.request device).url cause) := by
  cases call with
  | query => contradiction
  | _ => cases answer <;> exact ⟨rfl, rfl⟩

theorem faithful_of_isCommand (call : Call) (command : call.IsCommand) (answer : Answer) :
    call.Faithful (call.request device) answer (call.conclude device answer) := by
  obtain ⟨posted, conclude⟩ := conclude_of_isCommand device command answer
  have noQuery : ∀ q, call ≠ .query q := by
    rintro q rfl
    exact command
  rw [conclude]
  refine ⟨fun _ => ?_, fun _ cause => ?_, fun q same => absurd same (noQuery q),
    fun q same => absurd same (noQuery q), fun q same => absurd same (noQuery q),
    fun q same => absurd same (noQuery q), fun e failed => ?_⟩
  · cases answer <;> simp
  · cases answer <;> simp
  · cases answer with
    | ok => contradiction
    | error cause =>
      cases failed
      simp [CallError.url, CallError.isCommandFailure, CallError.isQueryFailure, posted]

/-- What a body answers a query with, with the address put into the failure. -/
theorem conclude_body_iff (q : Query) (body : String) :
    (∀ found, (query q).conclude device (.ok body) = .ok found ↔ q.Answers body found) ∧
    (∀ cause, (query q).conclude device (.ok body) =
      .error (.queryFailed ((query q).request device).url (.document cause)) ↔
        q.Refuses body cause) ∧
    ∀ e, (query q).conclude device (.ok body) = .error e →
      ∃ cause, e = .queryFailed ((query q).request device).url (.document cause) := by
  have conclude : (query q).conclude device (.ok body) =
      (q.readBody body).mapError fun cause =>
        .queryFailed ((query q).request device).url (.document cause) := rfl
  rw [conclude]
  refine ⟨fun found => ?_, fun cause => ?_, fun e failed => ?_⟩
  · rw [← Query.readBody_ok_iff]
    exact mapError_ok_iff
  · rw [← Query.readBody_error_iff, mapError_error_iff]
    constructor
    · rintro ⟨_, failed, ⟨⟩⟩
      exact failed
    · exact fun failed => ⟨cause, failed, rfl⟩
  · cases read : q.readBody body with
    | ok found =>
      rw [read] at failed
      contradiction
    | error cause =>
      rw [read] at failed
      cases failed
      exact ⟨cause, rfl⟩

theorem faithful_of_query (q : Query) (answer : Answer) :
    (query q).Faithful ((query q).request device) answer ((query q).conclude device answer) := by
  cases answer with
  | error cause =>
    have conclude : (query q).conclude device (.error cause) =
        .error (.queryFailed ((query q).request device).url (.transport cause)) := rfl
    rw [conclude]
    refine ⟨False.elim, False.elim, fun _ _ _ => by simp, nofun, nofun, nofun, fun e failed => ?_⟩
    cases failed
    exact ⟨rfl, by simp [CallError.isCommandFailure, request],
      by simp [CallError.isQueryFailure, request]⟩
  | ok body =>
    obtain ⟨answers, refuses, failure⟩ := conclude_body_iff device q body
    refine ⟨False.elim, False.elim, fun _ _ cause => ⟨fun failed => ?_, nofun⟩, ?_, ?_, ?_,
      fun e failed => ?_⟩
    · obtain ⟨_, same⟩ := failure _ failed
      simp at same
    · rintro _ ⟨⟩ _ ⟨⟩
      rw [refuses, Query.refuses_emptyBody_iff]
    · rintro _ ⟨⟩ _ ⟨⟩
      exact answers
    · rintro _ ⟨⟩ _ ⟨⟩
      exact refuses
    · obtain ⟨cause, rfl⟩ := failure e failed
      exact ⟨rfl, by simp [CallError.isCommandFailure, request],
        by simp [CallError.isQueryFailure, request]⟩

/-- The outcome of a call is what its answer says. -/
theorem faithful_conclude (call : Call) (answer : Answer) :
    call.Faithful (call.request device) answer (call.conclude device answer) := by
  cases call with
  | query q => exact faithful_of_query device q answer
  | pressKey | press | launchApp => exact faithful_of_isCommand device _ (by trivial) answer

/-- The outcome of a query that gives an answer is that of reading a body. -/
theorem Faithful.ok_iff {q : Query} {request : Request} {answer : Answer}
    {outcome : Except CallError Outcome} (h : (query q).Faithful request answer outcome)
    {found : Outcome} :
    outcome = .ok found ↔ ∃ body, answer = .ok body ∧ q.Answers body found := by
  cases answer with
  | ok body =>
    rw [h.answered q rfl body rfl]
    simp
  | error cause =>
    rw [(h.unanswered q rfl cause).mpr rfl]
    simp

/-! ## Calls in a row -/

/-- Makes calls one after the other. -/
def performAll {m : Type → Type} [Monad m] (transport : Transport m) (device : Device)
    (calls : List Call) : m (List (Except CallError Outcome)) :=
  calls.mapM (perform transport device)

variable (respond : List Request → Answer)

/-- The outcomes of calls in a row, behind some requests that were made before. -/
def outcomes : List Request → List Call → List (Except CallError Outcome)
  | _, [] => []
  | asked, call :: calls =>
    call.conclude device (respond (call.request device :: asked)) ::
      outcomes (call.request device :: asked) calls

/-- A call makes one request, and its outcome is decided by the answer to this request. -/
theorem perform_run (call : Call) (asked : List Request) :
    (perform (.responding respond) device call).run asked =
      (call.conclude device (respond (call.request device :: asked)),
        call.request device :: asked) := rfl

/-- Calls in a row make their requests in the same order, each of them one. -/
theorem performAll_run (calls : List Call) (asked : List Request) :
    (performAll (.responding respond) device calls).run asked =
      (outcomes device respond asked calls, (calls.map (request device)).reverse ++ asked) := by
  induction calls generalizing asked with
  | nil => rfl
  | cons call calls ih =>
    have next : (performAll (.responding respond) device (call :: calls)).run asked =
        Prod.map (((perform (.responding respond) device call).run asked).1 :: ·) id
          ((performAll (.responding respond) device calls).run
            ((perform (.responding respond) device call).run asked).2) := by
      rw [performAll, List.mapM_cons]
      rfl
    rw [next, perform_run, ih]
    simp [outcomes]

theorem length_outcomes (calls : List Call) (asked : List Request) :
    (outcomes device respond asked calls).length = calls.length := by
  induction calls generalizing asked with
  | nil => rfl
  | cons call calls ih => rw [outcomes, List.length_cons, List.length_cons, ih]

theorem outcomes_take (calls : List Call) (asked : List Request) (n : Nat) :
    outcomes device respond asked (calls.take n) = (outcomes device respond asked calls).take n := by
  induction calls generalizing asked n with
  | nil => simp [outcomes]
  | cons call calls ih =>
    cases n with
    | zero => rfl
    | succ n => simp only [List.take_succ_cons, outcomes, ih]

/-- The outcome of each call is decided by the answer to its own request. -/
theorem outcomes_getElem? (calls : List Call) (asked : List Request) (i : Nat) :
    (outcomes device respond asked calls)[i]? = calls[i]?.map fun call =>
      call.conclude device
        (respond (((calls.map (request device)).take (i + 1)).reverse ++ asked)) := by
  induction calls generalizing asked i with
  | nil => rfl
  | cons call calls ih =>
    cases i with
    | zero => rfl
    | succ i =>
      rw [outcomes, List.getElem?_cons_succ, ih, List.getElem?_cons_succ, List.map_cons,
        List.take_succ_cons, List.reverse_cons, List.append_assoc]
      rfl

/-- Whatever a transport answers, of any calls in a row each makes one request, its own, before the
next call is made, and its outcome is what the answer to this request says. -/
theorem performAll_faithful (calls : List Call) :
    ∃ (results : List (Except CallError Outcome)) (requests : List Request),
      results.length = calls.length ∧ requests.length = calls.length ∧
      (∀ n, (performAll (.responding respond) device (calls.take n)).run [] =
        (results.take n, (requests.take n).reverse)) ∧
      ∀ (i : Nat) (call : Call), calls[i]? = some call → ∃ request result,
        requests[i]? = some request ∧ results[i]? = some result ∧ call.Asks device request ∧
          call.Faithful request (respond (requests.take (i + 1)).reverse) result := by
  refine ⟨outcomes device respond [] calls, calls.map (request device),
    length_outcomes device respond calls [], List.length_map _, fun n => ?_, fun i call found => ?_⟩
  · rw [performAll_run, outcomes_take, List.map_take, List.append_nil]
  · refine ⟨call.request device, _, by simp [found], ?_, asks_request device call,
      faithful_conclude device call _⟩
    rw [outcomes_getElem?, found, Option.map_some, List.append_nil]

end Call

end StreamRemote
