import Mathlib.Control.Monad.Basic
import StreamRemote.Http.Reply
import StreamRemote.Proofs.Call

/-!
# Replies that are refused for their status

A request has succeeded if the status of the reply lies between 200 and 299. What is refused is
something else: the statuses from 400 on. Below 400 the status plays no part, so that a redirection,
which is no success, passes for one: a command is taken to be carried out, and the body that comes
with the redirection is read as the document that was asked for.

Results:
1. `Exchange.answer_status_iff`: which replies are refused for their status, and with which one.
2. `Call.refused_iff`: what a reply makes of a call.
3. `Call.redirection_not_refused`: a redirection that is not refused.
-/

namespace StreamRemote

/-- The status says that the request has succeeded. -/
def Reply.IsSuccess (reply : Reply) : Prop :=
  200 ≤ reply.status ∧ reply.status ≤ 299

/-- The exchange in which each request is noted down and gets this reply. -/
def Http.replying (reply : Reply) : Request → Recorded Exchange := fun request => do
  modify (request :: ·)
  pure (.ok reply)

/-! ## Requests -/

namespace Exchange

variable {reply : Reply}

theorem answer_of_refused (h : 400 ≤ reply.status) (method : Method) :
    answer method (.ok reply) = .error (.status reply.status) := by
  simp only [answer, Exchange.reply, if_pos h]
  rfl

theorem answer_post (h : reply.status < 400) : answer .post (.ok reply) = .ok "" := by
  simp only [answer, Exchange.reply, if_neg (Nat.not_le.mpr h)]
  rfl

theorem answer_get (h : reply.status < 400) : answer .get (.ok reply) = reply.body := by
  simp only [answer, Exchange.reply, if_neg (Nat.not_le.mpr h)]
  rfl

/-- What can be wrong with a body is not the status of its reply. -/
theorem body_ne_status (reply : Reply) (code : Nat) : reply.body ≠ .error (.status code) := by
  unfold Reply.body
  split
  · nofun
  · split
    · nofun
    · split <;> nofun

/-- A request is refused for the status of its reply if and only if this is 400 or above. -/
theorem answer_status_iff {method : Method} {code : Nat} :
    answer method (.ok reply) = .error (.status code) ↔
      code = reply.status ∧ 400 ≤ reply.status := by
  by_cases refused : 400 ≤ reply.status
  · rw [answer_of_refused refused]
    simp [refused, eq_comm]
  · have passed := Nat.not_le.mp refused
    have other : answer method (.ok reply) ≠ .error (.status code) := by
      cases method with
      | get =>
        rw [answer_get passed]
        exact body_ne_status reply code
      | post =>
        rw [answer_post passed]
        nofun
    exact ⟨fun h => absurd h other, fun h => absurd h.2 refused⟩

/-- A command is answered if and only if it is not refused. -/
theorem answer_post_ok_iff :
    (∃ body, answer .post (.ok reply) = .ok body) ↔ reply.status < 400 := by
  constructor
  · rintro ⟨body, h⟩
    refine Nat.not_le.mp fun refused => ?_
    rw [answer_of_refused refused] at h
    contradiction
  · exact fun passed => ⟨"", answer_post passed⟩

/-- A query is answered if and only if it is not refused and the body can be read. -/
theorem answer_get_ok_iff {body : String} :
    answer .get (.ok reply) = .ok body ↔ reply.status < 400 ∧ reply.body = .ok body := by
  by_cases refused : 400 ≤ reply.status
  · rw [answer_of_refused refused]
    simp [Nat.not_lt.mpr refused]
  · have passed := Nat.not_le.mp refused
    rw [answer_get passed]
    simp [passed]

end Exchange

/-! ## Calls -/

namespace Call

/-- What a reply makes of a call, which makes one request.

* The request is refused with a status if and only if this is the status of the reply and is 400 or
  above.
* A command fails with the status in this case, and otherwise is taken to be carried out.
* A query fails with the status in this case, and otherwise it is answered by the body of the reply,
  if that can be read. -/
theorem refused_iff (device : Device) (call : Call) (reply : Reply) (asked : List Request) :
    ∃ outcome, (perform (.overHttp (Http.replying reply)) device call).run asked =
        (outcome, call.request device :: asked) ∧
      (∀ method code, Exchange.answer method (.ok reply) = .error (.status code) ↔
        code = reply.status ∧ 400 ≤ reply.status) ∧
      (call.IsCommand →
        (∀ code, outcome = .error (.commandFailed (call.request device).url (.status code)) ↔
          code = reply.status ∧ 400 ≤ reply.status) ∧
        (outcome = .ok .done ↔ reply.status < 400)) ∧
      ∀ q, call = .query q →
        (∀ code, outcome =
            .error (.queryFailed (call.request device).url (.transport (.status code))) ↔
          code = reply.status ∧ 400 ≤ reply.status) ∧
        ∀ found, outcome = .ok found ↔
          reply.status < 400 ∧ ∃ body, reply.body = .ok body ∧ q.Answers body found := by
  have faithful := faithful_conclude device call
    (Exchange.answer (call.request device).method (.ok reply))
  refine ⟨_, rfl, fun _ _ => Exchange.answer_status_iff, fun command => ⟨fun code => ?_, ?_⟩,
    fun q same => ⟨fun code => ?_, fun found => ?_⟩⟩
  · rw [← Exchange.answer_status_iff]
    exact faithful.commandFailed command (.status code)
  · rw [← Exchange.answer_post_ok_iff, ← (conclude_of_isCommand device command (.ok "")).1]
    exact faithful.done command
  · rw [← Exchange.answer_status_iff]
    exact faithful.unanswered q same (.status code)
  · subst same
    have answered := @Faithful.ok_iff _ _ _ _ faithful found
    simp only [request, Exchange.answer_get_ok_iff, and_assoc, exists_and_left] at answered
    exact answered

/-- A redirection is no success and is not refused: to whoever asks for the list of apps its body is
the list, and to whoever launches an app it is the word that this was done. -/
theorem redirection_not_refused :
    let reply : Reply := ⟨302, "<apps/>".toUTF8, none⟩
    ¬ reply.IsSuccess ∧
      (∀ method, Exchange.answer method (.ok reply) ≠ .error (.status 302)) ∧
      ((perform (.overHttp (Http.replying reply)) ⟨"tv", 8060⟩ (query .apps)).run []).1 =
        .ok (.apps []) ∧
      ((perform (.overHttp (Http.replying reply)) ⟨"tv", 8060⟩ (launchApp "12")).run []).1 =
        .ok .done := by
  intro reply
  have passed : reply.status < 400 := by decide
  have decoded : Text.Utf8.decode "<apps/>".toUTF8 = "<apps/>" := by decide +kernel
  have body : reply.body = .ok "<apps/>" := congrArg Except.ok decoded
  have read : Document.parse AppList "<apps/>" = .ok ⟨[]⟩ := by decide +kernel
  refine ⟨fun success => absurd success.2 (by decide), fun method refused => ?_, ?_, rfl⟩
  · have large := (Exchange.answer_status_iff.mp refused).2
    exact absurd passed (Nat.not_lt.mpr large)
  · have answered : Exchange.answer .get (.ok reply) = .ok "<apps/>" :=
      Exchange.answer_get_ok_iff.mpr ⟨passed, body⟩
    have outcome := (conclude_body_iff ⟨"tv", 8060⟩ .apps "<apps/>").1 (.apps [])
    show (query .apps).conclude ⟨"tv", 8060⟩ (Exchange.answer .get (.ok reply)) = _
    rw [answered]
    exact outcome.mpr (.apps read)

end Call

end StreamRemote
