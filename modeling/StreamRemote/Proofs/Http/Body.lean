import StreamRemote.Proofs.Http.Status
import StreamRemote.Proofs.Text.Utf8

/-!
# Bodies of replies

The same exchange may come of a query and of a command. Both fail for the same reasons on the way to
the reply. Behind that a command asks for nothing more, and a query still has to read the body: it
must be there as far as it was declared, and must not be too long. Nothing else can be wrong with
it, since bytes that are not UTF-8 are replaced.

* `Reply.Carries` says which bytes are the body of a reply, if it has one.
* `Exchange.Classified` says which answers of a query and a command go with an exchange.

Results:
1. `Reply.body_ok_iff`: which bodies are read, and as which text.
2. `Transport.overHttp_classified`: what a query and a command make of the same exchange.
-/

namespace StreamRemote

open Text

/-- The way to exchange requests in which each request is noted down and comes to the same. -/
def Http.scripted (exchange : Exchange) : Request → Recorded Exchange := fun request => do
  modify (request :: ·)
  pure exchange

/-- The bytes are the body of the reply: all data if no length is declared, and otherwise as many of
them as are declared. Data that end before that carry no body. -/
inductive Reply.Carries (reply : Reply) : List UInt8 → Prop
  | undeclared : reply.declared = none → Carries reply reply.data.data.toList
  | declared {bytes behind : List UInt8} : reply.declared = some bytes.length →
      reply.data.data.toList = bytes ++ behind → Carries reply bytes

/-- The answers of a query and of a command to which the exchange came, `got` and `posted`.

* `succeeded`: a command succeeds if and only if there is a reply with a status below 400.
* `failed`: what a command fails with, a query fails with too. It is a status, or an error of the
  connection.
* `passed`: where a command succeeds, a query does so too, or fails for the body.
* `ignored`: a command comes to the same whatever the body is and whatever length is declared.
* `read`: unless its status leaves no body, the reply to a query that succeeds has a body of ten
  mebibytes at most, and what is read is the text that the bytes of the body stand for.
* `unchanged`: such a body that is UTF-8 comes back as it was written. -/
structure Exchange.Classified (exchange : Exchange) (got posted : Answer) : Prop where
  succeeded : (∃ body, posted = .ok body) ↔ ∃ reply, exchange = .ok reply ∧ reply.status < 400
  failed : ∀ e, posted = .error e →
    got = .error e ∧ ((∃ code, e = .status code) ∨ ∃ cause, e = .network cause)
  passed : ∀ body, posted = .ok body →
    (∃ text, got = .ok text) ∨ ∃ cause, got = .error (.body cause)
  ignored : ∀ reply other, exchange = .ok reply → other.status = reply.status →
    answer .post (.ok other) = posted
  read : ∀ reply, exchange = .ok reply → reply.status ≠ 204 → reply.status ≠ 304 → ∀ text,
    got = .ok text ↔ reply.status < 400 ∧
      ∃ bytes, reply.Carries bytes ∧ bytes.length ≤ 10485760 ∧ Utf8.StandsFor bytes text.toList
  unchanged : ∀ reply, exchange = .ok reply → reply.status ≠ 204 → reply.status ≠ 304 →
    reply.status < 400 → ∀ text : String, reply.Carries text.toUTF8.data.toList →
      text.utf8ByteSize ≤ 10485760 → got = .ok text

/-! ## Bodies -/

namespace Reply

variable {reply : Reply}

/-- The body of a reply is what is left when its data are cut to the declared length. -/
theorem carries_iff {bytes : List UInt8} :
    reply.Carries bytes ↔ reply.isCut = false ∧ bytes = reply.payload.data.toList := by
  obtain ⟨status, data, _ | length⟩ := reply
  · constructor
    · rintro (_ | @⟨_, behind, ⟨⟩, _⟩)
      exact ⟨rfl, rfl⟩
    · rintro ⟨-, rfl⟩
      exact .undeclared rfl
  · have cut : (payload ⟨status, data, some length⟩).data.toList =
        data.data.toList.take length := by
      simp [payload, ByteArray.data_extract, Array.toList_extract]
    have reached : isCut ⟨status, data, some length⟩ = false ↔
        length ≤ data.data.toList.length := by
      show decide (data.size < length) = false ↔ _
      rw [decide_eq_false_iff_not, Nat.not_lt, Array.length_toList]
      rfl
    rw [cut, reached]
    constructor
    · intro h
      obtain ⟨⟨⟩⟩ | @⟨_, behind, same, whole⟩ := h
      cases same
      change data.data.toList = bytes ++ behind at whole
      rw [whole, List.take_left']
      · simp
      · rfl
    · rintro ⟨long, rfl⟩
      refine .declared ?_ (List.take_append_drop length data.data.toList).symm
      rw [List.length_take, Nat.min_eq_left long]

/-- A body is read if it is there and within the limit, as the text that its bytes stand for. -/
theorem body_ok_iff {text : String} (full : isBodiless reply.status = false) :
    reply.body = .ok text ↔
      ∃ bytes, reply.Carries bytes ∧ bytes.length ≤ 10485760 ∧
        Utf8.StandsFor bytes text.toList := by
  have size : reply.payload.data.toList.length = reply.payload.size := Array.length_toList
  have limit : bodyLimit = 10485760 := rfl
  simp only [carries_iff, and_assoc, exists_and_left, exists_eq_left, size, ← Utf8.decode_eq_iff,
    ← limit]
  unfold body
  rw [full]
  cases cut : reply.isCut <;> by_cases large : bodyLimit < reply.payload.size <;>
    simp [large, Nat.not_le.mpr, Nat.not_lt.mp]

/-- What can be wrong with a body is nothing else. -/
theorem body_ok_or_error (reply : Reply) :
    (∃ text, reply.body = .ok text) ∨ ∃ cause, reply.body = .error (.body cause) := by
  unfold body
  split
  · exact .inl ⟨_, rfl⟩
  · split
    · exact .inr ⟨_, rfl⟩
    · split
      · exact .inr ⟨_, rfl⟩
      · exact .inl ⟨_, rfl⟩

end Reply

/-! ## Exchanges -/

namespace Exchange

/-- A status that leaves a body is one of which the body is looked at. -/
theorem isBodiless_eq_false {status : Nat} (content : status ≠ 204) (changed : status ≠ 304) :
    Reply.isBodiless status = false := by
  simp [Reply.isBodiless, content, changed]

theorem classified_of_network (cause : String) :
    Classified (.error cause) (answer .get (.error cause)) (answer .post (.error cause)) := by
  have same (method : Method) :
      answer method (.error cause) = .error (.network ("Network Error: " ++ cause)) := rfl
  rw [same, same]
  refine ⟨?_, fun e failed => ?_, nofun, nofun, nofun, nofun⟩
  · simp
  · cases failed
    exact ⟨rfl, .inr ⟨_, rfl⟩⟩

theorem classified_of_refused {reply : Reply} (refused : 400 ≤ reply.status) :
    Classified (.ok reply) (answer .get (.ok reply)) (answer .post (.ok reply)) := by
  have large := Nat.not_lt.mpr refused
  rw [answer_of_refused refused, answer_of_refused refused]
  refine ⟨?_, fun e failed => ?_, nofun, ?_, ?_, ?_⟩
  · simp [large]
  · cases failed
    exact ⟨rfl, .inl ⟨_, rfl⟩⟩
  · rintro _ other ⟨⟩ same
    rw [← same]
    exact answer_of_refused (same ▸ refused) .post
  · rintro _ ⟨⟩ - - text
    simp [large]
  · rintro _ ⟨⟩ - - passed
    exact absurd passed large

theorem classified_of_passed {reply : Reply} (passed : reply.status < 400) :
    Classified (.ok reply) (answer .get (.ok reply)) (answer .post (.ok reply)) := by
  rw [answer_get passed, answer_post passed]
  refine ⟨?_, nofun, fun _ _ => reply.body_ok_or_error, ?_, ?_, ?_⟩
  · simp [passed]
  · rintro _ other ⟨⟩ same
    exact answer_post (same ▸ passed)
  · rintro _ ⟨⟩ content changed text
    rw [Reply.body_ok_iff (isBodiless_eq_false content changed)]
    simp [passed]
  · rintro _ ⟨⟩ content changed - text carries small
    rw [Reply.body_ok_iff (isBodiless_eq_false content changed)]
    refine ⟨_, carries, ?_, ?_⟩
    · exact small
    · rw [String.toUTF8_eq_toByteArray, Utf8.toList_data_toByteArray]
      exact Utf8.standsFor_flatMap text.toList

theorem classified_answer (exchange : Exchange) :
    exchange.Classified (answer .get exchange) (answer .post exchange) := by
  rcases exchange with cause | reply
  · exact classified_of_network cause
  · rcases Nat.lt_or_ge reply.status 400 with passed | refused
    · exact classified_of_passed passed
    · exact classified_of_refused refused

end Exchange

/-- Whatever comes of the exchange, a query and a command to the same address make one request each.
If the command fails, the query fails in the same way, for the status or for the connection; and if
it succeeds, which has nothing to do with the body, the query fails for nothing but the body, or
reads the whole of it. -/
theorem Transport.overHttp_classified (url : String) (exchange : Exchange)
    (asked : List Request) :
    ∃ got posted,
      (overHttp (Http.scripted exchange) ⟨.get, url⟩).run asked = (got, ⟨.get, url⟩ :: asked) ∧
      (overHttp (Http.scripted exchange) ⟨.post, url⟩).run asked = (posted, ⟨.post, url⟩ :: asked) ∧
      exchange.Classified got posted :=
  ⟨_, _, rfl, rfl, exchange.classified_answer⟩

end StreamRemote
