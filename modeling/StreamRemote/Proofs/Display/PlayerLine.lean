import Mathlib.Logic.Function.Basic
import StreamRemote.Display
import StreamRemote.Proofs.Text.Quoted
import StreamRemote.Proofs.Text.Split

/-!
# What the line about a player tells

The line about a player begins with what the player does. A state that is not known is shown as the
device tells it, in quotes, so that no text of a device can pass for a state that is known, or for
the time behind it, or break the line. The time is shown in whole seconds, and how long the media
are only if it is known how far the player is.

* `PlaybackState.word` is the word for a state.
* `PlayerStatus.TimeAlike` says that the times of two players differ in nothing that is shown.

Results:
1. `PlaybackState.describe_append_inj`: a state and what stands behind it can be told from the two
   together.
2. `PlayerStatus.renderTime_eq_iff`: which times are shown alike.
3. `PlayerStatus.render_tells_state`: states show, and the line tells the state and the time if the
   app that plays has no name.
-/

namespace StreamRemote

/-! ## States -/

namespace PlaybackState

/-- The word that stands for a state. -/
def word : PlaybackState → String
  | playing => "play"
  | paused => "pause"
  | buffering => "buffer"
  | stopped => "stop"
  | startup => "startup"
  | closed => "close"
  | idle => "none"
  | unknown word => word

theorem word_ofWord (text : String) : (ofWord text).word = text := by
  unfold ofWord
  repeat' split
  all_goals simp_all [word]

/-- No two words stand for the same state. -/
theorem ofWord_injective : Function.Injective ofWord :=
  Function.LeftInverse.injective word_ofWord

/-- The name of a state, which is the same for all that are not known. -/
def kind : PlaybackState → String
  | playing => "Playing"
  | paused => "Paused"
  | buffering => "Buffering"
  | stopped => "Stopped"
  | startup => "Startup"
  | closed => "Closed"
  | idle => "Idle"
  | unknown _ => "Unknown"

/-- What is shown behind the name of a state: the word, if the state is not known. -/
def detail : PlaybackState → List Char
  | unknown word => '(' :: ((Text.quoted word).toList ++ [')'])
  | _ => []

theorem toList_describe (state : PlaybackState) :
    state.describe.toList = state.kind.toList ++ state.detail := by
  cases state with
  | unknown word => simp [describe, kind, detail]
  | _ => simp [describe, kind, detail]

theorem isAlpha_of_mem_kind (state : PlaybackState) :
    ∀ c ∈ state.kind.toList, c.isAlpha = true := by
  cases state with
  | unknown word => simp [kind]
  | _ => exact List.all_eq_true.mp (by decide)

/-- The name tells a state that is known. -/
theorem eq_or_unknown_of_kind {state other : PlaybackState} (h : state.kind = other.kind) :
    state = other ∨ ∃ word word', state = unknown word ∧ other = unknown word' := by
  cases state <;> cases other <;> simp_all [kind]

/-- A state and what stands behind it can be told from the two together, if that begins with a
blank. -/
theorem describe_append_inj {state other : PlaybackState} {s t : List Char}
    (blank : ∀ c ∈ s.head?, c = ' ') (blank' : ∀ c ∈ t.head?, c = ' ')
    (h : state.describe.toList ++ s = other.describe.toList ++ t) : state = other ∧ s = t := by
  have behind : ∀ (state : PlaybackState) {s : List Char}, (∀ c ∈ s.head?, c = ' ') →
      ∀ c ∈ (state.detail ++ s).head?, c.isAlpha = false := by
    intro state s blank c hc
    cases state with
    | unknown word =>
      cases hc
      rfl
    | _ =>
      rw [blank c hc]
      rfl
  rw [toList_describe, toList_describe, List.append_assoc, List.append_assoc] at h
  obtain ⟨name, rest⟩ := cut_append (isAlpha_of_mem_kind state) (behind state blank)
  obtain ⟨name', rest'⟩ := cut_append (isAlpha_of_mem_kind other) (behind other blank')
  rw [h] at name rest
  have details := rest.symm.trans rest'
  rcases eq_or_unknown_of_kind (String.toList_inj.mp (name.symm.trans name')) with
    rfl | ⟨word, word', rfl, rfl⟩
  · exact ⟨rfl, List.append_cancel_left details⟩
  · simp only [detail, List.cons_append, List.append_assoc, List.cons.injEq, true_and] at details
    obtain ⟨rfl, same⟩ := Text.quoted_append_inj details
    exact ⟨rfl, (List.cons.inj same).2⟩

theorem describe_inj {state other : PlaybackState} :
    state.describe = other.describe ↔ state = other := by
  refine ⟨fun h => ?_, congrArg describe⟩
  have alone : state.describe.toList ++ [] = other.describe.toList ++ [] := by rw [h]
  exact (describe_append_inj (by simp) (by simp) alone).1

/-- All of a state shows, whatever its word is. -/
theorem isPrintable_of_mem_describe {state : PlaybackState} {c : Char}
    (h : c ∈ state.describe.toList) : Text.isPrintable c = true := by
  rw [toList_describe] at h
  rcases List.mem_append.mp h with name | behind
  · exact Text.isPrintable_of_isAlpha (isAlpha_of_mem_kind state c name)
  · cases state with
    | unknown word =>
      simp only [detail, List.mem_cons, List.mem_append, List.not_mem_nil, or_false] at behind
      rcases behind with rfl | quoted | rfl
      · exact Text.isPrintable_of_ascii (by decide) (by decide)
      · exact Text.isPrintable_of_mem_quoted quoted
      · exact Text.isPrintable_of_ascii (by decide) (by decide)
    | _ => contradiction

end PlaybackState

/-! ## Times -/

namespace PlayerStatus

/-- The whole seconds in a duration. -/
def wholeSeconds (millis : UInt64) : Nat :=
  millis.toNat / 1000

/-- The times are shown alike: the players are equally far, as far as this is known and in whole
seconds, and if it is known, the same goes for how long their media are. -/
structure TimeAlike (status other : PlayerStatus) : Prop where
  position : status.positionMillis.map wholeSeconds = other.positionMillis.map wholeSeconds
  duration : status.positionMillis ≠ none →
    status.durationMillis.map wholeSeconds = other.durationMillis.map wholeSeconds

/-- What is shown behind the position. -/
def upTo : Option UInt64 → List Char
  | some duration => " / ".toList ++ (seconds duration).toList
  | none => []

/-- What is shown of a position, with something behind it. -/
def timeAt (behind : List Char) : Option UInt64 → List Char
  | some position => " at ".toList ++ ((seconds position).toList ++ behind)
  | none => []

variable {status other : PlayerStatus}

theorem seconds_append_inj {millis millis' : UInt64} {s s' : List Char}
    (h : (seconds millis).toList ++ s = (seconds millis').toList ++ s') :
    wholeSeconds millis = wholeSeconds millis' ∧ s = s' := by
  simp only [seconds, String.toList_append, List.append_assoc] at h
  have unit : ∀ s : List Char, ∀ c ∈ ("s".toList ++ s).head?, (Text.digit? c).isSome = false := by
    rintro s _ ⟨⟩
    rfl
  obtain ⟨number, rest⟩ := Text.toString_append_inj (unit s) (unit s') h
  exact ⟨number, List.append_cancel_left rest⟩

theorem seconds_congr {millis millis' : UInt64} (h : wholeSeconds millis = wholeSeconds millis') :
    seconds millis = seconds millis' := by
  unfold wholeSeconds at h
  rw [seconds, seconds, h]

theorem upTo_eq_iff {duration duration' : Option UInt64} :
    upTo duration = upTo duration' ↔ duration.map wholeSeconds = duration'.map wholeSeconds := by
  cases duration with
  | none => cases duration' <;> simp [upTo]
  | some millis =>
    cases duration' with
    | none => simp [upTo]
    | some millis' =>
      simp only [upTo, List.append_cancel_left_eq, Option.map_some, Option.some.injEq]
      constructor
      · intro h
        exact (seconds_append_inj (congrArg (· ++ []) h)).1
      · intro h
        rw [seconds_congr h]

theorem timeAt_eq_iff {position position' : Option UInt64} {behind behind' : List Char} :
    timeAt behind position = timeAt behind' position' ↔
      position.map wholeSeconds = position'.map wholeSeconds ∧
        (position ≠ none → behind = behind') := by
  cases position with
  | none => cases position' <;> simp [timeAt]
  | some millis =>
    cases position' with
    | none => simp [timeAt]
    | some millis' =>
      simp only [timeAt, List.append_cancel_left_eq, Option.map_some, Option.some.injEq]
      constructor
      · intro h
        obtain ⟨same, rest⟩ := seconds_append_inj h
        exact ⟨same, fun _ => rest⟩
      · rintro ⟨same, rest⟩
        rw [seconds_congr same, rest (Option.some_ne_none _)]

theorem toList_renderTime (status : PlayerStatus) :
    status.renderTime.toList = timeAt (upTo status.durationMillis) status.positionMillis := by
  rw [renderTime]
  cases status.positionMillis with
  | none => rfl
  | some position => cases status.durationMillis <;> simp [timeAt, upTo]

/-- The time begins with a blank, if there is any. -/
theorem head_renderTime (status : PlayerStatus) :
    ∀ c ∈ status.renderTime.toList.head?, c = ' ' := by
  rw [toList_renderTime]
  cases status.positionMillis with
  | none => nofun
  | some position =>
    rintro _ ⟨⟩
    rfl

/-- The time tells the whole seconds. -/
theorem renderTime_eq_iff : status.renderTime = other.renderTime ↔ status.TimeAlike other := by
  rw [← String.toList_inj, toList_renderTime, toList_renderTime, timeAt_eq_iff, upTo_eq_iff]
  exact ⟨fun ⟨position, duration⟩ => ⟨position, duration⟩,
    fun ⟨position, duration⟩ => ⟨position, duration⟩⟩

/-! ## Lines -/

theorem render_of_nameless (h : status.plugin.bind Plugin.name = none) :
    status.render = status.playbackState.describe ++ status.renderTime := by
  rw [render, renderPlugin, h]
  simp

/-- The line about a player without the name of an app tells its state and its time. -/
theorem render_eq_iff (nameless : status.plugin.bind Plugin.name = none)
    (nameless' : other.plugin.bind Plugin.name = none) :
    status.render = other.render ↔ status.state = other.state ∧ status.TimeAlike other := by
  rw [render_of_nameless nameless, render_of_nameless nameless', ← renderTime_eq_iff]
  constructor
  · intro h
    have whole := congrArg String.toList h
    rw [String.toList_append, String.toList_append] at whole
    obtain ⟨state, time⟩ := PlaybackState.describe_append_inj (head_renderTime status)
      (head_renderTime other) whole
    exact ⟨PlaybackState.ofWord_injective state, String.toList_inj.mp time⟩
  · rintro ⟨state, time⟩
    rw [playbackState, playbackState, state, time]

/-- What the device said about a player can be told from the line about it.

* No two words give the same state, and no two states are shown alike.
* A state is shown in one line, without control characters, and all of it shows.
* Two players without the name of an app are shown alike only if they are in the same state and at
  the same time. -/
theorem render_tells_state :
    (∀ word word' : String, PlaybackState.ofWord word = .ofWord word' ↔ word = word') ∧
    (∀ word word' : String,
      (PlaybackState.ofWord word).describe = (PlaybackState.ofWord word').describe ↔
        word = word') ∧
    (∀ word : String, Text.lines (PlaybackState.ofWord word).describe =
      [(PlaybackState.ofWord word).describe]) ∧
    (∀ word : String, ∀ c ∈ (PlaybackState.ofWord word).describe.toList,
      ¬ Text.IsControl c ∧ Text.isPrintable c = true) ∧
    ∀ status other : PlayerStatus, status.plugin.bind Plugin.name = none →
      other.plugin.bind Plugin.name = none →
      (status.render = other.render ↔ status.state = other.state ∧ status.TimeAlike other) := by
  have shows : ∀ word : String, ∀ c ∈ (PlaybackState.ofWord word).describe.toList,
      ¬ Text.IsControl c ∧ Text.isPrintable c = true := fun word c mem =>
    have shown := PlaybackState.isPrintable_of_mem_describe mem
    ⟨Text.not_isControl_of_isPrintable shown, shown⟩
  refine ⟨fun word word' => PlaybackState.ofWord_injective.eq_iff, fun word word' => ?_,
    fun word => ?_, shows, fun status other nameless nameless' => ?_⟩
  · rw [PlaybackState.describe_inj, PlaybackState.ofWord_injective.eq_iff]
  · refine Text.lines_of_not_mem fun feed => (shows word _ feed).1 (.inl (by decide))
  · exact render_eq_iff nameless nameless'

/-- A state that looks like one with a time behind it is still shown otherwise, and a position is
shown alike throughout a second. -/
theorem render_tells_state_lookalike :
    let status (state : String) (position duration : Option String) : PlayerStatus :=
      ⟨state, none, none, none, none, position, duration, none, none⟩
    (status "x\") at 1s" none none).render ≠ (status "x" (some "1000 ms") none).render ∧
      (status "x" (some "1000 ms") none).render =
        (status "x" (some "1999") (some "soon")).render := by
  intro status
  obtain ⟨-, -, -, -, told⟩ := render_tells_state
  refine ⟨fun same => ?_, ?_⟩
  · have states := ((told _ _ rfl rfl).mp same).1
    exact absurd states (by decide)
  · refine (told _ _ rfl rfl).mpr ⟨rfl, ?_, fun _ => ?_⟩
    · decide +kernel
    · decide +kernel

end PlayerStatus

end StreamRemote
