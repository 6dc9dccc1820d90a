import StreamRemote.Proofs.Xml.Escape
import StreamRemote.Proofs.Xml.FirstElement
import StreamRemote.Proofs.Xml.Reading

/-!
# Reading a content that goes on

An element that is put into a content changes nothing of what is read in front of it. Behind it only
one thing may change: white space at the front of a text is dropped, where it may have been kept.

A `Walker` is a reader that goes through a content from element to element and has no use for the
texts between them. For all of these it is shown what becomes of an element that is put in.

Results:
1. `Content.next_append`: what comes next does not depend on what follows behind an element.
2. `Content.next_true_cases`: what comes next when white space in front of a text is dropped.
3. `Walker.run_append`: reading goes through what stands in front of an element, then through the
   element, and then through what stands behind it.
4. `Walker.exists_run_of_insert`: what is read of a content into which an element is put.
-/

namespace StreamRemote.Xml

/-- What comes next when the content goes on with an element behind its end. -/
def Event.goOn (tag : Tag) (inner behind : Content) : Event → Event
  | close => element tag inner behind
  | eof => eof
  | text s after => text s (after.append (.element tag inner behind))
  | element tag' inner' after => element tag' inner' (after.append (.element tag inner behind))

namespace Content

section Append

variable (tag : Tag) (inner behind : Content)

theorem restOfText_append (c : Content) :
    (c.append (.element tag inner behind)).restOfText =
      c.restOfText.map fun (s, after) => (s, after.append (.element tag inner behind)) := by
  induction c with
  | close | eof | fault | doctype | element => rfl
  | aside _ ih => exact ih
  | characterData s rest ih =>
    rw [append, restOfText, restOfText, ih]
    cases rest.restOfText <;> rfl
  | text s rest ih =>
    have part : textPart s (rest.append (.element tag inner behind)) = textPart s rest :=
      firstPart_append rfl false s rest
    rw [append, restOfText, restOfText, part, ih]
    cases plainText (textPart s rest) with
    | error => rfl
    | ok => cases rest.restOfText <;> rfl

/-- What comes next in a content does not depend on what follows behind an element. -/
theorem next_append (trim : Bool) (c : Content) :
    (c.append (.element tag inner behind)).next trim =
      (c.next trim).map (·.goOn tag inner behind) := by
  induction c generalizing trim with
  | close | eof | fault | element => rfl
  | aside _ ih => exact ih trim
  | doctype _ ih => exact ih true
  | characterData s rest ih =>
    rw [append, next, next, restOfText_append]
    cases rest.restOfText <;> rfl
  | text s rest ih =>
    rw [append, next, next, firstPart_append rfl, restOfText_append]
    split
    · exact ih trim
    · cases plainText (firstPart trim s rest) with
      | error => rfl
      | ok => cases rest.restOfText <;> rfl

end Append

/-! ## White space in front of a text -/

/-- Where an entity stands shows only in its faults. -/
theorem character_ok {start stop : Nat} {name : List Char} {c : Char}
    (h : Entity.character start stop name = .ok c) (start' stop' : Nat) :
    Entity.character start' stop' name = .ok c := by
  unfold Entity.character at h ⊢
  split at h
  · split at h <;> simp_all
  · split at h <;> simp_all

/-- Where a text stands shows only in the faults of its entities. -/
theorem resolveFrom_ok {position : Nat} {s t : List Char}
    (h : Entity.resolveFrom position s = .ok t) (position' : Nat) :
    Entity.resolveFrom position' s = .ok t := by
  fun_induction Entity.resolveFrom position s generalizing t position' with
  | case1 position => rwa [Entity.resolveFrom]
  | case2 position rest stop behind found =>
    rename_i ih
    obtain ⟨d, character, h⟩ := bind_ok h
    obtain ⟨text, resolved, h⟩ := bind_ok h
    rw [Entity.resolveFrom, if_pos rfl]
    split
    · next found' =>
      rw [found] at found'
      cases found'
      simp only [character_ok character, ih resolved]
      exact h
    · next other => exact absurd found (other _)
  | case3 => contradiction
  | case4 position c rest plain ih =>
    obtain ⟨text, resolved, h⟩ := bind_ok h
    rw [Entity.resolveFrom, if_neg plain, ih resolved]
    exact h

/-- A text that can be resolved can be resolved without the white space in front of it. -/
theorem exists_resolve_of_spaces {w s t : List Char} (spaces : w.all isSpace = true)
    (h : Entity.resolve (w ++ s) = .ok t) : ∃ t', Entity.resolve s = .ok t' := by
  suffices behind : ∀ position t, Entity.resolveFrom position (w ++ s) = .ok t →
      ∃ t', Entity.resolveFrom 0 s = .ok t' from behind 0 t h
  clear h
  induction w with
  | nil => exact fun _ t resolved => ⟨t, resolveFrom_ok resolved 0⟩
  | cons c w ih =>
    intro position t resolved
    rw [List.all_cons, Bool.and_eq_true] at spaces
    have plain : c ≠ '&' := by
      rintro rfl
      exact absurd spaces.1 (by decide)
    rw [List.cons_append, Entity.resolveFrom, if_neg plain] at resolved
    obtain ⟨text, resolved, -⟩ := bind_ok resolved
    exact ih spaces.2 _ _ resolved

/-- White space in front of a text is dropped, and the rest of the text counts as before. -/
theorem firstPart_true_cases (s : List Char) (rest : Content) :
    firstPart true s rest = [] ∨ ∃ w, w.all isSpace = true ∧
      textPart s rest = w ++ firstPart true s rest := by
  have whole := Text.eq_takeWhile_append_trimStart isSpace s
  have spaces : (s.takeWhile isSpace).all isSpace = true := List.all_takeWhile
  simp only [firstPart, if_true, textPart]
  split
  · exact .inr ⟨_, spaces, whole.symm⟩
  · cases kept : Text.trimStart isSpace s with
    | nil => exact .inl rfl
    | cons c t =>
      have solid : isSpace c = false := by
        have first := List.head?_dropWhile_not isSpace s
        rw [Text.trimStart] at kept
        rw [kept] at first
        simpa using first
      refine .inr ⟨_, spaces, ?_⟩
      have front := Text.trimEnd_append_cons solid (s.takeWhile isSpace) t
      rw [kept] at whole
      rw [whole] at front
      rw [front]
      exact congrArg _ (Text.trimEnd_append_cons solid [] t).symm

/-- Reading a text from its start, without the white space in front of it, leads to the same place
as reading it as the rest of another one; and where nothing is left of the text, what comes next
there comes next here. -/
theorem next_of_restOfText {c after : Content} {s : List Char}
    (h : c.restOfText = .ok (s, after)) :
    c.next true = after.next true ∨ ∃ s', c.next true = .ok (.text s' after) := by
  induction c generalizing s with
  | close | eof | fault | doctype | element =>
    cases h
    exact .inl rfl
  | aside _ ih => exact ih h
  | characterData t rest ih =>
    obtain ⟨⟨more, after'⟩, found, h⟩ := bind_ok h
    cases h
    refine .inr ⟨t ++ more, ?_⟩
    rw [next, found]
    rfl
  | text t rest ih =>
    obtain ⟨here, plain, h⟩ := bind_ok h
    obtain ⟨⟨more, after'⟩, found, h⟩ := bind_ok h
    cases h
    rw [next]
    split
    · exact ih found
    · next nonempty =>
      obtain ⟨w, spaces, part⟩ := (firstPart_true_cases t rest).resolve_left nonempty
      rw [part] at plain
      obtain ⟨here', resolved⟩ := exists_resolve_of_spaces spaces (mapError_ok_iff.mp plain)
      refine .inr ⟨here' ++ more, ?_⟩
      rw [plainText, resolved, found]
      rfl

/-- With the white space in front of a text dropped, the same comes next, be it another text; or it
was a text, and nothing of it is left. -/
theorem next_true_cases {c : Content} {e : Event} (h : c.next false = .ok e) :
    c.next true = .ok e ∨ ∃ s after, e = .text s after ∧
      (c.next true = after.next true ∨ ∃ s', c.next true = .ok (.text s' after)) := by
  induction c generalizing e with
  | close | eof | element | fault | doctype | characterData => exact .inl h
  | aside _ ih => exact ih h
  | text s rest ih =>
    rw [next] at h
    split at h
    · next empty =>
      have nothing : firstPart true s rest = [] := by
        rcases firstPart_true_cases s rest with nothing | ⟨w, -, part⟩
        · exact nothing
        · have none : textPart s rest = [] := empty
          rw [none] at part
          exact (List.append_eq_nil_iff.mp part.symm).2
      rw [next, if_pos nothing]
      exact ih h
    · obtain ⟨here, plain, h⟩ := bind_ok h
      obtain ⟨⟨more, after⟩, found, h⟩ := bind_ok h
      cases h
      have whole : (text s rest).restOfText = .ok (here ++ more, after) := by
        have plain : plainText (textPart s rest) = .ok here := plain
        rw [restOfText, plain, found]
        rfl
      exact .inr ⟨_, after, rfl, next_of_restOfText whole⟩

end Content

/-! ## Going from element to element -/

/-- A reader that goes through a content: whether a text may stand there, and what becomes of its
state at an element, with the flag of `Content.next` for what follows. -/
structure Walker (σ : Type) where
  text : σ → Except ReadError Unit
  element : σ → Tag → Content → Except ReadError (σ × Bool)

namespace Walker

variable {σ : Type} (walker : Walker σ)

/-- Reads a content up to its end. -/
def run (state : σ) (trim : Bool) (content : Content) : Except ReadError σ :=
  match _next : content.next trim with
  | .error cause => .error cause
  | .ok .close => .ok state
  | .ok .eof => .error .unexpectedEof
  | .ok (.text _ after) => do
    walker.text state
    run state true after
  | .ok (.element tag inner after) => do
    let (state, trim) ← walker.element state tag inner
    run state trim after
termination_by content.length
decreasing_by all_goals exact Content.length_next_lt _next rfl

/-- What reading does with what comes next. -/
def onEvent (state : σ) : Event → Except ReadError σ
  | .close => .ok state
  | .eof => .error .unexpectedEof
  | .text _ after => do
    walker.text state
    walker.run state true after
  | .element tag inner after => do
    let (state, trim) ← walker.element state tag inner
    walker.run state trim after

variable {walker} {state : σ} {trim : Bool} {content : Content}

theorem run_eq (walker : Walker σ) (state : σ) (trim : Bool) (content : Content) :
    walker.run state trim content = content.next trim >>= walker.onEvent state := by
  rw [run]
  split <;> (next same => rw [same]; rfl)

theorem run_text {s : List Char} {after : Content}
    (next : content.next trim = .ok (.text s after)) :
    walker.run state trim content =
      (walker.text state >>= fun _ => walker.run state true after) := by
  rw [run_eq, next]
  rfl

theorem run_element {tag : Tag} {inner after : Content}
    (next : content.next trim = .ok (.element tag inner after)) :
    walker.run state trim content = (walker.element state tag inner >>= fun reached =>
      walker.run reached.1 reached.2 after) := by
  rw [run_eq, next]
  rfl

/-- What a step at an element preserves, reading the content preserves. -/
theorem run_preserves {P : σ → Prop}
    (step : ∀ state tag inner state' trim, P state →
      walker.element state tag inner = .ok (state', trim) → P state')
    {state' : σ} (start : P state) (h : walker.run state trim content = .ok state') : P state' := by
  fun_induction run walker state trim content with
  | case1 | case3 => contradiction
  | case2 =>
    cases h
    exact start
  | case4 state trim content s after next ih =>
    obtain ⟨-, -, h⟩ := bind_ok h
    exact ih start h
  | case5 state trim content tag inner after next ih =>
    obtain ⟨⟨state₁, trim₁⟩, read, h⟩ := bind_ok h
    exact ih state₁ trim₁ (step _ _ _ _ _ start read) h

/-- Reading goes through what stands in front of an element, then through the element, and then
through what stands behind it. -/
theorem run_append (tag : Tag) (inner behind front : Content) :
    walker.run state trim (front.append (.element tag inner behind)) =
      (walker.run state trim front >>= fun state => walker.element state tag inner >>=
        fun reached => walker.run reached.1 reached.2 behind) := by
  fun_induction run walker state trim front with
  | case1 state trim front cause next | case2 state trim front next
  | case3 state trim front next =>
    rw [run_eq, Content.next_append, next]
    rfl
  | case4 state trim front s after next ih =>
    have goesOn : (front.append (.element tag inner behind)).next trim =
        .ok (.text s (after.append (.element tag inner behind))) := by
      rw [Content.next_append, next]
      rfl
    rw [run_text goesOn, ih]
    cases walker.text state <;> rfl
  | case5 state trim front tag' inner' after next ih =>
    have goesOn : (front.append (.element tag inner behind)).next trim =
        .ok (.element tag' inner' (after.append (.element tag inner behind))) := by
      rw [Content.next_append, next]
      rfl
    rw [run_element goesOn]
    cases walker.element state tag' inner' with
    | error cause => rfl
    | ok reached => exact ih reached.1 reached.2

/-- A content that is read is read as well without the white space in front of its first text. -/
theorem run_trim {state' : σ} (h : walker.run state false content = .ok state') :
    walker.run state true content = .ok state' := by
  rw [run_eq] at h
  obtain ⟨e, next, read⟩ := bind_ok h
  rcases Content.next_true_cases next with same | ⟨s, after, rfl, gone | ⟨s', shorter⟩⟩
  · rw [run_eq, same]
    exact read
  · obtain ⟨-, -, behind⟩ := bind_ok read
    rw [run_eq, gone, ← run_eq]
    exact behind
  · rw [run_eq, shorter]
    exact read

/-- What is read of a content into which an element is put, at its start or behind an element: the
element, in the state that the reader has reached there, and then what was there before. -/
theorem exists_run_of_insert {first back : Content} {state' : σ} (settled : first.Settled)
    (h : walker.run state true (first.append back) = .ok state') :
    ∃ here, walker.run state true first = .ok here ∧ walker.run here true back = .ok state' ∧
      ∀ tag inner, walker.run state true (first.append (.element tag inner back)) =
        (walker.element here tag inner >>= fun reached => walker.run reached.1 reached.2 back) := by
  cases settled with
  | start =>
    have nothing : walker.run state true .close = .ok state := by
      rw [run_eq]
      rfl
    refine ⟨state, nothing, h, fun tag inner => ?_⟩
    rw [run_append, nothing]
    rfl
  | @behind first inner tag closed =>
    rw [Content.append_assoc, Content.append, Content.append, run_append] at h
    obtain ⟨front, passed, h⟩ := bind_ok h
    obtain ⟨⟨here, trim⟩, read, h⟩ := bind_ok h
    have reached : walker.run state true (first.append (.element tag inner .close)) = .ok here := by
      rw [run_append, passed]
      show (walker.element front tag inner >>= _) = _
      rw [read]
      show walker.run here trim .close = _
      rw [run_eq]
      rfl
    refine ⟨here, reached, ?_, fun tag' inner' => ?_⟩
    · cases trim with
      | true => exact h
      | false => exact run_trim h
    · rw [run_append, reached]
      rfl

end Walker

end StreamRemote.Xml
