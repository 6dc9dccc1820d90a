import StreamRemote.Xml.Content
import StreamRemote.Xml.Error

/-!
# Reading content in order

What a reader of the content of an element meets: texts, elements, and the end.

Neighbouring pieces of text and character data are one text, also across comments and
instructions. White space at the two ends of a text does not count, and a text of nothing else is
not there at all; character data counts as it is written. `Content.next` gives what comes next
and what follows it, `Content.leafText` reads an element that holds nothing but text, and
`Content.skip` passes over an element that nobody asked for.

The flag of `next` says whether white space at the front of a text is dropped. It is off only
behind some elements that were passed over: see `Content.toEnd`.
-/

namespace StreamRemote.Xml

/-- What comes next in the content of an element. -/
inductive Event where
  | close
  | eof
  | text (content : List Char) (after : Content)
  | element (tag : Tag) (inner after : Content)
deriving DecidableEq, Repr

/-- What follows an event, if anything can. -/
def Event.after? : Event → Option Content
  | .close | .eof => none
  | .text _ after | .element _ _ after => some after

namespace Content

/-- Text or character data comes next, with nothing but comments and instructions in between. -/
def continuesText : Content → Bool
  | text _ _ | characterData _ _ => true
  | aside rest => rest.continuesText
  | _ => false

/-- The part of a text that counts when `rest` follows it: white space at its back is dropped
unless the text goes on. -/
def textPart (s : List Char) (rest : Content) : List Char :=
  if rest.continuesText then s else Text.trimEnd isSpace s

/-- The part of a text that counts when it is the first one: with `trim`, white space at its
front is dropped too. -/
def firstPart (trim : Bool) (s : List Char) (rest : Content) : List Char :=
  textPart (if trim then Text.trimStart isSpace s else s) rest

/-- The characters that a written text stands for. -/
def plainText (s : List Char) : Except ReadError (List Char) :=
  (Entity.resolve s).mapError .invalidEntity

/-- Reads on in a text that has begun, and gives the rest of it with what follows. -/
def restOfText : Content → Except ReadError (List Char × Content)
  | text s rest => do
    let here ← plainText (textPart s rest)
    let (more, after) ← rest.restOfText
    pure (here ++ more, after)
  | characterData s rest => do
    let (more, after) ← rest.restOfText
    pure (s ++ more, after)
  | aside rest => rest.restOfText
  | other => pure ([], other)

/-- What comes next. With `trim`, white space in front of a text is dropped. -/
def next (trim : Bool) : Content → Except ReadError Event
  | close => pure .close
  | eof => pure .eof
  | fault cause => throw (.markup cause)
  | element tag inner rest => pure (.element tag inner rest)
  | aside rest => rest.next trim
  | doctype rest => rest.next true
  | characterData s rest => do
    let (more, after) ← rest.restOfText
    pure (.text (s ++ more) after)
  | text s rest =>
    if firstPart trim s rest = [] then rest.next trim
    else do
      let here ← plainText (firstPart trim s rest)
      let (more, after) ← rest.restOfText
      pure (.text (here ++ more) after)

/-- The text of an element that holds nothing else. A second text can only stand behind a document
type declaration, which has no place inside an element, and a reader may stop there for good; here
it is refused, so that there is an answer for each content. -/
def leafText (content : Content) : Except ReadError (List Char) := do
  match ← content.next true with
  | .close => pure []
  | .eof => throw .unexpectedEof
  | .element tag _ _ => throw (.unexpectedElement tag.name)
  | .text s after =>
    match ← after.next true with
    | .close => pure s
    | .eof => throw .unexpectedEof
    | .element tag _ _ => throw (.unexpectedElement tag.name)
    | .text _ _ => throw .expectedElement

/-! ## Passing over elements -/

/-- Goes to the end of an element, with no regard to anything but the nesting of elements. An
input that ends early, and be it inside a piece of markup, is reported as just that. -/
def passOver : Content → Except ReadError Unit
  | close => pure ()
  | eof | fault (.unfinished _) => throw .unexpectedEof
  | fault cause => throw (.markup cause)
  | text _ rest | characterData _ rest | doctype rest | aside rest => rest.passOver
  | element _ inner rest => do
    inner.passOver
    rest.passOver

/-- Goes to the end of an element from a place where one token is read ahead, and tells whether
the white space at the front of the next text is dropped. It is not when the token read ahead
belongs to a text, for then that text is the last thing seen in front of it. -/
def toEnd (trim : Bool) : Content → Except ReadError Bool
  | close => pure true
  | eof => throw .unexpectedEof
  | fault cause => throw (.markup cause)
  | aside rest => rest.toEnd trim
  | doctype rest => do
    rest.passOver
    pure true
  | text s rest =>
    if trim && s.all isSpace then rest.toEnd trim
    else do
      rest.passOver
      pure false
  | characterData _ rest => do
    rest.passOver
    pure false
  | element _ inner rest => do
    inner.passOver
    rest.passOver
    pure true

/-- Passes over the content of an element that nobody asked for, and tells whether the white
space at the front of the next text is dropped. What comes first in it is still read. -/
def skip (content : Content) : Except ReadError Bool := do
  match ← content.next true with
  | .close => pure true
  | .eof => throw .unexpectedEof
  | .text _ after => after.toEnd true
  | .element _ inner after =>
    let trim ← inner.toEnd true
    after.toEnd trim

/-! ## Reading goes forward -/

/-- How many tokens and elements follow on this level. -/
def length : Content → Nat
  | close | eof | fault _ => 0
  | text _ rest | characterData _ rest | doctype rest | aside rest | element _ _ rest =>
    rest.length + 1

theorem length_restOfText_le {c after : Content} {s : List Char}
    (h : c.restOfText = .ok (s, after)) : after.length ≤ c.length := by
  induction c generalizing s with
  | text t rest ih =>
    rw [restOfText] at h
    cases hp : plainText (textPart t rest) with
    | error e => rw [hp] at h; contradiction
    | ok here =>
      cases hr : rest.restOfText with
      | error e => rw [hp, hr] at h; contradiction
      | ok p =>
        rw [hp, hr] at h
        cases h
        exact Nat.le_succ_of_le (ih hr)
  | characterData t rest ih =>
    rw [restOfText] at h
    cases hr : rest.restOfText with
    | error e => rw [hr] at h; contradiction
    | ok p =>
      rw [hr] at h
      cases h
      exact Nat.le_succ_of_le (ih hr)
  | aside rest ih => exact Nat.le_succ_of_le (ih h)
  | close | eof | fault _ | doctype _ _ | element _ _ _ _ _ =>
    cases h
    exact Nat.le_refl _

/-- What follows a text or an element is shorter than what it was read from. -/
theorem length_next_lt {c after : Content} {trim : Bool} {e : Event}
    (h : c.next trim = .ok e) (follows : e.after? = some after) : after.length < c.length := by
  induction c generalizing trim with
  | close | eof =>
    cases h
    contradiction
  | fault f => contradiction
  | element tag inner rest =>
    cases h
    cases follows
    exact Nat.lt_succ_self _
  | aside rest ih | doctype rest ih => exact Nat.lt_succ_of_lt (ih h)
  | characterData s rest ih =>
    rw [next] at h
    cases hr : rest.restOfText with
    | error e => rw [hr] at h; contradiction
    | ok p =>
      rw [hr] at h
      cases h
      cases follows
      exact Nat.lt_succ_of_le (length_restOfText_le hr)
  | text s rest ih =>
    rw [next] at h
    split at h
    · exact Nat.lt_succ_of_lt (ih h)
    · cases hp : plainText (firstPart trim s rest) with
      | error e => rw [hp] at h; contradiction
      | ok here =>
        cases hr : rest.restOfText with
        | error e => rw [hp, hr] at h; contradiction
        | ok p =>
          rw [hp, hr] at h
          cases h
          cases follows
          exact Nat.lt_succ_of_le (length_restOfText_le hr)

end Content

end StreamRemote.Xml
