import StreamRemote.Document.App

/-!
# The list of apps

The root `apps` holds an element `app` for each app. The apps stand in one run: once another
element has interrupted them, a further `app` is a second list and refused. The elements of a run
all have the very name of the first, its prefix included, and no text stands between them.
-/

namespace StreamRemote

open Xml

/-- The apps that a device has, in the order of the document. -/
structure AppList where
  apps : List App
deriving DecidableEq, Repr

namespace AppList

/-- The name of an element of the list. -/
def entryKey : String := "app"

/-- How far the run of apps is. -/
inductive Run where
  | ahead
  /-- within the run of elements of that name -/
  | within (name : List Char)
  | ended
deriving DecidableEq, Repr

/-- The run when an element comes that does not belong to it. -/
def Run.interrupt : Run → Run
  | ahead => ahead
  | within _ | ended => ended

/-- Reads the content of the list behind the apps in `found`, the last of which comes first. -/
def readEntries (run : Run) (found : List App) (trim : Bool) (content : Content) :
    Except ReadError (List App) :=
  match _next : content.next trim with
  | .error cause => .error cause
  | .ok .close => .ok found.reverse
  | .ok .eof => .error .unexpectedEof
  | .ok (.text _ after) =>
    match run with
    | .within _ => .error .expectedElement
    | .ahead | .ended => readEntries run found true after
  | .ok (.element tag inner after) =>
    if run = .within tag.name ∨ (run = .ahead ∧ tag.key = entryKey.toList) then do
      let app ← App.read tag inner
      readEntries (.within tag.name) (app :: found) true after
    else if tag.key = entryKey.toList then .error (.duplicateField entryKey)
    else do
      let trim ← inner.skip
      readEntries run.interrupt found trim after
termination_by content.length
decreasing_by all_goals exact Content.length_next_lt _next rfl

/-- Reads the root of a list of apps. Its attributes have no meaning, but they are checked. -/
def read (tag : Tag) (inner : Content) : Except ReadError AppList :=
  match tag.attributeFault? with
  | some cause => .error (.invalidAttribute cause)
  | none => (readEntries .ahead [] true inner).map AppList.mk

instance : Document AppList where
  root := "apps"
  read := read

end AppList

end StreamRemote
