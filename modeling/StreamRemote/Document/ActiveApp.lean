import StreamRemote.Document.App

/-!
# The app in the foreground

The root `active-app` holds the app that runs, and the screensaver if one is shown over it.
-/

namespace StreamRemote

open Xml

/-- What a device shows. -/
structure ActiveApp where
  app : App
  screensaver : Option App
deriving DecidableEq, Repr

namespace ActiveApp

/-- The fields of the document. -/
inductive Field where
  | app
  | screensaver
deriving DecidableEq, Repr

/-- How the document is written. -/
def schema : Schema Field where
  fields := [.app, .screensaver]
  key
    | .app => "app"
    | .screensaver => "screensaver"
  Value _ := App
  read _ := Source.record App.read

/-- An app has to run, be it the home screen. -/
def ofDraft (draft : schema.Draft) : Except ReadError ActiveApp := do
  let app ← draft.need .app
  pure ⟨app, draft .screensaver⟩

instance : Document ActiveApp where
  root := "active-app"
  read tag inner := do
    let draft ← schema.readElement tag inner
    ofDraft draft

/-- The home screen is the app without an id. -/
def isHome (active : ActiveApp) : Bool :=
  active.app.id.isNone

end ActiveApp

end StreamRemote
