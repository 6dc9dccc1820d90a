import StreamRemote.Document.Basic

/-!
# Apps

An app that a device has, as an element inside other documents: attributes tell its id, its type
and its version, and the text is its name.
-/

namespace StreamRemote

open Xml

/-- An app. -/
structure App where
  id : Option String
  kind : Option String
  version : Option String
  name : String
deriving DecidableEq, Repr

namespace App

/-- The fields of an app. -/
inductive Field where
  | id
  | kind
  | version
  | name
deriving DecidableEq, Repr

/-- How an app is written. -/
def schema : Schema Field where
  fields := [.id, .kind, .version, .name]
  key
    | .id => "@id"
    | .kind => "@type"
    | .version => "@version"
    | .name => "$text"
  Value _ := String
  read _ := Source.string

/-- An app without text has the empty name. -/
def ofDraft (draft : schema.Draft) : App where
  id := draft .id
  kind := draft .kind
  version := draft .version
  name := (draft .name).getD ""

/-- Reads an element as an app. -/
def read (tag : Tag) (inner : Content) : Except ReadError App :=
  (schema.readElement tag inner).map ofDraft

/-- The app shows what is plugged into the device. -/
def isTvInput (app : App) : Bool :=
  app.kind == some "tvin"

end App

end StreamRemote
