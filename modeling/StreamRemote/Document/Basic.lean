import StreamRemote.Text.Blank
import StreamRemote.Xml.Record

/-!
# Documents

A device answers a query with a document. Its type shows in the name of its root, the first
element in it: `Document.parse` compares that name before it reads anything, so no document is
taken for one of another type.
-/

namespace StreamRemote

open Xml

/-- A type of documents: the name of the root and how the root is read. -/
class Document (α : Type) where
  root : String
  read : Tag → Content → Except ReadError α

/-- Why a body is no document of the type asked for. -/
inductive DocumentError where
  /-- the body is empty or holds nothing but white space -/
  | emptyBody
  | unreadable (cause : ReadError)
deriving DecidableEq, Repr

/-- The wording of a document's error. -/
def DocumentError.message : DocumentError → String
  | emptyBody => "empty response body"
  | unreadable cause => "XML parse error: " ++ cause.message

namespace Document

/-- The tag of the first element, whatever stands in front of it. -/
def rootTag : Content → Except ReadError Tag
  | .close | .eof => .error .noRoot
  | .fault cause => .error (.markup cause)
  | .text _ rest | .characterData _ rest | .doctype rest | .aside rest => rootTag rest
  | .element tag _ _ => .ok tag

/-- The name by which the type of a document is known. -/
def rootName (content : Content) : Except ReadError String :=
  (rootTag content).map fun tag => String.ofList tag.key

/-- Reads the root, which comes first in the document. -/
def readRoot (α : Type) [Document α] (content : Content) : Except ReadError α := do
  match ← content.next true with
  | .element tag inner _ => Document.read tag inner
  | .eof => throw .unexpectedEof
  | .text _ _ | .close => throw .expectedElement

/-- Reads the content of a document. -/
def ofContent (α : Type) [Document α] (content : Content) : Except ReadError α := do
  let found ← rootName content
  if found = Document.root α then readRoot α content
  else throw (.wrongRoot (Document.root α) found)

/-- Reads a body as a document. -/
def parse (α : Type) [Document α] (body : String) : Except DocumentError α :=
  if body.toList.all Text.isBlank then .error .emptyBody
  else (ofContent α (Content.ofDocument body)).mapError .unreadable

end Document

end StreamRemote
