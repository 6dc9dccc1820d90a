import StreamRemote.Xml.Stream

/-!
# The content of an element

The tokens of a document put into the shape of a tree: the content of an element is a sequence
of texts and elements that ends with the end of the element, or with the end of the input or a
fault if one of these comes first.

`nest` reads a stream from its back. The content it gives first is that of the innermost element
open at that place, and behind it are those that follow for the elements around.
-/

namespace StreamRemote.Xml

/-- What follows inside an element, up to its end or to the place where reading stops. -/
inductive Content where
  /-- the element ends here -/
  | close
  /-- the input ends here -/
  | eof
  /-- nothing behind this place can be read -/
  | fault (cause : Fault)
  | text (content : List Char) (rest : Content)
  | characterData (content : List Char) (rest : Content)
  | doctype (rest : Content)
  | aside (rest : Content)
  | element (tag : Tag) (inner rest : Content)
deriving DecidableEq, Repr

/-- The contents of all elements open in front of a stream, innermost first. An element whose
content does not come to its end has nothing behind it. -/
def Stream.nest : Stream → List Content
  | done => [.eof]
  | fault f => [.fault f]
  | token t rest =>
    match t, rest.nest with
    | .closing, outer => .close :: outer
    | .text s, here :: outer => .text s here :: outer
    | .characterData s, here :: outer => .characterData s here :: outer
    | .doctype, here :: outer => .doctype here :: outer
    | .aside, here :: outer => .aside here :: outer
    | .opening tag, inner :: here :: outer => .element tag inner here :: outer
    | .opening tag, [inner] => [.element tag inner .eof]
    | _, [] => []

/-- There is always a content to go on with. -/
theorem Stream.nest_ne_nil (stream : Stream) : stream.nest ≠ [] := by
  induction stream with
  | done => simp [nest]
  | fault f => simp [nest]
  | token t rest ih =>
    cases hr : rest.nest with
    | nil => exact absurd hr ih
    | cons here outer =>
      cases t with
      | opening tag => cases outer <;> simp [nest, hr]
      | _ => simp [nest, hr]

/-- The content of a whole document. -/
def Content.ofDocument (document : String) : Content :=
  (Stream.ofDocument document).nest.headD .eof

end StreamRemote.Xml
