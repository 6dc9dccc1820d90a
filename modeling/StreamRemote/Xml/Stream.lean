import StreamRemote.Xml.Markup

/-!
# The tokens of a document

`Stream.scan` reads a text piece by piece into a stream of tokens. It keeps the names of the
elements that are open, so every end tag in the stream closes the innermost open element, and an
element without content is followed by an end of its own. A stream stops at the end of the text
or at the first fault; what comes after a fault is never read.
-/

namespace StreamRemote.Xml

/-- What a document is made of. -/
inductive Token where
  /-- text up to the next piece of markup, with its entities as written; never empty -/
  | text (content : List Char)
  | characterData (content : List Char)
  | doctype
  /-- a comment or an instruction -/
  | aside
  | opening (tag : Tag)
  | closing
deriving DecidableEq, Repr

/-- The tokens of a text up to its end or its first fault. -/
inductive Stream where
  | done
  | fault (cause : Fault)
  | token (first : Token) (rest : Stream)
deriving DecidableEq, Repr

/-- Puts tokens in front of a stream. -/
def Stream.prepend (tokens : List Token) (stream : Stream) : Stream :=
  tokens.foldr .token stream

@[simp] theorem Stream.prepend_nil (stream : Stream) : stream.prepend [] = stream := rfl

@[simp] theorem Stream.prepend_cons (token : Token) (tokens : List Token) (stream : Stream) :
    stream.prepend (token :: tokens) = .token token (stream.prepend tokens) := rfl

/-- The name in an end tag: white space behind it does not count, unless nothing else is
there. -/
def endName (inside : List Char) : List Char :=
  if inside.all isSpace then inside else Text.trimEnd isSpace inside

/-- The tokens that a piece of markup gives, and the names that are open behind it. -/
def Markup.tokens (openNames : List (List Char)) :
    Markup → Except Fault (List Token × List (List Char))
  | comment | instruction => .ok ([.aside], openNames)
  | characterData content => .ok ([.characterData content], openNames)
  | doctype => .ok ([.doctype], openNames)
  | opening tag => .ok ([.opening tag], tag.name :: openNames)
  | single tag => .ok ([.opening tag, .closing], openNames)
  | closing inside =>
    match openNames with
    | [] => .error (.mismatch "" (String.ofList inside))
    | name :: outer =>
      if endName inside = name then .ok ([.closing], outer)
      else .error (.mismatch (String.ofList name) (String.ofList (endName inside)))

/-- Reads a text inside the elements of the given names, the innermost one first. A `<` with
nothing behind it ends the text. -/
def Stream.scan (openNames : List (List Char)) : List Char → Stream
  | [] => .done
  | ['<'] => .done
  | '<' :: c :: rest =>
    match _read : Markup.read c rest with
    | .error f => .fault f
    | .ok (piece, behind) =>
      match piece.tokens openNames with
      | .error f => .fault f
      | .ok (tokens, openNames) => (scan openNames behind).prepend tokens
  | c :: rest =>
    .token (.text (c :: rest.takeWhile (· ≠ '<'))) (scan openNames (rest.dropWhile (· ≠ '<')))
termination_by text => text.length
decreasing_by
  · have := Markup.length_read_le _read
    simp only [List.length_cons]
    omega
  · exact Nat.lt_succ_of_le (List.dropWhile_sublist _).length_le

/-- The tokens of a document. A byte order mark in front of it is not part of it. -/
def Stream.ofDocument (document : String) : Stream :=
  match document.toList with
  | '\uFEFF' :: body => scan [] body
  | body => scan [] body

end StreamRemote.Xml
