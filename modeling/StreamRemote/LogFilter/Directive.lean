import StreamRemote.LogFilter.Field
import StreamRemote.LogFilter.Level
import StreamRemote.Text.Alphanumeric
import StreamRemote.Text.Blank
import StreamRemote.Text.Bytes

/-!
# Directives of log filters

A directive says how much is logged for a target, for the spans of a name, or for spans with
certain fields: `target[span\x7bfield=value\x7d]=level`, where each part may be missing.

A directive is read character by character. White space around it is passed over, but the places
at which its parts are cut are counted without the white space in front, while the parts are cut
from the text that still has it.
-/

namespace StreamRemote

/-- How much is logged where. -/
structure Directive where
  target : Option String
  span : Option String
  fields : List FieldMatch
  level : LogLevel
deriving DecidableEq, Repr

/-- Why a text is no directive. -/
inductive DirectiveError where
  | malformed
  | unknownLevel
deriving DecidableEq, Repr

/-- The wording of a directive's error. -/
def DirectiveError.message : DirectiveError → String
  | malformed => "invalid filter directive"
  | unknownLevel =>
    "error parsing level filter: expected one of \"off\", \"error\", \"warn\", \"info\", " ++
      "\"debug\", \"trace\", or a number 0-5"

namespace Directive

/-- The directive that logs everything everywhere. -/
def everything : Directive := ⟨none, none, [], .trace⟩

/-! ## Reading -/

/-- Where in a directive a reader is; `start` is the place where the part it is in begins. -/
inductive Place where
  | outset
  /-- in the first word, which is a level or a target -/
  | firstWord
  | span (start : Nat)
  | field (start : Nat)
  | behindField
  | behindTarget
  | level (start : Nat)
deriving DecidableEq, Repr

/-- A character with which a first word can begin. -/
def beginsWord (c : Char) : Bool :=
  Text.isAlphanumeric c || c == '-' || c == ':' || c == '_'

/-- The part of a text between two places. Places that are counted without the white space in front
of a directive can lie within a character of the text that has it. That is no place to cut at, and a
reader may stop there for good; here the whole character goes to the part in front, so that there is
a part for any two places. -/
def cut (piece : List Char) (start stop : Nat) : List Char :=
  Text.dropBytes start (Text.takeBytes stop piece)

/-- Reads the character at a place, with the directive as far as it is known. -/
def step (piece : List Char) (directive : Directive) (place : Place) (i : Nat) (c : Char) :
    Except DirectiveError (Directive × Place) :=
  match place with
  | .outset =>
    if c = '[' then .ok (directive, .span (i + 1))
    else if beginsWord c then .ok (directive, .firstWord)
    else .error .malformed
  | .firstWord =>
    let target := some (String.ofList (cut piece 0 i))
    if c = '=' then .ok ({ directive with target }, .level (i + 1))
    else if c = '[' then .ok ({ directive with target }, .span (i + 1))
    else .ok (directive, place)
  | .span start =>
    let name := cut piece start i
    if c = ']' then .ok ({ directive with span := some (String.ofList name) }, .behindTarget)
    else if c = '\x7b' then
      let span := if name = [] then none else some (String.ofList name)
      .ok ({ directive with span }, .field (i + 1))
    else .ok (directive, place)
  | .field start =>
    let text := cut piece start i
    if c = '\x7d' then
      if text = [] then .error .malformed
      else .ok ({ directive with fields := directive.fields ++ [.ofText text] }, .behindField)
    else .ok (directive, place)
  | .behindField => if c = ']' then .ok (directive, .behindTarget) else .error .malformed
  | .behindTarget => if c = '=' then .ok (directive, .level (i + 1)) else .error .malformed
  | .level _ => .ok (directive, place)

/-- What a directive is when nothing follows. -/
def finish (piece : List Char) (directive : Directive) :
    Place → Except DirectiveError Directive
  | .firstWord =>
    match LogLevel.read? (String.ofList piece) with
    | some level => .ok { directive with level }
    | none => .ok { directive with target := some (String.ofList piece) }
  | .level start =>
    let text := Text.dropBytes start piece
    if text = [] then .ok directive
    else
      match LogLevel.read? (String.ofList text) with
      | some level => .ok { directive with level }
      | none => .error .unknownLevel
  | .behindTarget => .ok directive
  | .outset | .span _ | .field _ | .behindField => .error .malformed

/-- Reads the characters from a place on. -/
def readFrom (piece : List Char) (directive : Directive) (place : Place) (i : Nat) :
    List Char → Except DirectiveError Directive
  | [] => finish piece directive place
  | c :: rest =>
    match step piece directive place i c with
    | .error e => .error e
    | .ok (directive, place) => readFrom piece directive place (i + c.utf8Size) rest

/-- Reads a directive. -/
def read (piece : List Char) : Except DirectiveError Directive :=
  readFrom piece everything .outset 0 (Text.trim Text.isBlank piece)

/-! ## Writing -/

/-- What a directive applies to. -/
def scope (d : Directive) : String :=
  let fields :=
    if d.fields = [] then ""
    else "\x7b" ++ String.intercalate "," (d.fields.map FieldMatch.render) ++ "\x7d"
  d.target.getD "" ++
    if d.span = none ∧ d.fields = [] then "" else "[" ++ d.span.getD "" ++ fields ++ "]"

/-- The text of a directive. -/
def render (d : Directive) : String :=
  if d.target = none ∧ d.span = none ∧ d.fields = [] then d.level.name
  else d.scope ++ "=" ++ d.level.name

/-! ## What a directive depends on -/

/-- The directive depends on spans. -/
def isDynamic (d : Directive) : Bool :=
  d.span.isSome || !d.fields.isEmpty

/-- The directive depends on the values of fields. -/
def asksForValue (d : Directive) : Bool :=
  d.fields.any fun field => field.value.isSome

/-- The directive can be applied without looking at spans. -/
def isStatic (d : Directive) : Bool :=
  d.span.isNone && !d.asksForValue

/-- The order of lists of fields, as in a dictionary. -/
def orderFields : List FieldMatch → List FieldMatch → Ordering
  | [], [] => .eq
  | [], _ :: _ => .lt
  | _ :: _, [] => .gt
  | a :: as, b :: bs => (a.order b).then (orderFields as bs)

/-- The order by how specific directives are: by the length of the target, by whether there is a
span, by the number of fields, and then, as in a dictionary, by these parts themselves. -/
def order (a b : Directive) : Ordering :=
  (compare (a.target.map String.utf8ByteSize) (b.target.map String.utf8ByteSize)).then <|
    (compare a.span.isSome b.span.isSome).then <|
      (compare a.fields.length b.fields.length).then <|
        (compare a.target b.target).then <|
          (compare a.span b.span).then (orderFields a.fields b.fields)

end Directive

end StreamRemote
