import StreamRemote.Text.Bytes
import StreamRemote.Xml.Markup

/-!
# Attributes

The attributes of a start tag, in order. An attribute is a name, `=` and a value in quotes of
either kind; white space may stand around the `=`, and none is needed between two attributes. No
two attributes of a tag have the same name.

Reading stops at the first thing that is wrong, so `Tag.attributes` is a list of attributes, with
a fault at its end if there is one. Places are counted in bytes from the start of the name of the
element.
-/

namespace StreamRemote.Xml

/-- What is wrong with an attribute, and where. -/
inductive AttributeFault where
  /-- something other than `=` follows the name -/
  | expectedEquals (position : Nat)
  /-- nothing follows the `=` -/
  | expectedValue (position : Nat)
  /-- the value does not begin with a quote -/
  | unquotedValue (position : Nat)
  /-- the value does not end with its quote -/
  | missingQuote (position : Nat) (quote : Char)
  /-- an attribute of this name stands at `previous` already -/
  | duplicated (position previous : Nat)
deriving DecidableEq, Repr

/-- The wording of an attribute's fault. -/
def AttributeFault.message : AttributeFault → String
  | expectedEquals position =>
    "position " ++ toString position ++
      ": attribute key must be directly followed by `=` or space"
  | expectedValue position =>
    "position " ++ toString position ++ ": `=` must be followed by an attribute value"
  | unquotedValue position =>
    "position " ++ toString position ++ ": attribute value must be enclosed in `\"` or `'`"
  | missingQuote position quote =>
    "position " ++ toString position ++ ": missing closing quote `" ++ String.singleton quote ++
      "` in attribute value"
  | duplicated position previous =>
    "position " ++ toString position ++
      ": duplicated attribute, previous declaration at position " ++ toString previous

/-- An attribute with its value as written between the quotes. -/
structure Attribute where
  name : List Char
  value : List Char
deriving DecidableEq, Repr

namespace Attribute

/-- A character that ends the name of an attribute. -/
def endsName (c : Char) : Bool :=
  c == '=' || isSpace c

/-- Reads a value behind its `=`, and gives it with what stands behind its quotes; `total` is the
length of the whole tag. -/
def readValue (total : Nat) (s : List Char) : Except AttributeFault (List Char × List Char) :=
  match s.dropWhile isSpace with
  | [] => .error (.expectedValue total)
  | q :: rest =>
    if q = '"' ∨ q = '\'' then
      match rest.dropWhile (· ≠ q) with
      | [] => .error (.missingQuote total q)
      | _ :: behind => .ok (rest.takeWhile (· ≠ q), behind)
    else .error (.unquotedValue (total - Text.byteLength (q :: rest)))

theorem length_readValue_lt {total : Nat} {s value behind : List Char}
    (h : readValue total s = .ok (value, behind)) : behind.length < s.length := by
  have outer := (List.dropWhile_sublist (l := s) isSpace).length_le
  rw [readValue] at h
  split at h
  · contradiction
  · next q rest found =>
    rw [found, List.length_cons] at outer
    split at h
    · have inner := (List.dropWhile_sublist (l := rest) (· ≠ q)).length_le
      split at h
      · contradiction
      · next quote behind found =>
        rw [found, List.length_cons] at inner
        cases h
        omega
    · contradiction

/-- Reads attributes one after the other. `seen` holds the names read so far with their places,
and `total` is the length of the whole tag. -/
def readAll (total : Nat) (seen : List (List Char × Nat)) (s : List Char) :
    List (Except AttributeFault Attribute) :=
  match _name : s.dropWhile isSpace with
  | [] => []
  | c :: rest =>
    let name := c :: rest.takeWhile (!endsName ·)
    let position := total - Text.byteLength (c :: rest)
    match _equals : (rest.dropWhile (!endsName ·)).dropWhile isSpace with
    | '=' :: behind =>
      match seen.lookup name with
      | some previous => [.error (.duplicated position previous)]
      | none =>
        match _value : readValue total behind with
        | .error f => [.error f]
        | .ok (value, behind) =>
          .ok ⟨name, value⟩ :: readAll total ((name, position) :: seen) behind
    | other => [.error (.expectedEquals (total - Text.byteLength other))]
termination_by s.length
decreasing_by
  have first := (List.dropWhile_sublist (l := s) isSpace).length_le
  have second := (List.dropWhile_sublist (l := rest) (!endsName ·)).length_le
  have third := (List.dropWhile_sublist (l := rest.dropWhile (!endsName ·)) isSpace).length_le
  have fourth := length_readValue_lt _value
  rw [_name, List.length_cons] at first
  rw [_equals, List.length_cons] at third
  omega

end Attribute

/-- The attributes of a tag up to the first fault. -/
def Tag.attributes (tag : Tag) : List (Except AttributeFault Attribute) :=
  Attribute.readAll (Text.byteLength tag.name + Text.byteLength tag.tail) [] tag.tail

/-- The first thing that is wrong with the attributes of a tag. -/
def Tag.attributeFault? (tag : Tag) : Option AttributeFault :=
  tag.attributes.findSome? fun
    | .error cause => some cause
    | .ok _ => none

end StreamRemote.Xml
