import StreamRemote.Xml.Event

/-!
# Records

An element read as a record: its attributes, its text and the elements inside it are the values
of fields, found by their keys. `@name` is the key of an attribute, `$text` that of the text, and
an element has its name as key; qualified names count by their last part.

A `Schema` lists the fields of a record with their keys and says how each value is read. A field
may be given once only, and what belongs to no field is passed over. The values read so far are
a `Draft`, in which `need` finds what has to be there.
-/

namespace StreamRemote.Xml

/-- Where the value of a field stands. -/
inductive Source where
  /-- between the quotes of an attribute, as written -/
  | attributeValue (written : List Char)
  /-- in the text of the record itself -/
  | text (content : List Char)
  | element (tag : Tag) (inner : Content)
deriving DecidableEq, Repr

/-- The key that an attribute stands for. Declarations of name spaces keep their full name, so
they stand for none. -/
def Attribute.key (a : Attribute) : List Char :=
  if a.name = "xmlns".toList ∨ "xmlns:".toList.isPrefixOf a.name then a.name
  else '@' :: localName a.name

/-- The key that an element stands for. -/
def Tag.key (tag : Tag) : List Char :=
  localName tag.name

/-- The key that the text of a record stands for. -/
def textKey : List Char := "$text".toList

namespace Source

/-- A value of any characters. -/
def string : Source → Except ReadError String
  | attributeValue written => (Content.plainText written).map String.ofList
  | text content => pure (String.ofList content)
  | element _ inner => inner.leafText.map String.ofList

/-- A value that is a plain word; in an attribute it has no entities. -/
def word : Source → Except ReadError String
  | attributeValue written => pure (String.ofList written)
  | text content => pure (String.ofList content)
  | element _ inner => inner.leafText.map String.ofList

/-- The words for true. -/
def trueWords : List String := ["true", "1", "True", "TRUE", "t", "Yes", "YES", "yes", "y"]

/-- The words for false. -/
def falseWords : List String := ["false", "0", "False", "FALSE", "f", "No", "NO", "no", "n"]

/-- The truth value that a word stands for. -/
def readBoolean (s : String) : Except ReadError Bool :=
  if s ∈ trueWords then .ok true
  else if s ∈ falseWords then .ok false
  else .error (.invalidBoolean s)

/-- A truth value. -/
def boolean (source : Source) : Except ReadError Bool := do
  readBoolean (← source.word)

/-- A number of 64 bits. -/
def number (source : Source) : Except ReadError UInt64 := do
  (Text.readWord64 (← source.word)).mapError .invalidNumber

/-- A value that is a record itself, read from an element. -/
def record {α : Type} (read : Tag → Content → Except ReadError α) : Source → Except ReadError α
  | element tag inner => read tag inner
  | attributeValue _ | text _ => .error .expectedElement

end Source

/-- The kinds of plain values. -/
inductive Kind where
  | text
  | flag
  | count
deriving DecidableEq, Repr

/-- What a value of a kind is. -/
def Kind.Value : Kind → Type
  | text => String
  | flag => Bool
  | count => UInt64

/-- Reads a value of a kind. -/
def Kind.read : (kind : Kind) → Source → Except ReadError kind.Value
  | text => Source.string
  | flag => Source.boolean
  | count => Source.number

/-- The fields of a record: their keys, and what they hold and how it is read. -/
structure Schema (F : Type) where
  fields : List F
  key : F → String
  Value : F → Type
  read : (f : F) → Source → Except ReadError (Value f)

/-- The values of a record as far as it has been read. -/
def Schema.Draft {F : Type} (schema : Schema F) : Type :=
  (f : F) → Option (schema.Value f)

namespace Schema

variable {F : Type} [DecidableEq F] (schema : Schema F)

/-- The draft in front of which nothing has been read. -/
def empty : schema.Draft := fun _ => none

variable {schema}

/-- Gives a field its value. -/
def Draft.set (draft : schema.Draft) (f : F) (value : schema.Value f) : schema.Draft :=
  fun g => if same : f = g then some (same ▸ value) else draft g

@[simp] theorem Draft.set_same (draft : schema.Draft) (f : F) (value : schema.Value f) :
    draft.set f value f = some value := by
  simp [Draft.set]

theorem Draft.set_other (draft : schema.Draft) {f g : F} (value : schema.Value f) (h : f ≠ g) :
    draft.set f value g = draft g := by
  simp [Draft.set, h]

/-- The value of a field that has to be there. -/
def Draft.need (draft : schema.Draft) (f : F) : Except ReadError (schema.Value f) :=
  match draft f with
  | some value => .ok value
  | none => .error (.missingField (schema.key f))

variable (schema)

/-- The field with a key. -/
def field? (key : List Char) : Option F :=
  schema.fields.find? fun f => (schema.key f).toList == key

variable {schema}

/-- Reads the value of a field, which must not have one yet. -/
def Draft.read (draft : schema.Draft) (f : F) (source : Source) :
    Except ReadError schema.Draft :=
  if (draft f).isSome then .error (.duplicateField (schema.key f))
  else do
    let value ← schema.read f source
    pure (draft.set f value)

/-- Reads the attributes of a record. -/
def Draft.readAttributes (draft : schema.Draft) :
    List (Except AttributeFault Attribute) → Except ReadError schema.Draft
  | [] => .ok draft
  | .error cause :: _ => .error (.invalidAttribute cause)
  | .ok a :: rest =>
    match schema.field? a.key with
    | none => readAttributes draft rest
    | some f => do
      let draft ← draft.read f (.attributeValue a.value)
      readAttributes draft rest

/-- Reads the content of a record up to its end. -/
def Draft.readContent (draft : schema.Draft) (trim : Bool) (content : Content) :
    Except ReadError schema.Draft :=
  match _next : content.next trim with
  | .error cause => .error cause
  | .ok .close => .ok draft
  | .ok .eof => .error .unexpectedEof
  | .ok (.text s after) =>
    match schema.field? textKey with
    | none => readContent draft true after
    | some f => do
      let draft ← draft.read f (.text s)
      readContent draft true after
  | .ok (.element tag inner after) =>
    match schema.field? tag.key with
    | none => do
      let trim ← inner.skip
      readContent draft trim after
    | some f => do
      let draft ← draft.read f (.element tag inner)
      readContent draft true after
termination_by content.length
decreasing_by all_goals exact Content.length_next_lt _next rfl

variable (schema)

/-- Reads an element as a record. -/
def readElement (tag : Tag) (inner : Content) : Except ReadError schema.Draft := do
  let draft ← schema.empty.readAttributes tag.attributes
  draft.readContent true inner

end Schema

end StreamRemote.Xml
