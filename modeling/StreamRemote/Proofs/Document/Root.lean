import StreamRemote.Document.Basic
import StreamRemote.Proofs.Xml.Escape
import StreamRemote.Proofs.Xml.Reading

/-!
# The root of a document

A document is read if and only if its first element has the name of its type and can be read.
The first element is looked for twice, once for its name and once to read it, and both times it is
the same.

Results:
1. `Document.parse_ok`: what is read is the first element of the body.
2. `Document.parse_of_spells`: a body in which an element with the right name comes first is read
   as this element.
3. `Document.parse_of_elementText`, `Document.parse_of_bodyText`: so is a body that is written as an
   element, with or without something around it.
-/

namespace StreamRemote

/-! ## The element that comes first -/

namespace Xml

/-- The element comes first in the content: only comments, instructions, declarations and texts of
which nothing is left stand in front of it. The flag is that of `Content.next`. -/
inductive Content.Begins (tag : Tag) (inner after : Content) : Bool → Content → Prop
  | element {trim : Bool} : Begins tag inner after trim (.element tag inner after)
  | aside {trim : Bool} {c : Content} :
      Begins tag inner after trim c → Begins tag inner after trim (.aside c)
  | doctype {trim : Bool} {c : Content} :
      Begins tag inner after true c → Begins tag inner after trim (.doctype c)
  | text {trim : Bool} {s : List Char} {c : Content} : firstPart trim s c = [] →
      Begins tag inner after trim c → Begins tag inner after trim (.text s c)

theorem Content.begins_iff {c after inner : Content} {trim : Bool} {tag : Tag} :
    Begins tag inner after trim c ↔ c.next trim = .ok (.element tag inner after) := by
  constructor
  · intro h
    induction h with
    | element => rfl
    | aside _ ih | doctype _ ih => exact ih
    | text empty _ ih => rwa [next, if_pos empty]
  · intro h
    induction c generalizing trim with
    | close | eof | fault => cases h
    | element =>
      cases h
      exact .element
    | aside _ ih => exact .aside (ih h)
    | doctype _ ih => exact .doctype (ih h)
    | characterData s rest _ =>
      obtain ⟨⟨more, after⟩, -, h⟩ := bind_ok h
      cases h
    | text s rest ih =>
      rw [next] at h
      split at h
      · next empty => exact .text empty (ih h)
      · obtain ⟨here, -, h⟩ := bind_ok h
        obtain ⟨⟨more, after⟩, -, h⟩ := bind_ok h
        cases h

/-- An element that comes first does so too where the input ends behind the content. -/
theorem Content.Begins.append_eof {c after inner : Content} {trim : Bool} {tag : Tag}
    (h : Begins tag inner after trim c) :
    Begins tag inner (after.append .eof) trim (c.append .eof) := by
  induction h with
  | element => exact .element
  | aside _ ih => exact .aside ih
  | doctype _ ih => exact .doctype ih
  | text empty _ ih => exact .text ((firstPart_append rfl _ _ _).trans empty) ih

/-- Nothing is left of a text only if it begins with white space. -/
theorem Content.isSpace_of_firstPart {s : List Char} {d : Char} {rest : Content}
    (h : firstPart true (d :: s) rest = []) : isSpace d = true := by
  by_contra solid
  rw [Bool.not_eq_true] at solid
  have kept : Text.trimStart isSpace (d :: s) = [] ++ d :: s := Text.trimStart_cons_of_not solid
  rw [firstPart, if_pos rfl, kept, textPart] at h
  split at h
  · contradiction
  · rw [Text.trimEnd_append_cons solid] at h
    contradiction

/-- A text in which an element comes first has a `<`, and nothing but white space in front of
it can be its first character. -/
theorem Spells.less_of_begins {s : List Char} {c after inner : Content} {tag : Tag}
    (h : Spells s c) (begins : Content.Begins tag inner after true c) :
    '<' ∈ s ∧ ∀ d ∈ s.head?, d = '<' ∨ isSpace d = true := by
  induction h with
  | close => cases begins
  | @text t s c nonempty _ _ _ ih =>
    cases begins with | text empty begins
    obtain ⟨d, t, rfl⟩ := List.exists_cons_of_ne_nil nonempty
    refine ⟨List.mem_append_right _ (ih begins).1, ?_⟩
    rintro _ ⟨⟩
    exact .inr (Content.isSpace_of_firstPart empty)
  | piece _ written | element written =>
    obtain ⟨c, inside, rfl, -⟩ := written
    refine ⟨List.mem_cons_self, ?_⟩
    rintro _ ⟨⟩
    exact .inl rfl

end Xml

open Xml

namespace Document

/-! ## What is read of a body -/

/-- A body without a byte order mark is the text of its document. -/
theorem documentText_of_unmarked {body : String} (unmarked : body.toList.head? ≠ some '\uFEFF') :
    documentText body = body.toList := by
  unfold documentText
  split
  · next mark =>
    rw [mark] at unmarked
    contradiction
  · rfl

theorem rootTag_ok {c : Content} {tag : Tag} (h : rootTag c = .ok tag) :
    ∃ inner others, c.elements = (tag, inner) :: others := by
  induction c with
  | close | eof | fault => cases h
  | text _ _ ih | characterData _ _ ih | doctype _ ih | aside _ ih => exact ih h
  | element tag inner rest =>
    cases h
    exact ⟨inner, rest.elements, rfl⟩

variable {α : Type} [Document α]

theorem readRoot_ok {c : Content} {a : α} (h : readRoot α c = .ok a) :
    ∃ tag inner after, c.next true = .ok (.element tag inner after) ∧
      Document.read tag inner = .ok a := by
  obtain ⟨e, next, h⟩ := bind_ok h
  cases e with
  | close | eof | text => cases h
  | element tag inner after => exact ⟨tag, inner, after, next, h⟩

/-- What is read of a body is what comes first in it, an element with the name of its type. -/
theorem exists_next_of_parse {body : String} {a : α} (h : parse α body = .ok a) :
    ∃ tag inner after, (Content.ofDocument body).next true = .ok (.element tag inner after) ∧
      tag.key = (Document.root α).toList ∧ Document.read tag inner = .ok a := by
  unfold parse at h
  split at h
  · contradiction
  · obtain ⟨found, named, h⟩ := bind_ok (mapError_ok_iff.mp h)
    split at h
    · next same =>
      -- the element that is read is the one whose name was compared: both come first
      obtain ⟨tag, inner, after, next, read⟩ := readRoot_ok h
      obtain ⟨tag', first, shown⟩ := map_ok named
      obtain ⟨inner', others', elements'⟩ := rootTag_ok first
      rw [(Content.elements_next next).1] at elements'
      cases elements'
      refine ⟨tag, inner, after, next, ?_, read⟩
      rw [← same, ← shown, String.toList_ofList]
    · contradiction

/-- What is read of a body is its first element, which has the name of its type. -/
theorem parse_ok {body : String} {a : α} (h : parse α body = .ok a) :
    ∃ tag inner others, (Content.ofDocument body).elements = (tag, inner) :: others ∧
      tag.key = (Document.root α).toList ∧ Document.read tag inner = .ok a := by
  obtain ⟨tag, inner, after, next, named, read⟩ := exists_next_of_parse h
  exact ⟨tag, inner, _, (Content.elements_next next).1, named, read⟩

/-! ## Bodies that are read -/

theorem rootTag_of_begins {c after inner : Content} {trim : Bool} {tag : Tag}
    (h : Content.Begins tag inner after trim c) : rootTag c = .ok tag := by
  induction h with
  | element => rfl
  | aside _ ih | doctype _ ih | text _ _ ih => exact ih

/-- What is not blank is read if its root has the name of the type. -/
theorem parse_of_shown {body : String} (shown : body.toList.all Text.isBlank = false) :
    parse α body = (rootName (Content.ofDocument body) >>= fun found =>
      if found = Document.root α then readRoot α (Content.ofDocument body)
      else throw (.wrongRoot (Document.root α) found)).mapError .unreadable := by
  rw [parse, shown]
  rfl

/-- The name that is compared is that of the element that comes first. -/
theorem rootName_of_next {c after inner : Content} {trim : Bool} {tag : Tag}
    (first : c.next trim = .ok (.element tag inner after)) :
    rootName c = .ok (String.ofList tag.key) := by
  rw [rootName, rootTag_of_begins (Content.begins_iff.mpr first)]
  rfl

/-- A body in which an element with the name of its type comes first is read as this element. -/
theorem parse_of_next {body : String} {after inner : Content} {tag : Tag}
    (bracket : '<' ∈ body.toList)
    (first : (Content.ofDocument body).next true = .ok (.element tag inner after))
    (named : tag.key = (Document.root α).toList) :
    parse α body = (Document.read tag inner).mapError .unreadable := by
  have shown : body.toList.all Text.isBlank = false :=
    List.all_eq_false.mpr ⟨_, bracket, by decide⟩
  rw [parse_of_shown shown, rootName_of_next first, named, String.ofList_toList]
  show (if Document.root α = Document.root α then readRoot α (Content.ofDocument body)
    else _ : Except ReadError α).mapError _ = _
  rw [if_pos rfl, readRoot, first]
  rfl

/-- The same for a body that is spelled as a whole. -/
theorem parse_of_spells {body : String} {c after inner : Content} {tag : Tag}
    (spelled : Spells body.toList c) (begins : Content.Begins tag inner after true c)
    (named : tag.key = (Document.root α).toList) :
    parse α body = (Document.read tag inner).mapError .unreadable := by
  obtain ⟨bracket, first⟩ := spelled.less_of_begins begins
  have unmarked : body.toList.head? ≠ some '\uFEFF' := by
    intro mark
    rcases first _ mark with less | space <;> contradiction
  have text := documentText_of_unmarked unmarked
  have content : Content.ofDocument body = c.append .eof := by
    rw [Content.ofDocument, Stream.ofDocument_eq, text, spelled.nest_scan_alone]
    rfl
  have next := Content.begins_iff.mp begins.append_eof
  rw [← content] at next
  exact parse_of_next bracket next named

/-- The same for a body that is nothing but a root without attributes. -/
theorem parse_of_elementText {body : String} {name inside : List Char} {content : Content}
    (text : ElementText ⟨name, []⟩ inside body.toList) (plain : PlainName name)
    (named : name = (Document.root α).toList) (spelled : Spells inside content) :
    parse α body = (Document.read ⟨name, []⟩ content).mapError .unreadable := by
  have whole := text.spells (Tag.plain_of_name plain) spelled .close
  rw [List.append_nil] at whole
  have key : Tag.key ⟨name, []⟩ = (Document.root α).toList := plain.localName_eq.trans named
  exact parse_of_spells whole .element key

/-! ## Bodies around a root -/

/-- The text is a body with the element as its root: white space and comments may stand around the
root, and an instruction such as the declaration of the version in front of all. -/
inductive BodyText (tag : Tag) (inside : List Char) : List Char → Prop
  | bare {s : List Char} :
      RowText (fun _ : Unit => ElementText tag inside) [()] s → BodyText tag inside s
  | declared {content s : List Char} : content ≠ [] → '>' ∉ content →
      RowText (fun _ : Unit => ElementText tag inside) [()] s →
      BodyText tag inside (instructionText content ++ s)

/-- The root of a body comes first in it. -/
theorem BodyText.exists_begins {tag : Tag} {inside s : List Char} {inner : Content}
    (h : BodyText tag inside s) (plain : tag.Plain) (spelled : Spells inside inner) :
    ∃ c after, Spells s c ∧ Content.Begins tag inner after true c := by
  have root : ∀ t, RowText (fun _ : Unit => ElementText tag inside) [()] t →
      ∃ c after, Spells t c ∧ Content.Begins tag inner after true c := by
    intro t row
    obtain ⟨c, elements, spells, isRow, same⟩ :=
      @RowText.exists_row _ _ (fun _ e => e = (tag, inner)) _ _ row fun _ _ text =>
        ⟨tag, inside, inner, rfl, plain, spelled, text⟩
    cases same with | cons first none
    cases none
    cases first
    obtain ⟨after, next, -⟩ := isRow
    exact ⟨c, after, spells, Content.begins_iff.mpr next⟩
  cases h with
  | bare row => exact root s row
  | declared nonempty closed row =>
    obtain ⟨c, after, spells, begins⟩ := root _ row
    exact ⟨.aside c, after, .of_instruction nonempty closed spells, .aside begins⟩

/-- A body around a root is read as the root. -/
theorem parse_of_bodyText {body : String} {tag : Tag} {inside : List Char} {inner : Content}
    (text : BodyText tag inside body.toList) (plain : tag.Plain) (spelled : Spells inside inner)
    (named : tag.name = (Document.root α).toList) :
    parse α body = (Document.read tag inner).mapError .unreadable := by
  obtain ⟨c, after, spells, begins⟩ := text.exists_begins plain spelled
  exact parse_of_spells spells begins (plain.name.localName_eq.trans named)

end Document

end StreamRemote
