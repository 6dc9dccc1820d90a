import Mathlib.Data.List.Nodup
import StreamRemote.Xml.Record
import StreamRemote.Proofs.Steps
import StreamRemote.Proofs.Xml.Outline

/-!
# What reading says about a content

A reader that gives an answer has gone through the whole content up to its end, and each element
of the content was met on the way: none is lost behind a text, a comment or an element that is
passed over.

Results:
1. `Content.elements_next`: what comes next accounts for all elements that follow.
2. `Content.leafText_ok`: an element of which the text is read holds no element.
3. `Schema.Lawful.field?_eq_some_iff`: each field is found by its key, and by no other one.
4. `Schema.Draft.readContent_ok`: the fields of a record that was read, and the elements that
   they were read from.
-/

namespace StreamRemote.Xml

/-! ## Elements and ends -/

/-- The elements that an event accounts for: itself, if it is one, and those that follow. -/
def Event.elements : Event → List (Tag × Content)
  | close | eof => []
  | text _ after => after.elements
  | element tag inner after => (tag, inner) :: after.elements

/-- The end of the element is met, or will be. -/
def Event.closes : Event → Bool
  | close => true
  | eof => false
  | text _ after | element _ _ after => after.closes

namespace Content

/-- What counts of a text does not change when the content goes on with something that is no
text. -/
theorem firstPart_append {behind : Content} (ends : behind.continuesText = false) (trim : Bool)
    (s : List Char) (c : Content) : firstPart trim s (c.append behind) = firstPart trim s c := by
  have same : (c.append behind).continuesText = c.continuesText := by
    induction c with
    | close => exact ends
    | aside _ ih => exact ih
    | _ => rfl
  simp only [firstPart, textPart, same]

theorem restOfText_ok {c after : Content} {s : List Char} (h : c.restOfText = .ok (s, after)) :
    c.elements = after.elements ∧ c.closes = after.closes := by
  induction c generalizing s with
  | text t rest ih =>
    obtain ⟨here, -, h⟩ := bind_ok h
    obtain ⟨⟨more, after'⟩, found, h⟩ := bind_ok h
    cases h
    exact ih found
  | characterData t rest ih =>
    obtain ⟨⟨more, after'⟩, found, h⟩ := bind_ok h
    cases h
    exact ih found
  | aside rest ih => exact ih h
  | close | eof | fault | doctype | element =>
    cases h
    exact ⟨rfl, rfl⟩

/-- What comes next accounts for all the elements that follow, and for the end. -/
theorem elements_next {c : Content} {trim : Bool} {e : Event} (h : c.next trim = .ok e) :
    c.elements = e.elements ∧ c.closes = e.closes := by
  induction c generalizing trim with
  | close | eof | element =>
    cases h
    exact ⟨rfl, rfl⟩
  | fault => cases h
  | aside rest ih | doctype rest ih => exact ih h
  | characterData s rest ih =>
    obtain ⟨⟨more, after⟩, found, h⟩ := bind_ok h
    cases h
    have whole := restOfText_ok found
    exact whole
  | text s rest ih =>
    rw [next] at h
    split at h
    · exact ih h
    · obtain ⟨here, -, h⟩ := bind_ok h
      obtain ⟨⟨more, after⟩, found, h⟩ := bind_ok h
      cases h
      have whole := restOfText_ok found
      exact whole

/-- An element of which the text is read holds no element, and comes to its end. -/
theorem leafText_ok {c : Content} {s : List Char} (h : c.leafText = .ok s) :
    c.elements = [] ∧ c.closes = true := by
  obtain ⟨e, first, h⟩ := bind_ok h
  obtain ⟨elements, closes⟩ := elements_next first
  cases e with
  | close => exact ⟨elements, closes⟩
  | eof | element => cases h
  | text t after =>
    obtain ⟨e, second, h⟩ := bind_ok h
    obtain ⟨elements', closes'⟩ := elements_next second
    cases e with
    | close => exact ⟨elements.trans elements', closes.trans closes'⟩
    | eof | element | text => cases h

end Content

/-! ## Records -/

/-- A tag with nothing behind its name has no attributes. -/
theorem Tag.attributes_of_name (name : List Char) : (⟨name, []⟩ : Tag).attributes = [] := by
  rw [attributes, Attribute.readAll]
  rfl

namespace Schema

variable {F : Type}

/-- The schema lists all fields with keys of their own, and none of them is one that no attribute
has because declarations of name spaces keep their full name. -/
structure Lawful (schema : Schema F) : Prop where
  mem : ∀ f, f ∈ schema.fields
  once : (schema.fields.map schema.key).Nodup
  declaration : "@xmlns" ∉ schema.fields.map schema.key

variable {schema : Schema F}

theorem Lawful.key_injective (lawful : schema.Lawful) {f g : F}
    (h : schema.key f = schema.key g) : f = g :=
  List.inj_on_of_nodup_map lawful.once (lawful.mem f) (lawful.mem g) h

/-- A key is that of the field that is found by it. -/
theorem Lawful.field?_eq_some_iff (lawful : schema.Lawful) {key : List Char} {f : F} :
    schema.field? key = some f ↔ key = (schema.key f).toList := by
  constructor
  · intro h
    have found := List.find?_some h
    exact (beq_iff_eq.mp found).symm
  · rintro rfl
    cases found : schema.field? (schema.key f).toList with
    | none =>
      have missing := List.find?_eq_none.mp found f (lawful.mem f)
      exact absurd (beq_self_eq_true _) missing
    | some g =>
      have hit := List.find?_some found
      have same : (schema.key g).toList = (schema.key f).toList := beq_iff_eq.mp hit
      rw [lawful.key_injective (String.toList_inj.mp same)]

/-- The fields of which something is true can be listed. -/
theorem Lawful.exists_order (lawful : schema.Lawful) (p : F → Prop) [DecidablePred p] :
    ∃ order : List F, order.Nodup ∧ ∀ f, f ∈ order ↔ p f :=
  ⟨schema.fields.filter p, (List.Nodup.of_map _ lawful.once).filter _, fun f => by
    simp [lawful.mem f]⟩

variable [DecidableEq F]

/-- What becomes of a field while elements are read: without an element for it the field is as it
was, and it takes one element at most, and that only if it has no value yet. -/
inductive FieldRead (schema : Schema F) (f : F) :
    Option (schema.Value f) → List (Tag × Content) → Option (schema.Value f) → Prop
  | kept {value : Option (schema.Value f)} : FieldRead schema f value [] value
  | read {tag : Tag} {inner : Content} {value : schema.Value f} :
      schema.read f (.element tag inner) = .ok value →
      FieldRead schema f none [(tag, inner)] (some value)

/-- The elements that give a field its value. -/
def elementsOf (schema : Schema F) (f : F) (elements : List (Tag × Content)) :
    List (Tag × Content) :=
  elements.filter fun e => schema.field? e.1.key = some f

/-! ### One step of reading -/

theorem Draft.read_of_free {draft : schema.Draft} {f : F} {source : Source}
    {value : schema.Value f} (free : draft f = none) (h : schema.read f source = .ok value) :
    draft.read f source = .ok (draft.set f value) := by
  rw [Draft.read, free, h]
  rfl

theorem Draft.readContent_of_close (draft : schema.Draft) {trim : Bool} {content : Content}
    (h : content.next trim = .ok .close) : draft.readContent trim content = .ok draft := by
  rw [Draft.readContent]
  split <;> simp_all

theorem Draft.readContent_of_text (draft : schema.Draft) {trim : Bool} {content after : Content}
    {s : List Char} {f : F} (h : content.next trim = .ok (.text s after))
    (known : schema.field? textKey = some f) :
    draft.readContent trim content =
      (draft.read f (.text s) >>= fun draft => draft.readContent true after) := by
  rw [Draft.readContent]
  split <;> simp_all

theorem Draft.readContent_of_known (draft : schema.Draft) {trim : Bool}
    {content inner after : Content} {tag : Tag} {f : F}
    (h : content.next trim = .ok (.element tag inner after))
    (known : schema.field? tag.key = some f) :
    draft.readContent trim content =
      (draft.read f (.element tag inner) >>= fun draft => draft.readContent true after) := by
  rw [Draft.readContent]
  split <;> simp_all

theorem Draft.readContent_of_unknown (draft : schema.Draft) {trim : Bool}
    {content inner after : Content} {tag : Tag}
    (h : content.next trim = .ok (.element tag inner after))
    (unknown : schema.field? tag.key = none) :
    draft.readContent trim content =
      (inner.skip >>= fun trim => draft.readContent trim after) := by
  rw [Draft.readContent]
  split <;> simp_all

/-! ### What a whole run of reading says -/

omit [DecidableEq F] in
theorem Draft.need_ok {draft : schema.Draft} {f : F} {v : schema.Value f}
    (h : draft.need f = .ok v) : draft f = some v := by
  unfold need at h
  split at h
  · next found =>
    cases h
    exact found
  · contradiction

theorem Draft.read_ok {draft draft' : schema.Draft} {f : F} {source : Source}
    (h : draft.read f source = .ok draft') :
    draft f = none ∧ ∃ value, schema.read f source = .ok value ∧ draft' = draft.set f value := by
  unfold Draft.read at h
  split at h
  · contradiction
  · next free =>
    obtain ⟨value, found, h⟩ := bind_ok h
    cases h
    exact ⟨by simpa using free, value, found, rfl⟩

/-- Attributes that belong to no field change nothing. -/
theorem Draft.readAttributes_ok {draft draft' : schema.Draft}
    {attributes : List (Except AttributeFault Attribute)}
    (foreign : ∀ a : Attribute, schema.field? a.key = none)
    (h : draft.readAttributes attributes = .ok draft') : draft' = draft := by
  induction attributes with
  | nil =>
    cases h
    rfl
  | cons first rest ih =>
    cases first with
    | error cause => contradiction
    | ok a =>
      rw [readAttributes, foreign a] at h
      exact ih h

omit [DecidableEq F] in
/-- A field that has its value is the field that its element was read for. -/
theorem FieldRead.of_given {f : F} {tag : Tag} {inner : Content} {value : schema.Value f}
    {others : List (Tag × Content)} {final : Option (schema.Value f)}
    (h : FieldRead schema f (some value) others final)
    (found : schema.read f (.element tag inner) = .ok value) :
    FieldRead schema f none ((tag, inner) :: others) final := by
  cases h with
  | kept => exact .read found

theorem elementsOf_cons_self {f : F} {tag : Tag} (known : schema.field? tag.key = some f)
    (inner : Content) (elements : List (Tag × Content)) :
    schema.elementsOf f ((tag, inner) :: elements) =
      (tag, inner) :: schema.elementsOf f elements :=
  List.filter_cons_of_pos (by simp [known])

theorem elementsOf_cons_other {f : F} {tag : Tag} (other : schema.field? tag.key ≠ some f)
    (inner : Content) (elements : List (Tag × Content)) :
    schema.elementsOf f ((tag, inner) :: elements) = schema.elementsOf f elements :=
  List.filter_cons_of_neg (by simp [other])

/-- A record without a field for its text is read from its elements alone, each field from its
own; and its content is read up to its end. -/
theorem Draft.readContent_ok {draft draft' : schema.Draft} {trim : Bool} {content : Content}
    (noText : schema.field? textKey = none)
    (h : draft.readContent trim content = .ok draft') :
    content.closes = true ∧
      ∀ f, FieldRead schema f (draft f) (schema.elementsOf f content.elements) (draft' f) := by
  fun_induction Draft.readContent draft trim content with
  | case1 => cases h
  | case2 draft trim content next =>
    cases h
    obtain ⟨elements, closes⟩ := Content.elements_next next
    refine ⟨closes, fun f => ?_⟩
    rw [elements]
    exact .kept
  | case3 => cases h
  | case4 draft trim content s after next _ ih =>
    obtain ⟨elements, closes⟩ := Content.elements_next next
    rw [elements, closes]
    exact ih h
  | case5 draft trim content s after next f found ih =>
    rw [noText] at found
    contradiction
  | case6 draft trim content tag inner after next unknown ih =>
    obtain ⟨elements, closes⟩ := Content.elements_next next
    obtain ⟨trim', -, h⟩ := bind_ok h
    obtain ⟨closes', fields⟩ := ih trim' h
    refine ⟨closes.trans closes', fun f => ?_⟩
    rw [elements, Event.elements, elementsOf_cons_other (by simp [unknown])]
    exact fields f
  | case7 draft trim content tag inner after next f known ih =>
    obtain ⟨elements, closes⟩ := Content.elements_next next
    obtain ⟨draft₁, read, h⟩ := bind_ok h
    obtain ⟨free, value, found, rfl⟩ := Draft.read_ok read
    obtain ⟨closes', fields⟩ := ih _ h
    refine ⟨closes.trans closes', fun g => ?_⟩
    have behind := fields g
    rw [elements, Event.elements]
    by_cases same : f = g
    · -- the field has its value now, so no element behind this one can be for it
      subst same
      rw [Draft.set_same] at behind
      rw [free, elementsOf_cons_self known]
      exact behind.of_given found
    · rw [Draft.set_other _ _ same] at behind
      rw [elementsOf_cons_other (by simp [known, same])]
      exact behind

end Schema

end StreamRemote.Xml
