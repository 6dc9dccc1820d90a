import Mathlib.Data.List.ReduceOption
import StreamRemote.Proofs.Text.Blank
import StreamRemote.Proofs.Xml.Escape
import StreamRemote.Proofs.Xml.Reading

/-!
# Writing records

A record is written with an element for each value, and it is read back whatever the order of the
elements is and whatever elements that belong to no field stand between them.

Results:
1. `Content.leafText_ofText`, `Content.skip_ofText`: an element that holds nothing but text is
   read as its text without the white space around it, and is passed over when nobody asks for it.
2. `PiecewiseText.exists_isText`: escaped text and character data in any order are one text.
3. `Schema.Draft.readAttributes_fill`, `Schema.Draft.readContent_fill`: reading attributes and
   elements gives each field the value that is written for it, and leaves the others alone.
-/

namespace StreamRemote.Xml

/-! ## Elements that are read -/

/-- An element with this tag, and with this text in it, is read as the value. -/
def ReadsAs {α : Type} (tag : Tag) (inside : List Char)
    (read : Tag → Content → Except ReadError α) (a : α) : Prop :=
  tag.Plain ∧ ∃ inner, Spells inside inner ∧ read tag inner = .ok a

theorem ReadsAs.imp {α β : Type} {tag : Tag} {inside : List Char}
    {read : Tag → Content → Except ReadError α} {read' : Tag → Content → Except ReadError β}
    {a : α} {b : β} (h : ReadsAs tag inside read a)
    (goesOn : ∀ inner, read tag inner = .ok a → read' tag inner = .ok b) :
    ReadsAs tag inside read' b := by
  obtain ⟨plain, inner, spelled, same⟩ := h
  exact ⟨plain, inner, spelled, goesOn inner same⟩

/-! ## Elements that hold nothing but text -/

/-- The content of an element that holds nothing but a text. -/
def Content.ofText (s : List Char) : Content :=
  if s = [] then .close else .text s .close

theorem Spells.ofText {s : List Char} (h : '<' ∉ s) : Spells s (.ofText s) := by
  unfold Content.ofText
  split
  · next empty =>
    rw [empty]
    exact .close
  · next nonempty => simpa using Spells.text nonempty h atMarkup_nil .close

namespace Content

/-- White space around a text that has none at its own ends does not count. -/
theorem firstPart_of_solid {p w q : List Char} (before : p.all isSpace = true)
    (behind : q.all isSpace = true) (solid : ∀ c ∈ w, isSpace c = false) :
    firstPart true (p ++ (w ++ q)) .close = w := by
  show Text.trim isSpace (p ++ (w ++ q)) = w
  rw [← List.append_assoc]
  exact Text.trim_append_append (Text.solid_of_forall solid) before behind

/-- What comes first in an element that holds nothing but a text. -/
theorem next_ofText {s t : List Char}
    (h : Entity.resolve (firstPart true s .close) = .ok t) :
    (ofText s).next true =
      .ok (if firstPart true s .close = [] then .close else .text t .close) := by
  unfold ofText
  split
  · next empty =>
    subst empty
    rfl
  · rw [next]
    split
    · rfl
    · rw [plainText, h]
      show Except.ok (Event.text (t ++ []) .close) = _
      rw [List.append_nil]

/-- The text of an element is the text that is written in it, without the white space around. -/
theorem leafText_ofText {p w q t : List Char} (before : p.all isSpace = true)
    (behind : q.all isSpace = true) (h : Resolves w t) :
    (ofText (p ++ (w ++ q))).leafText = .ok t := by
  have part := firstPart_of_solid before behind h.solid
  have first := next_ofText (s := p ++ (w ++ q)) (t := t) (by rw [part, h.resolve])
  rw [leafText, first, part]
  split
  · next empty =>
    have nothing := h.resolve
    rw [empty, Entity.resolve, Entity.resolveFrom] at nothing
    cases nothing
    rfl
  · rfl

/-- An element that holds nothing but an escaped text is passed over. -/
theorem skip_ofText {more : Char → Bool} {text s : List Char} (h : Escaped more text s) :
    (ofText s).skip = .ok true := by
  obtain ⟨front, escaped⟩ := h.trimStart
  obtain ⟨part, escaped⟩ := escaped.trimEnd
  have first := next_ofText (s := s) escaped.resolve_eq
  rw [skip, first]
  split <;> rfl

end Content

/-! ## Texts in several pieces -/

/-- The second text is the first one cut into pieces, some of them escaped and some of them written
as character data. -/
inductive PiecewiseText : List Char → List Char → Prop
  | done : PiecewiseText [] []
  | escaped {t w text s : List Char} :
      Escaped isSpace t w → PiecewiseText text s → PiecewiseText (t ++ text) (w ++ s)
  | characterData {content text s : List Char} :
      ¬ [']', ']', '>'] <:+: content → PiecewiseText text s →
      PiecewiseText (content ++ text) (characterDataText content ++ s)

namespace Content

/-- The content is the text, whether it is read from its start or behind other text. -/
structure IsText (c : Content) (text : List Char) : Prop where
  rest : c.restOfText = .ok (text, .close)
  first : c.next true = .ok .close ∧ text = [] ∨ c.next true = .ok (.text text .close)

theorem isText_close : IsText .close [] :=
  ⟨rfl, .inl ⟨rfl, rfl⟩⟩

theorem IsText.characterData {c : Content} {text : List Char} (h : c.IsText text)
    (content : List Char) : (Content.characterData content c).IsText (content ++ text) := by
  refine ⟨?_, .inr ?_⟩
  · rw [restOfText, h.rest]
    rfl
  · rw [next, h.rest]
    rfl

theorem IsText.text {c : Content} {text w t : List Char} (h : c.IsText text)
    (resolves : Resolves w t) (nonempty : w ≠ []) : (Content.text w c).IsText (t ++ text) := by
  have part : textPart w c = w := by
    rw [textPart, Text.trimEnd_of_solid (Text.solid_of_forall resolves.solid)]
    split <;> rfl
  have front : firstPart true w c = w := by
    obtain ⟨b, w, rfl⟩ := List.exists_cons_of_ne_nil nonempty
    have kept := Text.trimStart_cons_of_not (s := w) (resolves.solid b List.mem_cons_self)
    rw [firstPart, if_pos rfl, kept, part]
  refine ⟨?_, .inr ?_⟩
  · rw [restOfText, part, plainText, resolves.resolve, h.rest]
    rfl
  · rw [next, front, if_neg nonempty, plainText, resolves.resolve, h.rest]
    rfl

end Content

/-- An escaped text in front of markup is read as the text that was meant. -/
theorem Spells.exists_of_escaped {t w text s : List Char} {c : Content} (h : Spells s c)
    (isText : c.IsText text) (start : AtMarkup s) (escaped : Escaped isSpace t w) :
    ∃ d, Spells (w ++ s) d ∧ d.IsText (t ++ text) := by
  by_cases empty : w = []
  · subst empty
    cases escaped
    exact ⟨c, h, isText⟩
  · exact ⟨.text w c, .text empty escaped.not_mem_less start h,
      isText.text escaped.resolves empty⟩

/-- A text that is written in pieces is read as one text. -/
theorem PiecewiseText.exists_isText {text s : List Char} (h : PiecewiseText text s) :
    ∃ c, Spells s c ∧ c.IsText text := by
  -- escaped pieces next to each other are one piece for the reader, so one is carried along
  suffices behind : ∀ t w : List Char, Escaped isSpace t w →
      ∃ c, Spells (w ++ s) c ∧ c.IsText (t ++ text) from behind [] [] .nil
  induction h with
  | done =>
    intro t w escaped
    exact Spells.close.exists_of_escaped Content.isText_close atMarkup_nil escaped
  | @escaped t' w' text s piece _ ih =>
    intro t w escaped
    obtain ⟨c, spelled, isText⟩ := ih (t ++ t') (w ++ w') (escaped.append piece)
    refine ⟨c, ?_, ?_⟩
    · simpa using spelled
    · simpa using isText
  | @characterData content text s free _ ih =>
    intro t w escaped
    obtain ⟨c, spelled, isText⟩ := ih [] [] .nil
    exact (Spells.of_characterData free spelled).exists_of_escaped (isText.characterData content)
      (atMarkup_cons _) escaped

/-! ## Filling a draft -/

namespace Schema

variable {F : Type} [DecidableEq F] {schema : Schema F}

/-- The draft with the values of some fields put into it. -/
def Draft.fill (draft : schema.Draft) (value : schema.Draft) (order : List F) : schema.Draft :=
  fun f => if f ∈ order then value f else draft f

theorem Draft.fill_nil (draft value : schema.Draft) : draft.fill value [] = draft := by
  funext f
  simp [fill]

/-- The values may be put into a draft one by one. -/
theorem Draft.fill_set {draft value : schema.Draft} {f : F} {v : schema.Value f}
    (h : value f = some v) (order : List F) :
    (draft.set f v).fill value order = draft.fill value (f :: order) := by
  funext g
  by_cases same : f = g
  · subst same
    simp [fill, h]
  · simp [fill, Draft.set_other draft v same, Ne.symm same]

/-- What is filled in two turns may be filled in one. -/
theorem Draft.fill_fill (draft value : schema.Draft) (order order' : List F) :
    (draft.fill value order).fill value order' = draft.fill value (order ++ order') := by
  funext f
  by_cases first : f ∈ order
  · simp [fill, first]
  · simp [fill, first]

/-- A field that is among those filled, or has no value, has its value in the filled draft. -/
theorem empty_fill_apply {value : schema.Draft} {order : List F} {f : F}
    (given : (value f).isSome → f ∈ order) : schema.empty.fill value order f = value f := by
  unfold Draft.fill
  split
  · rfl
  · next missing =>
    cases held : value f with
    | none => rfl
    | some v => exact absurd (given (by rw [held]; rfl)) missing

/-- With all values put into it, the empty draft is the draft of the values. -/
theorem empty_fill {value : schema.Draft} {order : List F}
    (all : ∀ f, (value f).isSome → f ∈ order) : schema.empty.fill value order = value :=
  funext fun f => empty_fill_apply (all f)

/-- The source has the value of the field. -/
def Holds (value : schema.Draft) (f : F) (source : Source) : Prop :=
  ∃ v, value f = some v ∧ schema.read f source = .ok v

/-- A field that is still free takes its value. -/
theorem Draft.read_of_holds {draft value : schema.Draft} {f : F} {source : Source}
    (h : Holds value f source) (free : draft f = none) :
    ∃ v, value f = some v ∧ draft.read f source = .ok (draft.set f v) := by
  obtain ⟨v, given, read⟩ := h
  exact ⟨v, given, read_of_free free read⟩

/-- Fields that are free and different from one that is given are still free behind it. -/
theorem Draft.free_behind {draft : schema.Draft} {f : F} {v : schema.Value f} {order : List F}
    (different : f ∉ order) (free : ∀ g ∈ f :: order, draft g = none) :
    ∀ g ∈ order, draft.set f v g = none := by
  intro g hg
  have other : f ≠ g := by
    rintro rfl
    exact different hg
  rw [Draft.set_other draft v other]
  exact free g (List.mem_cons_of_mem _ hg)

/-- Attributes that are given once each fill the fields they are for. -/
theorem Draft.readAttributes_fill {draft value : schema.Draft} {order : List F}
    {attributes : List Attribute}
    (h : List.Forall₂
      (fun f a => schema.field? a.key = some f ∧ Holds value f (.attributeValue a.value))
      order attributes)
    (once : order.Nodup) (free : ∀ f ∈ order, draft f = none) :
    draft.readAttributes (attributes.map .ok) = .ok (draft.fill value order) := by
  induction h generalizing draft with
  | nil =>
    rw [fill_nil]
    rfl
  | @cons f a order attributes first _ ih =>
    obtain ⟨known, holds⟩ := first
    obtain ⟨different, once⟩ := List.nodup_cons.mp once
    obtain ⟨v, given, read⟩ := read_of_holds holds (free f List.mem_cons_self)
    rw [List.map_cons, readAttributes, known, ← fill_set given]
    simp only [read]
    exact ih once (free_behind different free)

/-- The element is for the field and has its value; or it is for no field, and is passed over. -/
def ItemOf (value : schema.Draft) : Option F → Tag × Content → Prop
  | some f, (tag, inner) => schema.field? tag.key = some f ∧ Holds value f (.element tag inner)
  | none, (tag, inner) => schema.field? tag.key = none ∧ inner.skip = .ok true

/-- Elements in a row, those for fields given once each, fill the fields they are for. -/
theorem Draft.readContent_fill {draft value : schema.Draft} {items : List (Option F)}
    {elements : List (Tag × Content)} {content : Content}
    (h : List.Forall₂ (ItemOf value) items elements) (row : content.IsRow elements)
    (once : items.reduceOption.Nodup) (free : ∀ f ∈ items.reduceOption, draft f = none) :
    draft.readContent true content = .ok (draft.fill value items.reduceOption) := by
  induction h generalizing draft content with
  | nil =>
    rw [List.reduceOption_nil, fill_nil]
    exact draft.readContent_of_close row
  | @cons item e items elements first _ ih =>
    obtain ⟨tag, inner⟩ := e
    obtain ⟨after, next, row⟩ := row
    cases item with
    | none =>
      obtain ⟨unknown, skipped⟩ := first
      rw [List.reduceOption_cons_of_none] at once free ⊢
      rw [draft.readContent_of_unknown next unknown, skipped]
      exact ih row once free
    | some f =>
      obtain ⟨known, holds⟩ := first
      rw [List.reduceOption_cons_of_some] at once free ⊢
      obtain ⟨different, once⟩ := List.nodup_cons.mp once
      obtain ⟨v, given, read⟩ := read_of_holds holds (free f List.mem_cons_self)
      rw [draft.readContent_of_known next known, read, ← fill_set given]
      exact ih row once (free_behind different free)

end Schema

end StreamRemote.Xml
