import StreamRemote.Proofs.Xml.KindText

/-!
# Writing records by their schemas

A layout says how the value of each field of a record is written: between the quotes of an
attribute if the key of the field is that of an attribute, and as an element otherwise. A record is
written with an attribute or an element for each value that it has, in any order; white space,
comments and elements of other names stand anywhere between the elements.

What is shown of a layout is one fact for each field, that its value is read from what is written
for it. That whole records are read back follows, for records inside other ones too.

Results:
1. `Layout.readAttributes_of_text`: attributes give a record the values that are written in them.
2. `Layout.RecordText.readsAs`: a record that is written by a sound layout is read back.
3. `Layout.Quotable.exists_recordText`: each record can be written, if each value can.
4. `Layout.uniform_sound`, `Layout.uniform_quotable`: what is shown of a layout, for records of
   which all values stand in attributes and are of one kind.
-/

namespace StreamRemote.Xml

variable {F : Type} {schema : Schema F}

/-- The field stands in an attribute. -/
def Schema.InAttribute (schema : Schema F) (f : F) : Prop :=
  (schema.key f).toList.head? = some '@'

instance : DecidablePred schema.InAttribute :=
  fun f => inferInstanceAs (Decidable ((schema.key f).toList.head? = some '@'))

/-- The schema of a record of which all values are of one kind. -/
def Schema.uniform (fields : List F) (key : F → String) (kind : Kind) : Schema F where
  fields := fields
  key := key
  Value _ := kind.Value
  read _ := kind.read

/-- How the values of the fields are written: as the text between the quotes of an attribute, or as
the text behind the name in the tag of an element with the text inside the element. -/
structure Layout (schema : Schema F) where
  quoted : (f : F) → schema.Value f → List Char → Prop
  element : (f : F) → schema.Value f → List Char → List Char → Prop

namespace Layout

variable (layout : Layout schema) (value : schema.Draft)

/-! ## Written records -/

/-- The attribute has the value of the field. -/
def AttributeOf (f : F) (a : Attribute) : Prop :=
  (schema.key f).toList = '@' :: a.name ∧
    ∃ v, value f = some v ∧ layout.quoted f v a.value

/-- The text behind the name in a tag has an attribute for each value that stands in one. -/
inductive TailText : List Char → Prop
  | tail {order : List F} {attributes : List Attribute} {s : List Char} :
      order.Nodup → (∀ f, f ∈ order ↔ schema.InAttribute f ∧ (value f).isSome) →
      List.Forall₂ (layout.AttributeOf value) order attributes → AttributesText attributes s →
      TailText s

/-- The text is an element inside the record: one for a field that has a value; or one of another
name, with any attributes and any text in it. -/
inductive ItemText : Option F → List Char → Prop
  | field {f : F} {v : schema.Value f} {tail inside m : List Char} :
      value f = some v → layout.element f v tail inside →
      ElementText ⟨(schema.key f).toList, tail⟩ inside m → ItemText (some f) m
  | foreign {name tail text s m : List Char} {attributes : List Attribute} :
      PlainName name → (∀ f, name ≠ (schema.key f).toList) → AttributesText attributes tail →
      Escaped (fun _ => false) text s → ElementText ⟨name, tail⟩ s m → ItemText none m

/-- The two texts are a record: it has one attribute or one element for each field that has a
value, and none for the others. -/
inductive RecordText : List Char → List Char → Prop
  | record {items : List (Option F)} {tail inside : List Char} :
      layout.TailText value tail → RowText (layout.ItemText value) items inside →
      items.reduceOption.Nodup →
      (∀ f, f ∈ items.reduceOption ↔ ¬ schema.InAttribute f ∧ (value f).isSome) →
      RecordText tail inside

/-- What is written by the layout is read as the value that it is written for. -/
structure Sound : Prop where
  lawful : schema.Lawful
  quoted : ∀ {f : F} {v : schema.Value f} {s : List Char}, layout.quoted f v s →
    schema.read f (.attributeValue s) = .ok v
  element : ∀ {f : F} {v : schema.Value f} {tail inside : List Char},
    layout.element f v tail inside →
    ReadsAs ⟨(schema.key f).toList, tail⟩ inside
      (fun tag inner => schema.read f (.element tag inner)) v

variable {layout : Layout schema} {value : schema.Draft}

/-! ## Reading the attributes -/

/-- Different fields stand in attributes of different names. -/
theorem nodup_names (lawful : schema.Lawful) {order : List F} {attributes : List Attribute}
    (h : List.Forall₂ (layout.AttributeOf value) order attributes) (once : order.Nodup) :
    (attributes.map Attribute.name).Nodup := by
  have same : order.map (fun f => (schema.key f).toList) =
      (attributes.map Attribute.name).map ('@' :: ·) := by
    induction h with
    | nil => rfl
    | cons first _ ih =>
      rw [List.map_cons, List.map_cons, List.map_cons, first.1, ih (List.nodup_cons.mp once).2]
  have keys : (order.map fun f => (schema.key f).toList).Nodup :=
    List.Nodup.map (fun _ _ key => lawful.key_injective (String.toList_inj.mp key)) once
  rw [same] at keys
  exact List.Nodup.of_map _ keys

/-- The attribute of a field is for this field. -/
theorem AttributeOf.known (lawful : schema.Lawful) {f : F} {a : Attribute}
    (h : layout.AttributeOf value f a) (plain : PlainName a.name) :
    schema.field? a.key = some f := by
  have other : a.name ≠ "xmlns".toList := by
    intro declaration
    refine lawful.declaration (List.mem_map.mpr ⟨f, lawful.mem f, String.toList_inj.mp ?_⟩)
    rw [h.1, declaration]
    rfl
  have unqualified : ¬ "xmlns:".toList.isPrefixOf a.name := by
    intro qualified
    obtain ⟨rest, same⟩ := List.isPrefixOf_iff_prefix.mp qualified
    refine plain.not_mem (d := ':') rfl ?_
    rw [← same]
    exact List.mem_append_left _ (by decide)
  rw [lawful.field?_eq_some_iff, h.1, Attribute.key, if_neg (not_or.mpr ⟨other, unqualified⟩),
    plain.localName_eq]

variable [DecidableEq F]

/-- Attributes for some fields give the record the values that are written in them. -/
theorem readAttributes_of_text (sound : layout.Sound) {order : List F}
    {attributes : List Attribute} {tail : List Char} (once : order.Nodup)
    (written : List.Forall₂ (layout.AttributeOf value) order attributes)
    (text : AttributesText attributes tail) (name : List Char) :
    schema.empty.readAttributes (Tag.attributes ⟨name, tail⟩) =
      .ok (schema.empty.fill value order) := by
  have plain : List.Forall₂ (fun f a => PlainName a.name ∧ layout.AttributeOf value f a)
      order attributes :=
    ((List.forall₂_and_left _ _).mpr ⟨text.plainName, written.flip⟩).flip
  have fields : List.Forall₂ (fun f a => schema.field? a.key = some f ∧
      Schema.Holds value f (.attributeValue a.value)) order attributes := by
    refine plain.imp fun f a h => ?_
    obtain ⟨v, given, form⟩ := h.2.2
    exact ⟨h.2.known sound.lawful h.1, v, given, sound.quoted form⟩
  have free : ∀ f ∈ order, schema.empty f = none := fun _ _ => rfl
  rw [text.attributes_eq name (nodup_names sound.lawful written once),
    Schema.Draft.readAttributes_fill fields once free]

/-! ## Reading the record -/

omit [DecidableEq F] in
/-- Each element inside a record is read as what it is written for. -/
theorem ItemText.exists_itemOf (sound : layout.Sound) {item : Option F} {m : List Char}
    (h : layout.ItemText value item m) :
    ∃ tag inside inner, Schema.ItemOf value item (tag, inner) ∧
      tag.Plain ∧ Spells inside inner ∧ ElementText tag inside m := by
  cases h with
  | @field f v tail inside m given form text =>
    obtain ⟨plain, inner, spelled, read⟩ := sound.element form
    refine ⟨_, _, inner, ⟨?_, v, given, read⟩, plain, spelled, text⟩
    exact sound.lawful.field?_eq_some_iff.mpr plain.name.localName_eq
  | @foreign name tail t s m attributes plain other attributesText escaped text =>
    refine ⟨_, _, .ofText s, ⟨?_, Content.skip_ofText escaped⟩, attributesText.plain plain,
      .ofText escaped.not_mem_less, text⟩
    cases found : schema.field? (Tag.key ⟨name, tail⟩) with
    | none => rfl
    | some f =>
      have same : localName name = (schema.key f).toList :=
        sound.lawful.field?_eq_some_iff.mp found
      rw [plain.localName_eq] at same
      exact absurd same (other f)

/-- A record that is written is read back, whatever the name of its element is. -/
theorem RecordText.readsAs (sound : layout.Sound) {tail inside name : List Char}
    (h : layout.RecordText value tail inside) (plain : PlainName name) :
    ReadsAs ⟨name, tail⟩ inside schema.readElement value := by
  cases h with | @record items _ _ tailText row once inElements
  cases tailText with | @tail order attributes _ once' inAttributes written text
  obtain ⟨inner, elements, spelled, isRow, reads⟩ :=
    row.exists_row fun _ _ => ItemText.exists_itemOf sound
  refine ⟨text.plain plain, inner, spelled, ?_⟩
  -- a field of which the value stands in an element has not got it from the attributes
  have free : ∀ f ∈ items.reduceOption, schema.empty.fill value order f = none := by
    intro f hf
    have missing : f ∉ order := fun hf' => ((inElements f).mp hf).1 ((inAttributes f).mp hf').1
    rw [Schema.Draft.fill, if_neg missing]
    rfl
  rw [Schema.readElement, readAttributes_of_text sound once' written text]
  show (schema.empty.fill value order).readContent true inner = _
  rw [Schema.Draft.readContent_fill reads isRow once free, Schema.Draft.fill_fill]
  refine congrArg Except.ok (Schema.empty_fill fun f some => ?_)
  rw [List.mem_append]
  by_cases attributed : schema.InAttribute f
  · exact .inl ((inAttributes f).mpr ⟨attributed, some⟩)
  · exact .inr ((inElements f).mpr ⟨attributed, some⟩)

omit [DecidableEq F] in
/-- A record without values that stand in elements is written with nothing inside. -/
theorem RecordText.of_tailText {tail : List Char} (h : layout.TailText value tail)
    (only : ∀ f, (value f).isSome → schema.InAttribute f) : layout.RecordText value tail [] := by
  refine .record h .done List.nodup_nil fun f => ⟨nofun, ?_⟩
  rintro ⟨other, some⟩
  exact absurd (only f some) other

/-! ## Each record can be written -/

/-- Each value of a field that stands in an attribute can be written between its quotes. -/
structure Quotable (layout : Layout schema) : Prop where
  lawful : schema.Lawful
  name : ∀ f, schema.InAttribute f → PlainName (schema.key f).toList.tail
  quoted : ∀ f v, schema.InAttribute f → ∃ s, layout.quoted f v s ∧ '"' ∉ s

omit [DecidableEq F]

theorem Quotable.exists_attribute (quotable : layout.Quotable) {f : F}
    (attributed : schema.InAttribute f) (given : (value f).isSome) :
    ∃ a, layout.AttributeOf value f a ∧ PlainName a.name ∧ '"' ∉ a.value := by
  obtain ⟨v, held⟩ := Option.isSome_iff_exists.mp given
  obtain ⟨s, written, closed⟩ := quotable.quoted f v attributed
  have key : (schema.key f).toList = '@' :: (schema.key f).toList.tail := by
    cases same : (schema.key f).toList with
    | nil =>
      rw [Schema.InAttribute, same] at attributed
      contradiction
    | cons c name =>
      rw [Schema.InAttribute, same] at attributed
      cases attributed
      rfl
  exact ⟨⟨_, s⟩, ⟨key, v, held, written⟩, quotable.name f attributed, closed⟩

/-- Attributes for any fields that stand in attributes can be written one after the other. -/
theorem Quotable.exists_attributesText (quotable : layout.Quotable) {order : List F}
    (given : ∀ f ∈ order, schema.InAttribute f ∧ (value f).isSome) :
    ∃ attributes tail, List.Forall₂ (layout.AttributeOf value) order attributes ∧
      AttributesText attributes tail := by
  induction order with
  | nil => exact ⟨[], [], .nil, .done rfl⟩
  | cons f order ih =>
    obtain ⟨attributes, tail, written, text⟩ := ih fun g hg => given g (List.mem_cons_of_mem _ hg)
    obtain ⟨attributed, some⟩ := given f List.mem_cons_self
    obtain ⟨a, first, plain, closed⟩ := quotable.exists_attribute attributed some
    exact ⟨a :: attributes, _, .cons first written, .blank plain closed text⟩

theorem Quotable.exists_tailText (quotable : layout.Quotable) (value : schema.Draft) :
    ∃ tail, layout.TailText value tail := by
  obtain ⟨order, once, mem⟩ :=
    quotable.lawful.exists_order fun f => schema.InAttribute f ∧ (value f).isSome
  obtain ⟨attributes, tail, written, text⟩ :=
    quotable.exists_attributesText fun f hf => (mem f).mp hf
  exact ⟨tail, .tail once mem written text⟩

/-- Elements for any fields whose values can be written as elements can be written in a row. -/
theorem exists_row {order : List F}
    (each : ∀ f ∈ order, ∃ v tail inside, value f = some v ∧ layout.element f v tail inside) :
    ∃ s, RowText (layout.ItemText value) (order.map some) s := by
  induction order with
  | nil => exact ⟨[], .done⟩
  | cons f order ih =>
    obtain ⟨s, row⟩ := ih fun g hg => each g (List.mem_cons_of_mem _ hg)
    obtain ⟨v, tail, inside, given, form⟩ := each f List.mem_cons_self
    exact ⟨_, .item (.field given form (.full inside)) row⟩

/-- Each record can be written, if each value of a field that does not stand in an attribute can be
written as an element. -/
theorem Quotable.exists_recordText (quotable : layout.Quotable)
    (each : ∀ f v, ¬ schema.InAttribute f → ∃ tail inside, layout.element f v tail inside)
    (value : schema.Draft) : ∃ tail inside, layout.RecordText value tail inside := by
  obtain ⟨tail, tailText⟩ := quotable.exists_tailText value
  obtain ⟨order, once, mem⟩ :=
    quotable.lawful.exists_order fun f => ¬ schema.InAttribute f ∧ (value f).isSome
  obtain ⟨inside, row⟩ : ∃ s, RowText (layout.ItemText value) (order.map some) s := by
    refine exists_row fun f hf => ?_
    obtain ⟨other, some⟩ := (mem f).mp hf
    obtain ⟨v, given⟩ := Option.isSome_iff_exists.mp some
    obtain ⟨tail, inside, form⟩ := each f v other
    exact ⟨v, tail, inside, given, form⟩
  have fields : (order.map some).reduceOption = order := by simp [List.reduceOption]
  rw [← fields] at once mem
  exact ⟨tail, inside, .record tailText row once mem⟩

/-! ## Records of attributes -/

section Uniform

variable {fields : List F} {key : F → String} {kind : Kind}

/-- How a record is written of which all values stand in attributes and are of one kind. -/
def uniform (fields : List F) (key : F → String) (kind : Kind) :
    Layout (Schema.uniform fields key kind) where
  quoted _ := kind.WrittenInQuotes
  element _ _ _ _ := False

theorem uniform_sound (lawful : (Schema.uniform fields key kind).Lawful) :
    (uniform fields key kind).Sound where
  lawful := lawful
  quoted := Kind.read_of_writtenInQuotes
  element := False.elim

theorem uniform_quotable (lawful : (Schema.uniform fields key kind).Lawful)
    (name : ∀ f, (Schema.uniform fields key kind).InAttribute f →
      PlainName (key f).toList.tail) :
    (uniform fields key kind).Quotable where
  lawful := lawful
  name := name
  quoted _ v _ := Kind.exists_writtenInQuotes v

end Uniform

end Layout

end StreamRemote.Xml
