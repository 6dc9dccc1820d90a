import StreamRemote.Proofs.Document.DeviceInfoFields
import StreamRemote.Proofs.Xml.Layout

/-!
# Writing a device info

A device info is written as a root with an element for each value that it has, in any order, with
white space and comments between them and elements of other names among them. It is read back as
it was, so no neighbour of an element changes what is read from it.

Results:
1. `DeviceInfo.exists_documentText`: each device info can be written.
2. `DeviceInfo.parse_of_infoText`: a device info that is written is read back.
-/

namespace StreamRemote

open Xml

namespace DeviceInfo

/-! ## The document -/

/-- The text is an element of the document: one for a field that the device info has a value for,
with white space around the value; or one of another name, with any text in it. -/
inductive ItemText (info : DeviceInfo) : Option Field → List Char → Prop
  | field {f : Field} {v : f.kind.Value} {p s q m : List Char} :
      info.value f = some v → p.all isSpace = true → f.kind.Written v s →
      q.all isSpace = true → ElementText ⟨f.key.toList, []⟩ (p ++ (s ++ q)) m →
      ItemText info (some f) m
  | foreign {name text s m : List Char} :
      PlainName name → (∀ f : Field, name ≠ f.key.toList) → Escaped (fun _ => false) text s →
      ElementText ⟨name, []⟩ s m → ItemText info none m

/-- The text is a document with the device info: its root has one element for each field that has
a value, and none for the others. -/
inductive DocumentText (info : DeviceInfo) : List Char → Prop
  | root {items : List (Option Field)} {inside body : List Char} :
      RowText info.ItemText items inside → items.reduceOption.Nodup →
      (∀ f, f ∈ items.reduceOption ↔ (info.value f).isSome) →
      ElementText ⟨"device-info".toList, []⟩ inside body → DocumentText info body

theorem Field.plain_key (f : Field) : PlainName f.key.toList := by
  have all : ∀ f ∈ Field.all, f.key.toList ≠ [] ∧ f.key.toList.all isPlain = true := by
    decide +kernel
  exact all f (Field.mem_all f)

/-- Elements for any fields that have a value can be written in a row. -/
theorem exists_row {info : DeviceInfo} {order : List Field}
    (given : ∀ f ∈ order, (info.value f).isSome) :
    ∃ s, RowText info.ItemText (order.map some) s := by
  induction order with
  | nil => exact ⟨[], .done⟩
  | cons f order ih =>
    obtain ⟨s, row⟩ := ih fun g hg => given g (List.mem_cons_of_mem _ hg)
    obtain ⟨v, value⟩ := Option.isSome_iff_exists.mp (given f List.mem_cons_self)
    obtain ⟨w, written⟩ := Kind.exists_written v
    have item := ItemText.field (p := []) (q := []) value rfl written rfl (.full _)
    exact ⟨_, .item item row⟩

/-- Each device info can be written. -/
theorem exists_documentText (info : DeviceInfo) : ∃ s, info.DocumentText s := by
  have once : Field.all.Nodup := by decide
  have given : ∀ f ∈ Field.all.filter fun f => (info.value f).isSome, (info.value f).isSome :=
    fun f hf => (List.mem_filter.mp hf).2
  obtain ⟨s, row⟩ := exists_row given
  have fields : ((Field.all.filter fun f => (info.value f).isSome).map some).reduceOption =
      Field.all.filter fun f => (info.value f).isSome := by
    simp [List.reduceOption]
  refine ⟨_, .root row ?_ (fun f => ?_) (.full s)⟩
  · rw [fields]
    exact once.filter _
  · rw [fields, List.mem_filter]
    exact ⟨And.right, fun some => ⟨Field.mem_all f, some⟩⟩

/-- How the values are written: each is the text of an element. -/
def layout : Layout schema where
  quoted _ _ _ := False
  element f := f.kind.LeafText

theorem layout_sound : layout.Sound where
  lawful := schema_lawful
  quoted := False.elim
  element {f _ _ _} form := form.readsAs f.plain_key

theorem ItemText.toLayout {info : DeviceInfo} {item : Option Field} {m : List Char}
    (h : info.ItemText item m) : layout.ItemText info.value item m := by
  cases h with
  | field given before written behind text =>
    exact .field given (.leaf (w := []) rfl before written behind) text
  | foreign plain other escaped text =>
    exact .foreign plain other (.done (w := []) rfl) escaped text

/-- Each element of the document is read as what it is written for. -/
theorem ItemText.exists_itemOf {info : DeviceInfo} {item : Option Field} {m : List Char}
    (h : info.ItemText item m) :
    ∃ tag inside inner, Schema.ItemOf info.value item (tag, inner) ∧
      tag.Plain ∧ Spells inside inner ∧ ElementText tag inside m :=
  h.toLayout.exists_itemOf layout_sound

/-- A device info that is written is read back as it was. -/
theorem parse_of_infoText {info : DeviceInfo} {body : String} (h : info.DocumentText body.toList) :
    Document.parse DeviceInfo body = .ok info := by
  generalize whole : body.toList = text at h
  cases h with | @root items inside _ row once given root
  subst whole
  obtain ⟨content, elements, spelled, isRow, reads⟩ :=
    row.exists_row fun _ _ => ItemText.exists_itemOf
  have plain : PlainName "device-info".toList := ⟨by decide, by decide⟩
  have filled : schema.empty.readContent true content = .ok info.value := by
    have free : ∀ f ∈ items.reduceOption, schema.empty f = none := fun _ _ => rfl
    have all : schema.empty.fill info.value items.reduceOption = info.value :=
      Schema.empty_fill fun f => (given f).mpr
    exact (Schema.Draft.readContent_fill reads isRow once free).trans (congrArg Except.ok all)
  have read : schema.readElement ⟨"device-info".toList, []⟩ content = .ok info.value := by
    rw [Schema.readElement, Tag.attributes_of_name]
    exact filled
  rw [Document.parse_of_elementText root plain rfl spelled]
  show (schema.readElement _ content >>= ofDraft).mapError _ = _
  rw [read]
  show (ofDraft info.value).mapError _ = _
  rw [ofDraft_value]
  rfl

/-- A device info with five values, one of them empty, in an order of their own and with a comment
and an element of another name between them. -/
theorem parse_of_infoText_five :
    Document.parse DeviceInfo
        ("<device-info> <uptime> 012 </uptime><!-- a --><x>&amp; </x><udn>a&#32;b</udn>" ++
          "<is-tv>true</is-tv><serial-number/>\n<model-number>&lt;</model-number>" ++
          "</device-info>") =
      .ok ⟨"a b", "", "<", none, none, none, none, some true, none, none, none, none, none, none,
        none, none, none, none, none, none, none, none, some 12⟩ := by
  have uptime : Kind.Written .count (12 : UInt64) "012".toList := by rfl
  have udn : Kind.Written .text "a b" "a&#32;b".toList :=
    .plain rfl rfl (.entity reference_space (.plain rfl rfl .nil))
  have isTv : Kind.Written .flag true "true".toList := rfl
  have serialNumber : Kind.Written .text "" [] := .nil
  have modelNumber : Kind.Written .text "<" "&lt;".toList := .entity .less .nil
  have comment : ¬ ['-', '-', '>'] <:+: " a ".toList := by decide
  have name : PlainName "x".toList := ⟨by decide, by decide⟩
  have foreign : ∀ f : Field, "x".toList ≠ f.key.toList := by
    intro f
    cases f <;> decide
  have escaped : Escaped (fun _ => false) "& ".toList "&amp; ".toList :=
    .entity .ampersand (.plain rfl rfl .nil)
  have text : ∃ s,
      DocumentText ⟨"a b", "", "<", none, none, none, none, some true, none, none, none, none, none,
        none, none, none, none, none, none, none, none, none, some 12⟩ s ∧
      ("<device-info> <uptime> 012 </uptime><!-- a --><x>&amp; </x><udn>a&#32;b</udn>" ++
        "<is-tv>true</is-tv><serial-number/>\n<model-number>&lt;</model-number>" ++
        "</device-info>").toList = s := by
    refine ⟨_, .root
      (.space (c := ' ') rfl <|
        .item (.field (f := .uptime) (p := [' ']) (q := [' ']) rfl rfl uptime rfl (.full _)) <|
        .comment comment <| .item (.foreign name foreign escaped (.full _)) <|
        .item (.field (f := .udn) (p := []) (q := []) rfl rfl udn rfl (.full _)) <|
        .item (.field (f := .isTv) (p := []) (q := []) rfl rfl isTv rfl (.full _)) <|
        .item (.field (f := .serialNumber) (p := []) (q := []) rfl rfl serialNumber rfl .single) <|
        .space (c := '\n') rfl <|
        .item (.field (f := .modelNumber) (p := []) (q := []) rfl rfl modelNumber rfl (.full _))
          .done)
      (by decide) ?_ (.full _), ?_⟩
    · intro f
      cases f <;> decide
    · decide +kernel
  obtain ⟨s, text, same⟩ := text
  rw [← same] at text
  exact parse_of_infoText text

end DeviceInfo

end StreamRemote
