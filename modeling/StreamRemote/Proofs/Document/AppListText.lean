import StreamRemote.Call
import StreamRemote.Proofs.Document.Root
import StreamRemote.Proofs.Xml.Layout

/-!
# Writing an app list

An app list is written as a root with an element for each app, in the order of the list. What an
app has of an id, a type and a version stands in attributes, in any order, and its name is written
in pieces of escaped text and character data. The list that is read has the same apps in the same
order.

Results:
1. `App.exists_entryText`, `AppList.exists_documentText`: each app and each list can be written.
2. `App.PartsText.readsAs`: an app that is written is read back.
3. `AppList.readEntries_of_row`: apps in a row make up the list.
4. `AppList.parse_of_listText`: a list that is written is read back, and is what a device that
   answers with it is said to have.
-/

namespace StreamRemote

open Xml

namespace App

/-- The value that an app has for a field. -/
def value (app : App) : schema.Draft
  | .id => app.id
  | .kind => app.kind
  | .version => app.version
  | .name => some app.name

/-- The attribute has the value of the field, with an entity for each quote in it. -/
def IsWrittenIn (app : App) (f : Field) (a : Attribute) : Prop :=
  (schema.key f).toList = '@' :: a.name ∧
    ∃ v : String, app.value f = some v ∧ Escaped (· == '"') v.toList a.value

/-- The text is an element for the app, with an attribute for each value but the name. -/
inductive EntryText (app : App) : List Char → Prop
  | entry {order : List Field} {attributes : List Attribute} {tail inside m : List Char} :
      order.Nodup → (∀ f, f ∈ order ↔ f ≠ .name ∧ (app.value f).isSome) →
      List.Forall₂ app.IsWrittenIn order attributes → AttributesText attributes tail →
      PiecewiseText app.name.toList inside → ElementText ⟨"app".toList, tail⟩ inside m →
      EntryText app m

/-! ## Attributes -/

/-- How the values of an app are written in attributes; its name is not a part of this. -/
def layout : Layout schema :=
  .uniform schema.fields schema.key .text

theorem schema_lawful : schema.Lawful where
  mem f := by cases f <;> decide
  once := by decide
  declaration := by decide

theorem layout_sound : layout.Sound :=
  Layout.uniform_sound schema_lawful

theorem layout_quotable : layout.Quotable := by
  refine Layout.uniform_quotable schema_lawful fun f attributed => ?_
  cases f with
  | name => contradiction
  | _ => exact ⟨by decide, by decide⟩

/-- Only the name does not stand in an attribute. -/
theorem inAttribute_iff {f : Field} : schema.InAttribute f ↔ f ≠ .name := by
  cases f <;> decide

/-- The two texts are an app: they have an attribute for each value but the name, and the name. -/
def PartsText (app : App) (tail inside : List Char) : Prop :=
  layout.TailText app.value tail ∧ PiecewiseText app.name.toList inside

/-- An element for an app is one with the app in it. -/
theorem entryText_iff {app : App} {m : List Char} :
    app.EntryText m ↔
      ∃ tail inside, app.PartsText tail inside ∧ ElementText ⟨"app".toList, tail⟩ inside m := by
  have same : ∀ f, schema.InAttribute f ∧ (app.value f).isSome ↔
      f ≠ .name ∧ (app.value f).isSome := fun f => and_congr_left' inAttribute_iff
  constructor
  · rintro ⟨once, given, written, text, name, element⟩
    exact ⟨_, _, ⟨.tail once (fun f => (given f).trans (same f).symm) written text, name⟩, element⟩
  · rintro ⟨tail, inside, ⟨⟨once, given, written, text⟩, name⟩, element⟩
    exact .entry once (fun f => (given f).trans (same f)) written text name element

/-- Each app can be written. -/
theorem exists_partsText (app : App) : ∃ tail inside, app.PartsText tail inside := by
  obtain ⟨tail, tailText⟩ := layout_quotable.exists_tailText app.value
  obtain ⟨s, escaped⟩ := exists_escaped (fun _ => exists_reference_of_isSpace) app.name.toList
  have name : PiecewiseText (app.name.toList ++ []) (s ++ []) := .escaped escaped .done
  rw [List.append_nil, List.append_nil] at name
  exact ⟨tail, s, tailText, name⟩

theorem exists_entryText (app : App) : ∃ m, app.EntryText m := by
  obtain ⟨tail, inside, parts⟩ := app.exists_partsText
  exact ⟨_, entryText_iff.mpr ⟨tail, inside, parts, .full inside⟩⟩

/-! ## The app -/

/-- An app is made up of its values; one with the empty name may do without a text. -/
theorem ofDraft_eq {app : App} {draft : schema.Draft}
    (values : ∀ f, f ≠ .name → draft f = app.value f)
    (name : (draft .name).getD "" = app.name) : ofDraft draft = app := by
  have id := values .id nofun
  have kind := values .kind nofun
  have version := values .version nofun
  rw [ofDraft, id, kind, version, name]
  rfl

/-- The text of an element gives the name, behind attributes that give the other values. -/
theorem readContent_of_isText {app : App} {draft : schema.Draft} {content : Content}
    (values : ∀ f, f ≠ .name → draft f = app.value f) (free : draft .name = none)
    (text : content.IsText app.name.toList) :
    (draft.readContent true content).map ofDraft = .ok app := by
  -- an empty name gives no text, and then the field is left without a value
  rcases text.first with ⟨next, empty⟩ | next
  · rw [draft.readContent_of_close next]
    refine congrArg Except.ok (ofDraft_eq values ?_)
    rw [free]
    exact (String.toList_eq_nil_iff.mp empty).symm
  · have read : schema.read .name (.text app.name.toList) = .ok app.name :=
      congrArg Except.ok String.ofList_toList
    rw [draft.readContent_of_text next rfl, Schema.Draft.read_of_free free read]
    show ((draft.set .name app.name).readContent true .close).map ofDraft = .ok app
    rw [Schema.Draft.readContent_of_close _ rfl]
    have named : draft.set .name app.name .name = some app.name := Schema.Draft.set_same ..
    refine congrArg Except.ok (ofDraft_eq (fun f other => ?_) (congrArg (·.getD "") named))
    exact (Schema.Draft.set_other draft _ (Ne.symm other)).trans (values f other)

/-- The element has the very name of an app, and is read as the app. -/
def IsElement (app : App) : Tag × Content → Prop
  | (tag, inner) => tag.name = "app".toList ∧ read tag inner = .ok app

/-- An app that is written is read back as it was, whatever the name of its element is. -/
theorem PartsText.readsAs {app : App} {tail inside name : List Char}
    (h : app.PartsText tail inside) (plain : PlainName name) :
    ReadsAs ⟨name, tail⟩ inside read app := by
  obtain ⟨⟨once, given, written, text⟩, pieces⟩ := h
  obtain ⟨inner, spelled, isText⟩ := pieces.exists_isText
  refine ⟨text.plain plain, inner, spelled, ?_⟩
  have missing : Field.name ∉ _ := fun mem => inAttribute_iff.mp ((given .name).mp mem).1 rfl
  rw [read, Schema.readElement, Layout.readAttributes_of_text layout_sound once written text]
  refine readContent_of_isText (fun f other => ?_) ?_ isText
  · exact Schema.empty_fill_apply fun some => (given f).mpr ⟨inAttribute_iff.mpr other, some⟩
  · rw [Schema.Draft.fill, if_neg missing]
    rfl

/-- An element for an app is read as the app. -/
theorem read_of_text {app : App} {m : List Char} (h : app.EntryText m) :
    ∃ tag inside inner, app.IsElement (tag, inner) ∧ tag.Plain ∧ Spells inside inner ∧
      ElementText tag inside m := by
  obtain ⟨tail, inside, parts, element⟩ := entryText_iff.mp h
  have plain : PlainName "app".toList := ⟨by decide, by decide⟩
  obtain ⟨tagged, inner, spelled, read⟩ := parts.readsAs plain
  exact ⟨_, inside, inner, ⟨rfl, read⟩, tagged, spelled, element⟩

end App

namespace AppList

/-- The text is a document with the list: its root has one element for each app, in the order of
the list. -/
inductive DocumentText (list : AppList) : List Char → Prop
  | root {inside body : List Char} :
      RowText App.EntryText list.apps inside → ElementText ⟨"apps".toList, []⟩ inside body →
      DocumentText list body

/-- Each list can be written. -/
theorem exists_documentText (list : AppList) : ∃ s, list.DocumentText s := by
  obtain ⟨s, row⟩ : ∃ s, RowText App.EntryText list.apps s := by
    induction list.apps with
    | nil => exact ⟨[], .done⟩
    | cons app apps ih =>
      obtain ⟨s, row⟩ := ih
      obtain ⟨m, entry⟩ := app.exists_entryText
      exact ⟨m ++ s, .item entry row⟩
  exact ⟨_, .root row (.full s)⟩

/-! ## The run of apps -/

theorem readEntries_of_close {run : Run} {found : List App} {content : Content}
    (h : content.next true = .ok .close) :
    readEntries run found true content = .ok found.reverse := by
  rw [readEntries]
  split <;> simp_all

/-- An element in the run of apps is the next app. -/
theorem readEntries_of_entry {run : Run} {found : List App} {content inner after : Content}
    {tag : Tag} {app : App} (h : content.next true = .ok (.element tag inner after))
    (entry : run = .within tag.name ∨ run = .ahead ∧ tag.key = entryKey.toList)
    (read : App.read tag inner = .ok app) :
    readEntries run found true content =
      readEntries (.within tag.name) (app :: found) true after := by
  rw [readEntries]
  split <;> rename_i event <;> rw [h] at event <;> cases event
  rw [if_pos entry, read]
  rfl

/-- Apps in a row are read one after the other. -/
theorem readEntries_of_row {apps found : List App} {elements : List (Tag × Content)}
    {content : Content} {run : Run}
    (h : List.Forall₂ App.IsElement apps elements) (row : content.IsRow elements)
    (start : run = .within "app".toList ∨ run = .ahead) :
    readEntries run found true content = .ok (found.reverse ++ apps) := by
  induction h generalizing run found content with
  | nil =>
    rw [List.append_nil]
    exact readEntries_of_close row
  | @cons app e apps elements first _ ih =>
    obtain ⟨tag, inner⟩ := e
    obtain ⟨name, read⟩ := first
    obtain ⟨after, next, row⟩ := row
    have entry : run = .within tag.name ∨ run = .ahead ∧ tag.key = entryKey.toList := by
      rcases start with rfl | rfl
      · exact .inl (by rw [name])
      · refine .inr ⟨rfl, ?_⟩
        rw [Tag.key, name]
        rfl
    rw [readEntries_of_entry next entry read, ih row (.inl (by rw [name]))]
    simp

/-- What is written for a list is a root with the apps in a row in it. -/
theorem DocumentText.exists_row {list : AppList} {text : List Char} (h : list.DocumentText text) :
    ∃ inside content elements, ElementText ⟨"apps".toList, []⟩ inside text ∧
      Spells inside content ∧ content.IsRow elements ∧
      List.Forall₂ App.IsElement list.apps elements := by
  cases h with | @root inside _ row root
  obtain ⟨content, elements, spelled, isRow, reads⟩ := row.exists_row fun _ _ => App.read_of_text
  exact ⟨inside, content, elements, root, spelled, isRow, reads⟩

/-- A root with apps in a row in it is the list of these apps. -/
theorem read_of_row {list : AppList} {content : Content} {elements : List (Tag × Content)}
    (h : List.Forall₂ App.IsElement list.apps elements) (row : content.IsRow elements) :
    read ⟨"apps".toList, []⟩ content = .ok list := by
  have sound : Tag.attributeFault? ⟨"apps".toList, []⟩ = none := by
    rw [Tag.attributeFault?, Tag.attributes_of_name]
    rfl
  have entries : readEntries .ahead [] true content = .ok list.apps :=
    readEntries_of_row h row (.inr rfl)
  unfold read
  simp only [sound, entries]
  rfl

/-- A list that is written is read back with the same apps in the same order, and a device that
answers with it is said to have these apps. -/
theorem parse_of_listText {list : AppList} {body : String} (h : list.DocumentText body.toList) :
    Document.parse AppList body = .ok list ∧
      ∀ (device : Device) (log : List Request),
        ((Call.query .apps).perform (Transport.answering (.ok body)) device).run log =
          (.ok (.apps list.apps), ⟨.get, device.queryUrl .apps⟩ :: log) := by
  have parsed : Document.parse AppList body = .ok list := by
    obtain ⟨inside, content, elements, root, spelled, row, reads⟩ := h.exists_row
    have plain : PlainName "apps".toList := ⟨by decide, by decide⟩
    rw [Document.parse_of_elementText root plain rfl spelled]
    show (read _ content).mapError _ = _
    rw [read_of_row reads row]
    rfl
  refine ⟨parsed, fun device log => ?_⟩
  have concluded : (Call.query .apps).conclude device (.ok body) = .ok (.apps list.apps) := by
    show (((Document.parse AppList body).map fun list => Outcome.apps list.apps).mapError _ :
      Except CallError Outcome) = _
    rw [parsed]
    rfl
  show (Call.conclude device (.query .apps) (.ok body), _) = _
  rw [concluded]
  rfl

/-- A list of two apps, the first with attributes in an order of their own and with a name in two
pieces, and the second with nothing at all. -/
theorem parse_of_listText_two :
    Document.parse AppList
        ("<apps>\n<app version=\"1\" id = \"a&quot;b\" >X&#32;<![CDATA[<Y]]></app>" ++
          "<!-- a --><app/></apps>") =
      .ok ⟨[⟨some "a\"b", none, some "1", "X <Y"⟩, ⟨none, none, none, ""⟩]⟩ ∧
    ∀ (device : Device) (log : List Request),
      ((Call.query .apps).perform
          (Transport.answering (.ok
            ("<apps>\n<app version=\"1\" id = \"a&quot;b\" >X&#32;<![CDATA[<Y]]></app>" ++
              "<!-- a --><app/></apps>"))) device).run log =
        (.ok (.apps [⟨some "a\"b", none, some "1", "X <Y"⟩, ⟨none, none, none, ""⟩]),
          ⟨.get, device.queryUrl .apps⟩ :: log) := by
  have first : ∃ m, App.EntryText ⟨some "a\"b", none, some "1", "X <Y"⟩ m ∧
      "<app version=\"1\" id = \"a&quot;b\" >X&#32;<![CDATA[<Y]]></app>".toList = m := by
    have version : App.IsWrittenIn ⟨some "a\"b", none, some "1", "X <Y"⟩ .version
        ⟨"version".toList, "1".toList⟩ :=
      ⟨rfl, "1", rfl, .plain rfl rfl .nil⟩
    have id : App.IsWrittenIn ⟨some "a\"b", none, some "1", "X <Y"⟩ .id
        ⟨"id".toList, "a&quot;b".toList⟩ :=
      ⟨rfl, "a\"b", rfl, .plain rfl rfl (.entity .quotation (.plain rfl rfl .nil))⟩
    have free : ¬ [']', ']', '>'] <:+: "<Y".toList := by decide
    have name : PiecewiseText "X <Y".toList "X&#32;<![CDATA[<Y]]>".toList :=
      .escaped (t := "X ".toList) (w := "X&#32;".toList)
        (.plain rfl rfl (.entity reference_space .nil)) (.characterData free .done)
    refine ⟨_, .entry (by decide) ?_ (.cons version (.cons id .nil))
      (.more (w := [' ']) (p := []) (q := []) (by decide) rfl ⟨by decide, by decide⟩ rfl rfl
        (by decide)
        (.more (w := [' ']) (p := [' ']) (q := [' ']) (by decide) rfl ⟨by decide, by decide⟩ rfl rfl
          (by decide) (.done (w := [' ']) rfl)))
      name (.full _), ?_⟩
    · intro f
      cases f <;> decide
    · decide +kernel
  have second : ∃ m, App.EntryText ⟨none, none, none, ""⟩ m ∧ "<app/>".toList = m := by
    refine ⟨_, .entry List.nodup_nil ?_ .nil (.done (w := []) rfl) .done .single, ?_⟩
    · intro f
      cases f <;> decide
    · decide +kernel
  obtain ⟨m, first, same⟩ := first
  obtain ⟨n, second, same'⟩ := second
  have comment : ¬ ['-', '-', '>'] <:+: " a ".toList := by decide
  have row := RowText.space (c := '\n') rfl (.item first (.comment comment (.item second .done)))
  have text : DocumentText ⟨[⟨some "a\"b", none, some "1", "X <Y"⟩, ⟨none, none, none, ""⟩]⟩ _ :=
    .root row (.full _)
  rw [← same, ← same'] at text
  exact parse_of_listText text

end AppList

end StreamRemote
