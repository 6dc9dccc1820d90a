import StreamRemote.Document.ActiveApp
import StreamRemote.Document.AppList
import StreamRemote.Proofs.Document.Root

/-!
# The entries of an app list

An app list has an app for each element `app` right inside its root, in the order of the document,
and an app is the same thing wherever it is written: the entry of a list, cut out of its document
and put into a document about the app in the foreground, is read as the very app of the list.

Results:
1. `AppList.readEntries_ok`: the run of apps misses no element of that name.
2. `AppList.entries_of_parse`: the entries of a list one by one.
-/

namespace StreamRemote

open Xml

namespace AppList

/-- The run has the name of an app. -/
def Run.Named : Run → Prop
  | within name => localName name = entryKey.toList
  | ahead | ended => True

/-- The elements that are apps. -/
def entriesOf (elements : List (Tag × Content)) : List (Tag × Content) :=
  elements.filter fun e => e.1.key = entryKey.toList

/-- The element is an entry of a list, and is read as the app. -/
def IsEntry (element : Tag × Content) (app : App) : Prop :=
  element.1.key = entryKey.toList ∧ App.read element.1 element.2 = .ok app

/-- Each element that is an app gives one app of the list, and the list has no other apps. -/
theorem readEntries_ok {run : Run} {found : List App} {trim : Bool} {content : Content}
    {list : List App} (named : run.Named) (h : readEntries run found trim content = .ok list) :
    content.closes = true ∧ ∃ apps, list = found.reverse ++ apps ∧
      List.Forall₂ IsEntry (entriesOf content.elements) apps := by
  fun_induction readEntries run found trim content with
  | case1 | case3 | case4 | case8 => cases h
  | case2 run found trim content next =>
    cases h
    obtain ⟨elements, closes⟩ := Content.elements_next next
    refine ⟨closes, [], by simp, ?_⟩
    rw [elements]
    exact .nil
  | case5 found trim content s after next ih | case6 found trim content s after next ih =>
    obtain ⟨elements, closes⟩ := Content.elements_next next
    rw [elements, closes]
    exact ih trivial h
  | case7 run found trim content tag inner after next entry ih =>
    obtain ⟨elements, closes⟩ := Content.elements_next next
    -- within the run the whole name is compared, and it is the name of an app by the invariant
    have key : tag.key = entryKey.toList := by
      rcases entry with rfl | ⟨-, key⟩
      · exact named
      · exact key
    obtain ⟨app, read, h⟩ := bind_ok h
    obtain ⟨closes', apps, rfl, entries⟩ := ih app key h
    refine ⟨closes.trans closes', app :: apps, by simp, ?_⟩
    rw [elements, Event.elements, entriesOf, List.filter_cons_of_pos (by simpa using key)]
    exact .cons ⟨key, read⟩ entries
  | case9 run found trim content tag inner after next other key ih =>
    obtain ⟨elements, closes⟩ := Content.elements_next next
    obtain ⟨trim', -, h⟩ := bind_ok h
    -- an element that is no app begins no run, so the name of the run is still that of an app
    have interrupted : run.interrupt.Named := by cases run <;> trivial
    obtain ⟨closes', apps, rfl, entries⟩ := ih trim' interrupted h
    refine ⟨closes.trans closes', apps, rfl, ?_⟩
    rw [elements, Event.elements, entriesOf, List.filter_cons_of_neg (by simpa using key)]
    exact entries

/-- A list is read from the elements in its root that are apps, each of them by itself. -/
theorem read_ok {tag : Tag} {inner : Content} {list : AppList} (h : read tag inner = .ok list) :
    inner.closes = true ∧ List.Forall₂ IsEntry (entriesOf inner.elements) list.apps := by
  rw [read] at h
  split at h
  · contradiction
  · obtain ⟨apps, entries, rfl⟩ := map_ok h
    have named : Run.ahead.Named := trivial
    obtain ⟨closes, apps', rfl, reads⟩ := readEntries_ok named entries
    exact ⟨closes, reads⟩

end AppList

namespace ActiveApp

/-- The tag of the root, which has no attributes. -/
def rootTag : Tag := ⟨"active-app".toList, []⟩

theorem plain_rootName : PlainName rootTag.name :=
  ⟨by decide, by decide⟩

/-- A root with nothing but an app in it holds this app and no screensaver. -/
theorem read_of_app {tag : Tag} {inner : Content} {app : App}
    (key : tag.key = "app".toList) (h : App.read tag inner = .ok app) :
    Document.read rootTag (.element tag inner .close) = .ok (⟨app, none⟩ : ActiveApp) := by
  have known : schema.field? tag.key = some .app := by
    rw [key]
    rfl
  have attributes : rootTag.attributes = [] := Tag.attributes_of_name _
  have value : schema.read .app (.element tag inner) = .ok app := h
  show (schema.empty.readAttributes rootTag.attributes >>= fun draft =>
    draft.readContent true (.element tag inner .close)) >>= ofDraft = _
  rw [attributes]
  show schema.empty.readContent true (.element tag inner .close) >>= ofDraft = _
  rw [Schema.Draft.readContent_of_known _ rfl known, Schema.Draft.read_of_free rfl value]
  show (schema.empty.set .app app).readContent true .close >>= ofDraft = _
  rw [Schema.Draft.readContent_of_close _ rfl]
  rfl

/-- An element that is an app, put into a root of its own. -/
theorem parse_of_entry {source : List Char} {tag : Tag} {inner : Content} {app : App}
    (spelled : Spells source (.element tag inner .close)) (key : tag.key = "app".toList)
    (h : App.read tag inner = .ok app) :
    Document.parse ActiveApp ("<active-app>" ++ String.ofList source ++ "</active-app>") =
      .ok ⟨app, none⟩ := by
  have body : ("<active-app>" ++ String.ofList source ++ "</active-app>").toList =
      rootTag.openingText ++ (source ++ rootTag.closingText) := by
    simp only [String.toList_append, String.toList_ofList, List.append_assoc]
    rfl
  have text : ElementText rootTag source _ := .full source
  rw [← body] at text
  rw [Document.parse_of_elementText text plain_rootName rfl spelled]
  show (Document.read rootTag _).mapError _ = _
  rw [read_of_app key h]
  rfl

/-- Excerpts that show the entries of a list. -/
theorem parse_of_entries {excerpts : List Excerpt} {elements : List (Tag × Content)}
    {apps : List App} (shows : List.Forall₂ Excerpt.Shows excerpts elements)
    (entries : List.Forall₂ AppList.IsEntry elements apps) :
    List.Forall₂
      (fun entry app =>
        Document.parse ActiveApp
          ("<active-app>" ++ String.ofList entry.source ++ "</active-app>") = .ok ⟨app, none⟩)
      excerpts apps := by
  induction shows generalizing apps with
  | nil =>
    cases entries
    exact .nil
  | cons shown _ ih =>
    obtain _ | ⟨⟨key, read⟩, entries⟩ := entries
    exact .cons (parse_of_entry shown.2 key read) (ih entries)

end ActiveApp

/-- Each element `app` right inside the root of a list is one app of the list, in the same order,
and it is the same app when it stands by itself in a document about the app in the foreground. -/
theorem AppList.entries_of_parse {body : String} {list : AppList}
    (h : Document.parse AppList body = .ok list) :
    ∃ root, Root.ofDocument? body = some root ∧ localName root.tag.name = "apps".toList ∧
      List.Forall₂
        (fun entry app =>
          Document.parse ActiveApp
            ("<active-app>" ++ String.ofList entry.source ++ "</active-app>") = .ok ⟨app, none⟩)
        (root.named "app") list.apps := by
  obtain ⟨tag, inner, others, first, named, read⟩ := Document.parse_ok h
  obtain ⟨closes, entries⟩ := AppList.read_ok read
  obtain ⟨children, found, shows⟩ := root_of_document first closes
  refine ⟨⟨tag, children⟩, found, named, ?_⟩
  exact ActiveApp.parse_of_entries (Root.shows_named shows "app") entries

/-- A list of two apps behind an element that is none, though an app stands in it. -/
theorem AppList.entries_of_parse_two :
    Document.parse AppList
        "<apps><new><app/></new><app id='1'>A <![CDATA[&]]></app><app><x/>B</app></apps>" =
      .ok ⟨[⟨some "1", none, none, "A &"⟩, ⟨none, none, none, "B"⟩]⟩ ∧
    ∃ root,
      Root.ofDocument?
          "<apps><new><app/></new><app id='1'>A <![CDATA[&]]></app><app><x/>B</app></apps>" =
        some root ∧
      localName root.tag.name = "apps".toList ∧
      List.Forall₂
        (fun entry app =>
          Document.parse ActiveApp
            ("<active-app>" ++ String.ofList entry.source ++ "</active-app>") = .ok ⟨app, none⟩)
        (root.named "app") [⟨some "1", none, none, "A &"⟩, ⟨none, none, none, "B"⟩] := by
  have read : Document.parse AppList
        "<apps><new><app/></new><app id='1'>A <![CDATA[&]]></app><app><x/>B</app></apps>" =
      .ok ⟨[⟨some "1", none, none, "A &"⟩, ⟨none, none, none, "B"⟩]⟩ := by
    decide +kernel
  exact ⟨read, AppList.entries_of_parse read⟩

end StreamRemote
