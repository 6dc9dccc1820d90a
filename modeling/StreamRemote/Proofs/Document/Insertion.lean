import StreamRemote.Proofs.Document.Ending
import StreamRemote.Proofs.Xml.RecordText

/-!
# Elements that nobody asks for

An element of another name may be put anywhere between the elements in the root of a document, and
the document has the same value. A list of apps is the exception: its run of apps ends at the first
element that is no app, and the next app is taken for a second list. So an element may stand in
front of all apps and behind all of them, and a list in which it stands between two is refused.

Results:
1. `Schema.readElement_insert`: what is read of a record into which such an element is put.
2. `AppList.readEntries_ended`: what is read of a list of which the run has ended.
3. `AppList.read_insert`: what is read of a list of apps into which such an element is put.
4. `Document.parse_insert`: the same for bodies of the four types of documents.
-/

namespace StreamRemote

open Xml

/-! ## Elements with nothing but text in them -/

/-- The text is an element with a plain name that is none of the names, and there is nothing but
escaped text in it. White space may stand behind the name in its end tag. -/
inductive Xml.LeafText (names : List String) : List Char → Prop
  | full {tag : Tag} {text s w : List Char} : tag.Plain → String.ofList tag.name ∉ names →
      Escaped (fun _ => false) text s → w.all isSpace = true →
      LeafText names (tag.openingText ++ (s ++ '<' :: '/' :: (tag.name ++ w ++ ['>'])))
  | single {tag : Tag} : tag.Plain → String.ofList tag.name ∉ names →
      LeafText names tag.singleText

theorem Xml.endName_append {name w : List Char} (plain : PlainName name)
    (spaces : w.all isSpace = true) : endName (name ++ w) = name := by
  have solid : ∀ c ∈ name, isSpace c = false := fun c hc => plain.isSpace_eq hc
  obtain ⟨c, rest, same⟩ := List.exists_cons_of_ne_nil plain.1
  have named : (name ++ w).all isSpace ≠ true := by
    rw [same, List.cons_append, List.all_cons, solid c (by rw [same]; exact List.mem_cons_self)]
    exact Bool.false_ne_true
  rw [endName, if_neg named, Text.trimEnd_append_of_all spaces,
    Text.trimEnd_of_solid (Text.solid_of_forall solid)]

/-- Such an element is passed over where nobody asks for it. -/
theorem Xml.LeafText.exists_putsElement {names : List String} {e : List Char}
    (h : LeafText names e) :
    ∃ tag inner, PutsElement e tag inner ∧ String.ofList tag.key ∉ names ∧
      inner.skip = .ok true := by
  cases h with
  | @full tag text s w plain other escaped spaces =>
    have key : tag.key = tag.name := plain.name.localName_eq
    refine ⟨tag, .ofText s, ⟨fun t => atMarkup_cons _, fun {t c} spelled => ?_⟩, by rwa [key],
      Content.skip_ofText escaped⟩
    have free : '>' ∉ tag.name ++ w := by
      intro angle
      rcases List.mem_append.mp angle with mem | mem
      · exact plain.name.not_mem rfl mem
      · exact absurd (List.all_eq_true.mp spaces _ mem) (by decide)
    have whole := Spells.element plain.writtenAs_opening (.ofText escaped.not_mem_less)
      (Markup.writtenAs_closing free) (endName_append plain.name spaces) spelled
    simpa using whole
  | @single tag plain other =>
    have key : tag.key = tag.name := plain.name.localName_eq
    exact ⟨tag, .close, ⟨fun t => atMarkup_cons _, fun spelled =>
      .piece rfl plain.writtenAs_single spelled⟩, by rwa [key], rfl⟩

/-! ## Records -/

namespace Xml.Schema

variable {F : Type} [DecidableEq F] {schema : Schema F}

/-- The names of the elements and attributes that a record has fields for. -/
def names (schema : Schema F) : List String :=
  schema.fields.map schema.key

omit [DecidableEq F] in
theorem field?_eq_none {key : List Char} (h : String.ofList key ∉ schema.names) :
    schema.field? key = none := by
  refine List.find?_eq_none.mpr fun f hf same => h ?_
  rw [← beq_iff_eq.mp same, String.ofList_toList]
  exact List.mem_map_of_mem hf

/-- How the content of a record is read that has no field for its text. -/
def walker (schema : Schema F) : Walker schema.Draft where
  text _ := .ok ()
  element draft tag inner :=
    match schema.field? tag.key with
    | none => do
      let trim ← inner.skip
      pure (draft, trim)
    | some f => do
      let draft ← draft.read f (.element tag inner)
      pure (draft, true)

theorem readContent_eq_run (noText : schema.field? textKey = none) (draft : schema.Draft)
    (trim : Bool) (content : Content) :
    draft.readContent trim content = schema.walker.run draft trim content := by
  fun_induction Draft.readContent draft trim content with
  | case1 draft trim content cause next | case2 draft trim content next
  | case3 draft trim content next =>
    rw [Walker.run_eq, next]
    rfl
  | case4 draft trim content s after next _ ih =>
    rw [Walker.run_eq, next, ih]
    rfl
  | case5 draft trim content s after next f found =>
    rw [noText] at found
    contradiction
  | case6 draft trim content tag inner after next unknown ih =>
    have step : schema.walker.element draft tag inner =
        (inner.skip >>= fun trim => pure (draft, trim)) := by simp only [walker, unknown]
    rw [Walker.run_element next, step]
    cases inner.skip with
    | error => rfl
    | ok trim => exact ih trim
  | case7 draft trim content tag inner after next f known ih =>
    have step : schema.walker.element draft tag inner =
        (draft.read f (.element tag inner) >>= fun draft => pure (draft, true)) := by
      simp only [walker, known]
    rw [Walker.run_element next, step]
    cases draft.read f (.element tag inner) with
    | error => rfl
    | ok draft => exact ih draft

/-- An element that is for no field may be put into a record. -/
theorem readElement_insert (noText : schema.field? textKey = none) {tag tag' : Tag}
    {first back inner : Content} {draft : schema.Draft} (settled : first.Settled)
    (h : schema.readElement tag (first.append back) = .ok draft)
    (unknown : schema.field? tag'.key = none) (skipped : inner.skip = .ok true) :
    schema.readElement tag (first.append (.element tag' inner back)) = .ok draft := by
  obtain ⟨start, attributes, content⟩ := bind_ok h
  rw [readContent_eq_run noText] at content
  obtain ⟨here, -, behind, inserted⟩ := Walker.exists_run_of_insert settled content
  have step : schema.walker.element here tag' inner = .ok (here, true) := by
    simp only [walker, unknown, skipped]
    rfl
  rw [readElement, attributes]
  show start.readContent true _ = _
  rw [readContent_eq_run noText, inserted, step]
  exact behind

end Xml.Schema

/-! ## Lists of apps -/

namespace AppList

/-- How the content of a list of apps is read: the state is the run and the apps found so far. -/
def walker : Walker (Run × List App) where
  text
    | (.within _, _) => .error .expectedElement
    | (.ahead, _) | (.ended, _) => .ok ()
  element
    | (run, found), tag, inner =>
      if run = .within tag.name ∨ (run = .ahead ∧ tag.key = entryKey.toList) then do
        let app ← App.read tag inner
        pure ((.within tag.name, app :: found), true)
      else if tag.key = entryKey.toList then .error (.duplicateField entryKey)
      else do
        let trim ← inner.skip
        pure ((run.interrupt, found), trim)

section Step

variable {run : Run} {found : List App} {tag : Tag} {inner : Content}

theorem element_of_entry
    (entry : run = .within tag.name ∨ (run = .ahead ∧ tag.key = entryKey.toList)) :
    walker.element (run, found) tag inner =
      (App.read tag inner >>= fun app => pure ((.within tag.name, app :: found), true)) :=
  if_pos entry

theorem element_of_late
    (late : ¬ (run = .within tag.name ∨ (run = .ahead ∧ tag.key = entryKey.toList)))
    (key : tag.key = entryKey.toList) :
    walker.element (run, found) tag inner = .error (.duplicateField entryKey) :=
  (if_neg late).trans (if_pos key)

theorem element_of_other
    (other : ¬ (run = .within tag.name ∨ (run = .ahead ∧ tag.key = entryKey.toList)))
    (key : tag.key ≠ entryKey.toList) :
    walker.element (run, found) tag inner =
      (inner.skip >>= fun trim => pure ((run.interrupt, found), trim)) :=
  (if_neg other).trans (if_neg key)

/-- An element that is no app is not within the run. -/
theorem Run.Named.not_entry (named : run.Named) (key : tag.key ≠ entryKey.toList) :
    ¬ (run = .within tag.name ∨ (run = .ahead ∧ tag.key = entryKey.toList)) := by
  rintro (rfl | ⟨-, same⟩)
  · exact key named
  · exact key same

end Step

theorem readEntries_eq_run (run : Run) (found : List App) (trim : Bool) (content : Content) :
    readEntries run found trim content =
      (walker.run (run, found) trim content).map fun reached => reached.2.reverse := by
  fun_induction readEntries run found trim content with
  | case1 run found trim content cause next | case2 run found trim content next
  | case3 run found trim content next | case4 found trim content s after next =>
    rw [Walker.run_eq, next]
    rfl
  | case5 found trim content s after next ih | case6 found trim content s after next ih =>
    rw [Walker.run_eq, next, ih]
    rfl
  | case7 run found trim content tag inner after next entry ih =>
    rw [Walker.run_element next, element_of_entry entry]
    cases App.read tag inner with
    | error => rfl
    | ok app => exact ih app
  | case8 run found trim content tag inner after next late key =>
    rw [Walker.run_element next, element_of_late late key]
    rfl
  | case9 run found trim content tag inner after next other key ih =>
    rw [Walker.run_element next, element_of_other other key]
    cases inner.skip with
    | error => rfl
    | ok trim => exact ih trim

/-- Before the run there are no apps, and behind its start there is one. -/
def Begun (state : Run × List App) : Prop :=
  state.1.Named ∧ (state.1 = .ahead ↔ state.2 = [])

theorem Begun.element {state state' : Run × List App} {tag : Tag} {inner : Content} {trim : Bool}
    (h : Begun state) (step : walker.element state tag inner = .ok (state', trim)) :
    Begun state' := by
  obtain ⟨run, found⟩ := state
  obtain ⟨named, start⟩ := h
  by_cases entry : run = .within tag.name ∨ (run = .ahead ∧ tag.key = entryKey.toList)
  · rw [element_of_entry entry] at step
    obtain ⟨app, -, step⟩ := bind_ok step
    cases step
    refine ⟨?_, by simp⟩
    rcases entry with rfl | ⟨-, key⟩
    · exact named
    · exact key
  · by_cases key : tag.key = entryKey.toList
    · rw [element_of_late entry key] at step
      contradiction
    · rw [element_of_other entry key] at step
      obtain ⟨trim', -, step⟩ := bind_ok step
      cases step
      cases run with
      | ahead => exact ⟨trivial, start⟩
      | within | ended => exact ⟨trivial, by simpa [Run.interrupt] using start⟩

theorem not_entry_of_ended (tag : Tag) :
    ¬ (Run.ended = .within tag.name ∨ (Run.ended = .ahead ∧ tag.key = entryKey.toList)) := by
  simp

/-- A run that has ended goes on as before up to the next app, which is refused. -/
theorem readEntries_ended {run : Run} {found : List App} {trim : Bool} {content : Content}
    {list : List App} (named : run.Named) (late : run ≠ .ahead)
    (h : readEntries run found trim content = .ok list) :
    readEntries .ended found trim content =
      if entriesOf content.elements = [] then .ok list
      else .error (.duplicateField entryKey) := by
  fun_induction readEntries run found trim content with
  | case1 | case3 | case4 | case8 => contradiction
  | case5 => exact absurd rfl late
  | case2 run found trim content next =>
    rw [readEntries_eq_run, Walker.run_eq, next, (Content.elements_next next).1, ← h]
    rfl
  | case6 found trim content s after next ih =>
    rw [readEntries_eq_run, Walker.run_text next, (Content.elements_next next).1]
    show (walker.run (.ended, found) true after).map _ = _
    rw [← readEntries_eq_run]
    exact ih trivial late h
  | case7 run found trim content tag inner after next entry ih =>
    have key : tag.key = entryKey.toList := by
      rcases entry with rfl | ⟨-, key⟩
      · exact named
      · exact key
    have some : entriesOf content.elements ≠ [] := by
      rw [(Content.elements_next next).1, Event.elements, entriesOf,
        List.filter_cons_of_pos (by simpa using key)]
      exact List.cons_ne_nil _ _
    rw [readEntries_eq_run, Walker.run_element next, if_neg some,
      element_of_late (not_entry_of_ended tag) key]
    rfl
  | case9 run found trim content tag inner after next other key ih =>
    obtain ⟨trim', skipped, h⟩ := bind_ok h
    have same : entriesOf content.elements = entriesOf after.elements := by
      rw [(Content.elements_next next).1, Event.elements, entriesOf,
        List.filter_cons_of_neg (by simpa using key)]
      rfl
    have ended : run.interrupt = .ended := by
      cases run with
      | ahead => exact absurd rfl late
      | within | ended => rfl
    rw [ended] at ih h
    rw [readEntries_eq_run, Walker.run_element next, same,
      element_of_other (not_entry_of_ended tag) key, skipped]
    show (walker.run (.ended, found) trim' after).map _ = _
    rw [← readEntries_eq_run]
    exact ih trim' trivial (by simp) h

/-- The run is ahead as long as there was no app. -/
theorem ahead_iff {first : Content} {run : Run} {found : List App}
    (h : walker.run (.ahead, []) true first = .ok (run, found)) :
    run.Named ∧ (run = .ahead ↔ entriesOf first.elements = []) := by
  have start : Begun (.ahead, []) := ⟨trivial, by simp⟩
  have begun : Begun (run, found) := Walker.run_preserves (fun _ _ _ _ _ => Begun.element) start h
  have front : readEntries .ahead [] true first = .ok found.reverse := by
    rw [readEntries_eq_run, h]
    rfl
  have named : Run.ahead.Named := trivial
  obtain ⟨-, apps, same, entries⟩ := readEntries_ok named front
  have length : (entriesOf first.elements).length = found.length := by
    have count := congrArg List.length same
    rw [entries.length_eq]
    simpa using count.symm
  refine ⟨begun.1, begun.2.trans ?_⟩
  rw [← List.length_eq_zero_iff, ← length, List.length_eq_zero_iff]

/-- An element that is no app may be put into a list in front of all apps or behind them; between
two apps it makes the second one a field that is given twice. -/
theorem read_insert {tag tag' : Tag} {first back inner : Content} {list : AppList}
    (settled : first.Settled) (h : read tag (first.append back) = .ok list)
    (other : tag'.key ≠ entryKey.toList) (skipped : inner.skip = .ok true) :
    read tag (first.append (.element tag' inner back)) =
      if entriesOf first.elements ≠ [] ∧ entriesOf back.elements ≠ [] then
        .error (.duplicateField entryKey)
      else .ok list := by
  unfold read at h ⊢
  split at h
  · contradiction
  obtain ⟨apps, entries, rfl⟩ := map_ok h
  rw [readEntries_eq_run] at entries
  obtain ⟨⟨run', found'⟩, content, rfl⟩ := map_ok entries
  obtain ⟨⟨run, found⟩, reached, behind, inserted⟩ := Walker.exists_run_of_insert settled content
  obtain ⟨named, ahead⟩ := ahead_iff reached
  have rest : readEntries run found true back = .ok found'.reverse := by
    rw [readEntries_eq_run, behind]
    rfl
  have whole : readEntries .ahead [] true (first.append (.element tag' inner back)) =
      readEntries run.interrupt found true back := by
    rw [readEntries_eq_run, inserted, element_of_other (named.not_entry other) other, skipped,
      readEntries_eq_run]
    rfl
  rw [whole]
  by_cases start : run = .ahead
  · subst start
    have none : entriesOf first.elements = [] := ahead.mp rfl
    rw [if_neg (fun both => both.1 none)]
    show (readEntries .ahead found true back).map mk = _
    rw [rest]
    rfl
  · have some : entriesOf first.elements ≠ [] := fun none => start (ahead.mpr none)
    have ended : run.interrupt = .ended := by
      cases run with
      | ahead => exact absurd rfl start
      | within | ended => rfl
    rw [ended, readEntries_ended named start rest]
    by_cases none : entriesOf back.elements = []
    · rw [if_pos none, if_neg (fun both => both.2 none)]
      rfl
    · rw [if_neg none, if_pos ⟨some, none⟩]
      rfl

end AppList

/-! ## Bodies -/

/-- Behind the first part of the body is a place right behind the start tag of its root or right
behind an element in the root. -/
def IsChildPlace (front behind : String) : Prop :=
  documentText front ∈ childPlaces (documentText (front ++ behind))

/-- How many apps of a list stand in the first part of its body. -/
def AppList.entriesIn (front : String) : Nat :=
  ((Root.ofDocument? front).map fun root => (root.named entryKey).length).getD 0

theorem Xml.Content.Settled.closes {first : Content} (h : first.Settled) :
    first.closes = true := by
  cases h with
  | start => rfl
  | behind closed =>
    rw [Content.closes_append closed]
    rfl

namespace Document

variable {α : Type} [Document α]

/-- What is read of a body into which an element is put, at a place in its root. -/
theorem exists_read_of_insert (closed : ∀ (tag : Tag) (inner : Content) (a : α),
      Document.read tag inner = .ok a → inner.closes = true)
    {front behind : String} {a : α} (place : IsChildPlace front behind)
    (h : parse α (front ++ behind) = .ok a) :
    ∃ (tag : Tag) (first back : Content) (children : List Excerpt), first.Settled ∧
      Document.read tag (first.append back) = .ok a ∧
      Root.ofDocument? front = some ⟨tag, children⟩ ∧
      List.Forall₂ Excerpt.Shows children first.elements ∧
      ∀ (element : String) tag' inner, PutsElement element.toList tag' inner →
        parse α (front ++ element ++ behind) =
          (Document.read tag (first.append (.element tag' inner back))).mapError .unreadable := by
  obtain ⟨before, tag, inner, rooted, nothing, named, read⟩ := (parse_ok_iff_rooted closed).mp h
  obtain ⟨rest, first, back, whole, rfl, settled, ⟨children, found, shows⟩, put⟩ :=
    rooted.cut_of_mem_childPlaces (Content.elements_next nothing).1 place
  have nonempty : front.toList ≠ [] := by
    refine toList_ne_nil_of_documentText fun empty => ?_
    rw [empty, pieces] at found
    contradiction
  rw [documentText_append nonempty] at whole
  rw [← List.append_cancel_left whole] at put
  refine ⟨tag, first, back, children, settled, read, found, shows, fun element tag' inner puts => ?_⟩
  have text : documentText (front ++ element ++ behind) =
      documentText front ++ (element.toList ++ behind.toList) := by
    rw [String.append_assoc, documentText_append nonempty, String.toList_append]
  have rooted' := put _ _ _ puts
  rw [← text] at rooted'
  exact parse_of_rooted rooted' nothing named

/-- An element that is for no field may be put into the root of a document that is a record. -/
theorem parse_insert_of_record {F : Type} [DecidableEq F] {schema : Schema F}
    {ofDraft : schema.Draft → Except ReadError α} (noText : schema.field? textKey = none)
    (record : ∀ tag inner,
      Document.read tag inner = (schema.readElement tag inner >>= ofDraft))
    {front behind element : String} {a : α} (place : IsChildPlace front behind)
    (leaf : LeafText schema.names element.toList) (h : parse α (front ++ behind) = .ok a) :
    parse α (front ++ element ++ behind) = .ok a := by
  have closed : ∀ (tag : Tag) (inner : Content) (a : α),
      Document.read tag inner = .ok a → inner.closes = true := by
    intro tag inner a read
    rw [record] at read
    obtain ⟨draft, read, -⟩ := bind_ok read
    exact closes_of_readElement noText read
  obtain ⟨tag, first, back, -, settled, read, -, -, put⟩ := exists_read_of_insert closed place h
  obtain ⟨tag', inner, puts, other, skipped⟩ := leaf.exists_putsElement
  rw [record] at read
  obtain ⟨draft, element', made⟩ := bind_ok read
  have inserted :=
    Schema.readElement_insert noText settled element' (Schema.field?_eq_none other) skipped
  rw [put element tag' inner puts, record, inserted]
  show (ofDraft draft).mapError _ = _
  rw [made]
  rfl

/-- An element of another name may be put into a list of apps, but not between two of them. -/
theorem parse_insert_of_list {front behind element : String} {list : AppList}
    (place : IsChildPlace front behind) (leaf : LeafText [AppList.entryKey] element.toList)
    (h : parse AppList (front ++ behind) = .ok list) :
    parse AppList (front ++ element ++ behind) =
      if 0 < AppList.entriesIn front ∧ AppList.entriesIn front < list.apps.length then
        .error (.unreadable (.duplicateField AppList.entryKey))
      else .ok list := by
  have closed : ∀ (tag : Tag) (inner : Content) (list : AppList),
      Document.read tag inner = .ok list → inner.closes = true :=
    fun _ _ _ read => (AppList.read_ok read).1
  obtain ⟨tag, first, back, children, settled, read, found, shows, put⟩ :=
    exists_read_of_insert closed place h
  obtain ⟨tag', inner, puts, other, skipped⟩ := leaf.exists_putsElement
  have key : tag'.key ≠ AppList.entryKey.toList := by
    intro same
    rw [same, String.ofList_toList] at other
    exact other List.mem_cons_self
  have front' : AppList.entriesIn front = (AppList.entriesOf first.elements).length := by
    have entries : List.Forall₂ Excerpt.Shows (Root.named ⟨tag, children⟩ AppList.entryKey)
        (AppList.entriesOf first.elements) := Root.shows_named shows AppList.entryKey
    rw [AppList.entriesIn, found]
    exact entries.length_eq
  have all : list.apps.length =
      (AppList.entriesOf first.elements).length + (AppList.entriesOf back.elements).length := by
    rw [← (AppList.read_ok read).2.length_eq, Content.elements_append settled.closes,
      AppList.entriesOf, List.filter_append, List.length_append]
    rfl
  have between : 0 < AppList.entriesIn front ∧ AppList.entriesIn front < list.apps.length ↔
      AppList.entriesOf first.elements ≠ [] ∧ AppList.entriesOf back.elements ≠ [] := by
    rw [front', all, Nat.lt_add_right_iff_pos, List.length_pos_iff, List.length_pos_iff]
  rw [put element tag' inner puts]
  show (AppList.read tag _).mapError _ = _
  rw [AppList.read_insert settled read key skipped]
  by_cases interrupted : 0 < AppList.entriesIn front ∧ AppList.entriesIn front < list.apps.length
  · rw [if_pos interrupted, if_pos (between.mp interrupted)]
    rfl
  · rw [if_neg interrupted, if_neg fun both => interrupted (between.mpr both)]
    rfl

/-- An element of another name with nothing but text in it may be put into the root of a document
right behind its start tag or right behind an element in it, and the document has the same value,
if it is no list of apps. A list has the same value too, unless the element stands between two
apps: then the list is refused. -/
theorem parse_insert (front behind element : String) (place : IsChildPlace front behind) :
    (LeafText DeviceInfo.schema.names element.toList → ∀ info,
      parse DeviceInfo (front ++ behind) = .ok info →
        parse DeviceInfo (front ++ element ++ behind) = .ok info) ∧
    (LeafText ActiveApp.schema.names element.toList → ∀ active,
      parse ActiveApp (front ++ behind) = .ok active →
        parse ActiveApp (front ++ element ++ behind) = .ok active) ∧
    (LeafText PlayerStatus.schema.names element.toList → ∀ status,
      parse PlayerStatus (front ++ behind) = .ok status →
        parse PlayerStatus (front ++ element ++ behind) = .ok status) ∧
    (LeafText ["app"] element.toList → ∀ list, parse AppList (front ++ behind) = .ok list →
      parse AppList (front ++ element ++ behind) =
        if 0 < AppList.entriesIn front ∧ AppList.entriesIn front < list.apps.length then
          .error (.unreadable (.duplicateField "app"))
        else .ok list) := by
  refine ⟨fun leaf _ => parse_insert_of_record rfl (fun _ _ => rfl) place leaf,
    fun leaf _ => parse_insert_of_record rfl (fun _ _ => rfl) place leaf,
    fun leaf _ => parse_insert_of_record rfl (fun _ _ => rfl) place leaf,
    fun leaf _ => parse_insert_of_list place leaf⟩

/-- An element behind the app in the foreground, and one behind all apps of a list. -/
theorem parse_insert_two :
    parse ActiveApp ("<active-app><app>A</app>" ++ "<new> &lt; </new >" ++ "</active-app>") =
        .ok ⟨⟨none, none, none, "A"⟩, none⟩ ∧
      parse AppList ("<apps><app>A</app>" ++ "<new> &lt; </new >" ++ "</apps>") =
        .ok ⟨[⟨none, none, none, "A"⟩]⟩ := by
  have name : PlainName "new".toList := ⟨by decide, by decide⟩
  have text : Escaped (fun _ => false) " < ".toList " &lt; ".toList :=
    .plain rfl rfl (.entity .less (.plain rfl rfl .nil))
  have space : [' '].all isSpace = true := rfl
  have leaf : ∀ names : List String, "new" ∉ names →
      LeafText names "<new> &lt; </new >".toList := fun _ other =>
    .full (Tag.plain_of_name name) other text space
  have active := parse_insert "<active-app><app>A</app>" "</active-app>" "<new> &lt; </new >"
    (by unfold IsChildPlace; decide +kernel)
  have list := parse_insert "<apps><app>A</app>" "</apps>" "<new> &lt; </new >"
    (by unfold IsChildPlace; decide +kernel)
  refine ⟨active.2.1 (leaf _ (by decide)) _ (by decide +kernel), ?_⟩
  rw [list.2.2.2 (leaf _ (by decide)) ⟨[⟨none, none, none, "A"⟩]⟩ (by decide +kernel)]
  decide +kernel

/-- An empty element between two apps: there is a place, and the list without the element is read,
but with the element it is not. -/
theorem list_not_read_of_insert :
    IsChildPlace "<apps><app>A</app>" "<app>B</app></apps>" ∧ LeafText ["app"] "<x/>".toList ∧
      parse AppList ("<apps><app>A</app>" ++ "<app>B</app></apps>") =
        .ok ⟨[⟨none, none, none, "A"⟩, ⟨none, none, none, "B"⟩]⟩ ∧
      parse AppList ("<apps><app>A</app>" ++ "<x/>" ++ "<app>B</app></apps>") =
        .error (.unreadable (.duplicateField "app")) := by
  have name : PlainName "x".toList := ⟨by decide, by decide⟩
  refine ⟨by unfold IsChildPlace; decide +kernel, ?_, by decide +kernel, by decide +kernel⟩
  exact .single (Tag.plain_of_name name) (by decide)

end Document

end StreamRemote
