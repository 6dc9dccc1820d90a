import Mathlib.Data.List.Forall2
import StreamRemote.Display
import StreamRemote.Proofs.Text.Cut
import StreamRemote.Proofs.Text.Split

/-!
# What a list of apps tells

Each app in a list is a line, with its id and its type in columns and its name behind them. A column
is filled up with blanks and never cut, so that a long id moves the rest of its line. Where a column
ends can still be seen, because there are no blanks in it, and the width of a column tells how many
of the blanks behind it are not part of what follows.

* `App.Tabular` says which apps can be told from their lines.
* `App.ShownIn` says that a line has all that is shown of an app.
* `App.ShownAlike` says that two apps differ in nothing that is shown.

Results:
1. `padRight_append_inj`: a column and what stands behind it can be told from the two together.
2. `App.row_eq_iff`: the line of an app tells what is shown of it.
3. `App.renderList_eq_iff_shownAlike`: the text of a list tells what is shown of each app.
-/

namespace StreamRemote

/-! ## Columns -/

theorem toList_padRight (width : Nat) (s : String) :
    (padRight width s).toList = s.toList ++ List.replicate (width - s.length) ' ' := by
  rw [padRight, String.toList_append, String.toList_ofList]

/-- A column with the blank behind it, and what follows. -/
theorem toList_padRight_append (width : Nat) (s rest : String) :
    (padRight width s ++ " " ++ rest).toList =
      s.toList ++ (List.replicate (width - s.length + 1) ' ' ++ rest.toList) := by
  rw [String.toList_append, String.toList_append, toList_padRight, List.replicate_succ']
  simp

/-- A column ends at the first blank, and its width tells where the next one begins. -/
theorem padRight_append_inj {width : Nat} {s s' rest rest' : String} (free : ' ' ∉ s.toList)
    (free' : ' ' ∉ s'.toList)
    (h : padRight width s ++ " " ++ rest = padRight width s' ++ " " ++ rest') :
    s = s' ∧ rest = rest' := by
  have whole := congrArg String.toList h
  rw [toList_padRight_append, toList_padRight_append] at whole
  have blank : ∀ (n : Nat) (t : List Char),
      ∀ c ∈ (List.replicate (n + 1) ' ' ++ t).head?, c = ' ' := by
    rintro n t c ⟨⟩
    rfl
  obtain ⟨column, behind⟩ := cut_ne_append free (blank (width - s.length) rest.toList)
  obtain ⟨column', behind'⟩ := cut_ne_append free' (blank (width - s'.length) rest'.toList)
  rw [whole] at column behind
  have same : s = s' := String.toList_inj.mp (column.symm.trans column')
  refine ⟨same, String.toList_inj.mp ?_⟩
  have rests := behind.symm.trans behind'
  rw [same] at rests
  exact List.append_cancel_left rests

namespace App

/-! ## Lines -/

/-- What stands in a column: a dash for what is not known. -/
def column (text : Option String) : String :=
  text.getD "-"

/-- The text can stand in a column of one line, and does not say that nothing is known. -/
structure FitsColumn (text : String) : Prop where
  blank : ' ' ∉ text.toList
  lineFeed : '\n' ∉ text.toList
  dash : text ≠ "-"

/-- The app can be told from its line: the columns fit, as far as they are known, and the name is a
single line. The name may be any text besides, and look like a column. -/
structure Tabular (app : App) : Prop where
  id : ∀ text ∈ app.id, FitsColumn text
  kind : ∀ text ∈ app.kind, FitsColumn text
  name : '\n' ∉ app.name.toList

/-- The line has the two columns of an app and its name in full, one behind the other with blanks
between them. -/
def ShownIn (app : App) (line : String) : Prop :=
  ∃ m n, line.toList = (column app.id).toList ++ List.replicate (m + 1) ' ' ++
    (column app.kind).toList ++ List.replicate (n + 1) ' ' ++ app.name.toList

/-- Nothing that is shown of an app differs from the other one. -/
structure ShownAlike (app other : App) : Prop where
  id : app.id = other.id
  kind : app.kind = other.kind
  name : app.name = other.name

variable {text text' : Option String} {app other : App} {apps others : List App}

theorem blank_not_mem_column (fits : ∀ s ∈ text, FitsColumn s) : ' ' ∉ (column text).toList := by
  cases text with
  | none => decide
  | some s => exact (fits s rfl).blank

theorem lineFeed_not_mem_column (fits : ∀ s ∈ text, FitsColumn s) :
    '\n' ∉ (column text).toList := by
  cases text with
  | none => decide
  | some s => exact (fits s rfl).lineFeed

/-- What is not known cannot be taken for what is. -/
theorem column_inj (fits : ∀ s ∈ text, FitsColumn s) (fits' : ∀ s ∈ text', FitsColumn s)
    (h : column text = column text') : text = text' := by
  cases text with
  | none =>
    cases text' with
    | none => rfl
    | some s' => exact absurd h.symm (fits' s' rfl).dash
  | some s =>
    cases text' with
    | none => exact absurd h (fits s rfl).dash
    | some s' => exact congrArg some h

theorem row_eq (app : App) :
    app.row = padRight 16 (column app.id) ++ " " ++
      (padRight 5 (column app.kind) ++ " " ++ app.name) := by
  simp only [row, column, String.append_assoc]

/-- No column is cut, and there is a blank behind each of them. -/
theorem shownIn_row (app : App) : app.ShownIn app.row := by
  refine ⟨16 - (column app.id).length, 5 - (column app.kind).length, ?_⟩
  rw [row_eq, toList_padRight_append, toList_padRight_append]
  simp only [List.append_assoc]

theorem row_ne_empty (app : App) : app.row ≠ "" := by
  rw [row_eq]
  intro empty
  have nothing := congrArg String.toList empty
  rw [toList_padRight_append] at nothing
  simp [List.replicate_succ] at nothing

/-- The line of an app tells what is shown of it. -/
theorem row_eq_iff (tabular : app.Tabular) (tabular' : other.Tabular) :
    app.row = other.row ↔ app.ShownAlike other := by
  constructor
  · intro h
    rw [row_eq, row_eq] at h
    obtain ⟨id, rest⟩ := padRight_append_inj (blank_not_mem_column tabular.id)
      (blank_not_mem_column tabular'.id) h
    obtain ⟨kind, name⟩ := padRight_append_inj (blank_not_mem_column tabular.kind)
      (blank_not_mem_column tabular'.kind) rest
    exact ⟨column_inj tabular.id tabular'.id id, column_inj tabular.kind tabular'.kind kind, name⟩
  · rintro ⟨id, kind, name⟩
    rw [row, row, id, kind, name]

theorem lineFeed_not_mem_row (tabular : app.Tabular) : '\n' ∉ app.row.toList := by
  obtain ⟨m, n, line⟩ := shownIn_row app
  have id := lineFeed_not_mem_column tabular.id
  have kind := lineFeed_not_mem_column tabular.kind
  rw [line]
  simp [id, kind, tabular.name]

/-! ## Lists -/

/-- A list with apps in it is shown in as many lines, which are those of the apps. -/
theorem lines_renderList (tabular : ∀ app ∈ apps, app.Tabular) (some : apps ≠ []) :
    Text.lines (renderList apps) = apps.map row := by
  have free : ∀ line ∈ (apps.map row).map String.toList, '\n' ∉ line := by
    simp only [List.map_map, List.forall_mem_map, Function.comp_apply]
    exact fun app mem => lineFeed_not_mem_row (tabular app mem)
  have split := Text.splitAtEach_intercalate (by simpa using some) free
  have feed : "\n".toList = ['\n'] := rfl
  rw [Text.lines, renderList, joinLines, String.toList_intercalate, feed, split, List.map_map]
  simp [Function.comp_def]

theorem renderList_eq_empty_iff : renderList apps = "" ↔ apps = [] := by
  constructor
  · intro h
    rcases apps with _ | ⟨app, _ | ⟨next, rest⟩⟩
    · rfl
    · exact absurd (by simpa [renderList, joinLines] using h) (row_ne_empty app)
    · simp [renderList, joinLines] at h
  · rintro rfl
    rfl

theorem map_row_eq_iff (tabular : ∀ app ∈ apps, app.Tabular)
    (tabular' : ∀ app ∈ others, app.Tabular) :
    apps.map row = others.map row ↔ List.Forall₂ ShownAlike apps others := by
  induction apps generalizing others with
  | nil => cases others <;> simp
  | cons app apps ih =>
    cases others with
    | nil => simp
    | cons other others =>
      obtain ⟨here, later⟩ := List.forall_mem_cons.mp tabular
      obtain ⟨here', later'⟩ := List.forall_mem_cons.mp tabular'
      rw [List.map_cons, List.map_cons, List.cons.injEq, List.forall₂_cons, row_eq_iff here here',
        ih later later']

/-- The text of a list tells the lines of its apps. -/
theorem renderList_eq_iff (tabular : ∀ app ∈ apps, app.Tabular)
    (tabular' : ∀ app ∈ others, app.Tabular) :
    renderList apps = renderList others ↔ apps.map row = others.map row := by
  refine ⟨fun h => ?_, congrArg joinLines⟩
  by_cases none : apps = []
  · rw [renderList_eq_empty_iff.mpr none] at h
    rw [none, renderList_eq_empty_iff.mp h.symm]
  · have none' : others ≠ [] := fun empty => by
      rw [renderList_eq_empty_iff.mpr empty] at h
      exact none (renderList_eq_empty_iff.mp h)
    rw [← lines_renderList tabular none, h, lines_renderList tabular' none']

/-- Lists are shown by the same text if and only if they are equally long and each app is shown like
the one in its place. A list with apps in it has a line for each of them, in their order, and only
the empty list is shown by the empty text. The line of an app, whatever it is, has both columns and
the name in full. -/
theorem renderList_eq_iff_shownAlike (tabular : ∀ app ∈ apps, app.Tabular)
    (tabular' : ∀ app ∈ others, app.Tabular) :
    (renderList apps = renderList others ↔ List.Forall₂ ShownAlike apps others) ∧
    (apps ≠ [] → Text.lines (renderList apps) = apps.map row) ∧
    (renderList apps = "" ↔ apps = []) ∧
    ∀ app : App, app.ShownIn app.row := by
  refine ⟨?_, lines_renderList tabular, renderList_eq_empty_iff, shownIn_row⟩
  rw [renderList_eq_iff tabular tabular', map_row_eq_iff tabular tabular']

/-- Of two lists with an id that is longer than its column, and a name that looks like columns: one
blank more in front of the name makes another text. -/
theorem renderList_eq_iff_shownAlike_two :
    let input (name : String) : App := ⟨some "tvinput.hdmi1.extended", none, none, name⟩
    let home : App := ⟨none, some "appl", some "1", ""⟩
    (∀ app ∈ [input "  - 12 x", home], app.Tabular) ∧
      (∀ app ∈ [input " - 12 x", home], app.Tabular) ∧
      renderList [input "  - 12 x", home] ≠ renderList [input " - 12 x", home] ∧
      Text.lines (renderList [input "  - 12 x", home]) =
        ["tvinput.hdmi1.extended -       - 12 x", "-                appl  "] := by
  intro input home
  have fits (name : String) (line : '\n' ∉ name.toList) :
      ∀ app ∈ [input name, home], app.Tabular := by
    have column (text : String) (blank : ' ' ∉ text.toList) (lineFeed : '\n' ∉ text.toList)
        (dash : text ≠ "-") : ∀ s ∈ some text, FitsColumn s := by
      rintro _ ⟨⟩
      exact ⟨blank, lineFeed, dash⟩
    refine List.forall_mem_cons.mpr
      ⟨⟨?_, nofun, line⟩, List.forall_mem_singleton.mpr ⟨nofun, ?_, ?_⟩⟩
    · exact column _ (by decide) (by decide) (by decide)
    · exact column _ (by decide) (by decide) (by decide)
    · decide
  have wide := fits "  - 12 x" (by decide)
  have narrow := fits " - 12 x" (by decide)
  obtain ⟨same, split, -, -⟩ := renderList_eq_iff_shownAlike wide narrow
  refine ⟨wide, narrow, fun equal => ?_, ?_⟩
  · cases same.mp equal with
    | cons alike _ => exact absurd alike.name (by decide)
  · rw [split (List.cons_ne_nil _ _)]
    decide +kernel

end App

end StreamRemote
