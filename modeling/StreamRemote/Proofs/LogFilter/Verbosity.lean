import StreamRemote.Proofs.LogFilter.PlainText
import StreamRemote.Proofs.Steps
import StreamRemote.Proofs.Text.Split

/-!
# How verbose a filter is

The text of a filter shows the directives that are in force, and is read as a filter with the same
directives. It does not always show the level of the filter. That one is the highest of all
directives that were given, and a directive still counts where another one took its place. So a
filter can be verbose although none of its directives in force is. It keeps its level when its text
is read again if and only if, for each directive that was given, one in force logs as much.

* `LogFilter.Reread` says what a filter has of the directives it was read from, and what is left of
  them when its text is read again.

Results:
1. `LogFilter.parse_render`: the text of a filter without spans is read again.
2. `LogFilter.reread_of_parse`: what a filter has of such directives, for each text it is read from.
3. `LogFilter.verbose_without_directive`: a verbose filter that has no verbose directive in force.
-/

namespace StreamRemote

open Text Directive

theorem Directive.Plain.isDynamic_eq {d : Directive} (plain : d.Plain) : d.isDynamic = false := by
  rw [isDynamic, plain.span, plain.fields]
  rfl

namespace LogFilter

/-- The directives of a filter, in the order in which its text shows them. -/
def directives (filter : LogFilter) : List Directive :=
  filter.statics.directives ++ filter.dynamics.directives

/-- What a filter has of the directives that it was read from, and what another one has of them that
is read from its text. -/
structure Reread (filter : LogFilter) (said : List Directive) (again : LogFilter) : Prop where
  inForce : ∀ d, d ∈ filter.directives ↔ InForce said d
  most : filter.maxLevel.IsMost said
  verbose : filter.isVerbose = true ↔ ∃ d ∈ said, LogLevel.debug.number ≤ d.level.number
  read : parse filter.render = .ok again
  same : again.directives = filter.directives
  shown : again.render = filter.render
  mostAgain : again.maxLevel.IsMost filter.directives
  verboseAgain : again.isVerbose = true ↔
    ∃ d ∈ filter.directives, LogLevel.debug.number ≤ d.level.number
  level : again.maxLevel = filter.maxLevel ↔
    ∀ d ∈ said, ∃ e ∈ filter.directives, d.level.number ≤ e.level.number

theorem render_eq (filter : LogFilter) :
    filter.render = String.intercalate "," (filter.directives.map Directive.render) :=
  rfl

variable {text : String} {parts : List String} {said : List Directive} {filter : LogFilter}

/-! ## Filters without spans -/

/-- Without spans, there is only one table. -/
theorem ofDirectives_of_plain (all : ∀ d ∈ said, d.Plain) :
    ofDirectives said = ⟨.ofList said, .empty⟩ := by
  have static : said.filter (fun d => !d.isDynamic) = said :=
    List.filter_eq_self.mpr fun d hd => by rw [(all d hd).isDynamic_eq]; rfl
  have dynamic : said.filter isDynamic = [] :=
    List.filter_eq_nil_iff.mpr fun d hd => by rw [(all d hd).isDynamic_eq]; exact nofun
  rw [ofDirectives, static, dynamic, List.filter_nil, List.append_nil]
  rfl

theorem directives_ofDirectives (all : ∀ d ∈ said, d.Plain) :
    (ofDirectives said).directives = (DirectiveTable.ofList said).directives := by
  rw [directives, ofDirectives_of_plain all]
  exact List.append_nil _

theorem maxLevel_ofDirectives (all : ∀ d ∈ said, d.Plain) :
    (ofDirectives said).maxLevel.IsMost said := by
  rw [maxLevel, ofDirectives_of_plain all]
  have most := (DirectiveTable.holds_ofList all).most
  rwa [← LogLevel.sup_off (DirectiveTable.ofList said).maxLevel] at most

theorem mem_directives_ofDirectives (all : ∀ d ∈ said, d.Plain) (d : Directive) :
    d ∈ (ofDirectives said).directives ↔ InForce said d := by
  rw [directives_ofDirectives all]
  exact (DirectiveTable.holds_ofList all).inForce d

theorem directives_subset (all : ∀ d ∈ said, d.Plain) : (ofDirectives said).directives ⊆ said :=
  fun d hd => ((mem_directives_ofDirectives all d).mp hd).mem

/-- A filter of its own directives is as it was, but for the level. -/
theorem directives_again (all : ∀ d ∈ said, d.Plain) :
    (ofDirectives (ofDirectives said).directives).directives = (ofDirectives said).directives := by
  have mine : ∀ d ∈ (ofDirectives said).directives, d.Plain := fun d hd =>
    all d (directives_subset all hd)
  rw [directives_ofDirectives mine]
  rw [directives_ofDirectives all] at mine ⊢
  exact DirectiveTable.directives_ofList_of_sorted mine (DirectiveTable.holds_ofList all).sorted

theorem isVerbose_iff (most : filter.maxLevel.IsMost said) :
    filter.isVerbose = true ↔ ∃ d ∈ said, LogLevel.debug.number ≤ d.level.number := by
  rw [isVerbose, decide_eq_true_iff]
  exact most.le_iff (by decide)

/-! ## Reading -/

/-- The pieces of a text are the parts that it is put together from. -/
theorem pieces_intercalate (whole : ∀ part ∈ parts, part.toList ≠ [] ∧ ',' ∉ part.toList) :
    pieces (String.intercalate "," parts) = parts.map String.toList := by
  have nonempty : (parts.map String.toList).filter (!·.isEmpty) = parts.map String.toList := by
    refine List.filter_eq_self.mpr (List.forall_mem_map.mpr fun part hp => ?_)
    rw [List.isEmpty_eq_false_iff.mpr (whole part hp).1]
    rfl
  cases parts with
  | nil => rfl
  | cons part rest =>
    have free : ∀ w ∈ (part :: rest).map String.toList, ',' ∉ w :=
      List.forall_mem_map.mpr fun part hp => (whole part hp).2
    have split := splitAtEach_intercalate (List.cons_ne_nil _ _) free
    rw [pieces, String.toList_intercalate]
    exact (congrArg _ split).trans nonempty

theorem parse_ok_iff : parse text = .ok filter ↔
    ∃ said, List.Forall₂ (fun piece d => Directive.read piece = .ok d) (pieces text) said ∧
      ofDirectives said = filter := by
  simp only [← mapM_ok_iff]
  rw [parse]
  cases (pieces text).mapM Directive.read with
  | error cause => exact ⟨nofun, nofun⟩
  | ok said =>
    constructor
    · intro h
      exact ⟨said, rfl, Except.ok.inj h⟩
    · rintro ⟨_, ⟨⟩, rfl⟩
      rfl

/-- A text is a filter if and only if each of its pieces is a directive. -/
theorem exists_parse_iff : (∃ filter, parse text = .ok filter) ↔
    ∀ piece ∈ pieces text, ∃ d, Directive.read piece = .ok d := by
  simp only [← exists_mapM_ok_iff, parse_ok_iff, ← mapM_ok_iff]
  constructor
  · rintro ⟨_, said, read, -⟩
    exact ⟨said, read⟩
  · rintro ⟨said, read⟩
    exact ⟨_, said, read, rfl⟩

/-- The text of a filter is read as the filter of the directives that it shows. -/
theorem parse_render (all : ∀ d ∈ said, d.Worded) :
    parse (ofDirectives said).render = .ok (ofDirectives (ofDirectives said).directives) := by
  have mine : ∀ d ∈ (ofDirectives said).directives, d.Worded := fun d hd =>
    all d (directives_subset (fun e he => (all e he).toPlain) hd)
  have whole : ∀ text ∈ (ofDirectives said).directives.map Directive.render,
      text.toList ≠ [] ∧ ',' ∉ text.toList :=
    List.forall_mem_map.mpr fun d hd => (plainText_render (mine d hd)).isPiece
  refine parse_ok_iff.mpr ⟨_, ?_, rfl⟩
  rw [render_eq, pieces_intercalate whole, List.map_map, List.forall₂_map_left_iff,
    List.forall₂_same]
  exact fun d hd => (says_render (mine d hd)).read_eq

/-- What is read of a text is what its pieces say. -/
theorem says_of_parse (plain : ∀ piece ∈ pieces text, PlainText piece)
    (h : parse text = .ok filter) :
    ∃ said, List.Forall₂ Says (pieces text) said ∧ ofDirectives said = filter := by
  obtain ⟨said, reads, made⟩ := parse_ok_iff.mp h
  obtain ⟨length, reads⟩ := List.forall₂_iff_zip.mp reads
  refine ⟨said, List.forall₂_iff_zip.mpr ⟨length, fun {piece d} pair => ?_⟩, made⟩
  exact (read_ok_iff (plain piece (List.of_mem_zip pair).1)).mp (reads pair)

theorem worded_of_forall₂ {pieces : List (List Char)} (h : List.Forall₂ Says pieces said) :
    ∀ d ∈ said, d.Worded := by
  induction h with
  | nil => exact nofun
  | cons here _ ih => exact List.forall_mem_cons.mpr ⟨here.worded, ih⟩

/-- The filter of directives without spans is read again from its text, as far as it is shown. -/
theorem reread_ofDirectives (all : ∀ d ∈ said, d.Worded) :
    (ofDirectives said).Reread said (ofDirectives (ofDirectives said).directives) := by
  have plain : ∀ d ∈ said, d.Plain := fun d hd => (all d hd).toPlain
  have inForce := mem_directives_ofDirectives plain
  have sub := directives_subset plain
  have some (given : said ≠ []) : (ofDirectives said).directives ≠ [] := by
    obtain ⟨d, hd⟩ := exists_inForce given
    exact List.ne_nil_of_mem ((inForce d).mpr hd)
  have same := directives_again plain
  have most := maxLevel_ofDirectives plain
  have mostAgain := maxLevel_ofDirectives fun d hd => plain d (sub hd)
  exact
    { inForce, most, same, mostAgain
      verbose := isVerbose_iff most
      read := parse_render all
      shown := by rw [render_eq, same, render_eq]
      verboseAgain := isVerbose_iff mostAgain
      level := mostAgain.eq_iff most sub some }

/-- A text of directives without spans is a filter if and only if each of them says something, and
then the filter is read again from its own text. What is lost is the level of those that are not in
force. -/
theorem reread_of_parse (plain : ∀ piece ∈ pieces text, PlainText piece) :
    ((∃ filter, parse text = .ok filter) ↔ ∀ piece ∈ pieces text, ∃ d, Says piece d) ∧
    ∀ filter, parse text = .ok filter →
      ∃ said again, List.Forall₂ Says (pieces text) said ∧ filter.Reread said again := by
  refine ⟨?_, fun filter h => ?_⟩
  · rw [exists_parse_iff]
    exact forall₂_congr fun piece hp => exists_congr fun d => read_ok_iff (plain piece hp)
  · obtain ⟨said, meant, rfl⟩ := says_of_parse plain h
    exact ⟨said, _, meant, reread_ofDirectives (worded_of_forall₂ meant)⟩

/-- A level, and a target that is given twice. -/
theorem reread_of_parse_twice :
    ∃ filter, parse "warn,a=debug,a=info" = .ok filter ∧
      ∃ said again, List.Forall₂ Says (pieces "warn,a=debug,a=info") said ∧
        filter.Reread said again := by
  have target : IsWord ['a'] := by decide
  have split : pieces "warn,a=debug,a=info" =
      ["warn".toList, ['a'] ++ '=' :: "debug".toList, ['a'] ++ '=' :: "info".toList] := by
    decide +kernel
  have plain : ∀ piece ∈ pieces "warn,a=debug,a=info", PlainText piece := by
    rw [split]
    refine List.forall_mem_cons.mpr ⟨.word (by decide), ?_⟩
    refine List.forall_mem_cons.mpr ⟨.leveled target (by decide), ?_⟩
    exact List.forall_mem_singleton.mpr (.leveled target (by decide))
  have h : parse "warn,a=debug,a=info" =
      .ok ⟨⟨[⟨some "a", none, [], .info⟩, ⟨none, none, [], .warn⟩], .debug⟩, .empty⟩ := by
    decide +kernel
  exact ⟨_, h, (reread_of_parse plain).2 _ h⟩

/-- A directive that is replaced still makes a filter verbose, and is not in its text: what is read
from there has a lower level. -/
theorem verbose_without_directive :
    ∃ filter again, parse "a=debug,a=info" = .ok filter ∧ filter.render = "a=info" ∧
      filter.isVerbose = true ∧
      (∀ d ∈ filter.directives, d.level.number < LogLevel.debug.number) ∧
      parse "a=info" = .ok again ∧ again.isVerbose = false ∧
      filter.maxLevel = .debug ∧ again.maxLevel = .info := by
  refine ⟨⟨⟨[⟨some "a", none, [], .info⟩], .debug⟩, .empty⟩,
    ⟨⟨[⟨some "a", none, [], .info⟩], .info⟩, .empty⟩, ?_, ?_, rfl, ?_, ?_, rfl, rfl, rfl⟩
  · decide +kernel
  · decide +kernel
  · decide
  · decide +kernel

end LogFilter

end StreamRemote
