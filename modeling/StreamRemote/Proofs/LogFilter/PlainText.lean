import StreamRemote.LogFilter.Filter
import StreamRemote.Proofs.LogFilter.Table
import StreamRemote.Proofs.Text.Blank

/-!
# Directives without spans

A directive that depends on no spans is written as a word, which is a level or a target, or as a
target, an equals sign and a level. Where nothing is written for the level, it is the highest one. A
target is any word that begins with a letter, a digit or one of three signs, and may look like a
level where one is written behind it.

* `Directive.PlainText` says which texts are written in this way.
* `Directive.Says` says which directives they stand for.

Results:
1. `Directive.read_ok_iff`: a directive that is read is the one that is written.
2. `Directive.says_render`: the text of a directive says that directive.
-/

namespace StreamRemote

open Text

namespace Directive

/-- A character that a word goes on with: no white space, and none with a meaning of its own. -/
def inWord (c : Char) : Bool :=
  !isBlank c && c != ',' && c != '=' && c != '['

/-- A row of such characters, of any length but zero. -/
structure IsWord (w : List Char) : Prop where
  nonempty : w ≠ []
  inWord : ∀ c ∈ w, inWord c = true

instance (w : List Char) : Decidable (IsWord w) :=
  decidable_of_iff (w ≠ [] ∧ w.all Directive.inWord = true)
    ⟨fun h => ⟨h.1, List.all_eq_true.mp h.2⟩, fun h => ⟨h.1, List.all_eq_true.mpr h.2⟩⟩

/-- A word that a directive can begin with. -/
structure IsTarget (w : List Char) : Prop extends IsWord w where
  begins : ∀ c ∈ w.head?, beginsWord c = true

/-- The text is a word, or a word with something behind an equals sign. -/
inductive PlainText : List Char → Prop
  | word {w : List Char} : IsWord w → PlainText w
  | leveled {w l : List Char} : IsWord w → ',' ∉ l → PlainText (w ++ '=' :: l)

/-- The directive that a text stands for: a level for all targets, or a target with its level. A
target without a level has the highest one, with an equals sign or without. -/
inductive Says : List Char → Directive → Prop
  | level {w : List Char} {level : LogLevel} : IsTarget w →
      LogLevel.read? (String.ofList w) = some level → Says w ⟨none, none, [], level⟩
  | target {w : List Char} : IsTarget w → LogLevel.read? (String.ofList w) = none →
      Says w ⟨some (String.ofList w), none, [], .trace⟩
  | leveled {w l : List Char} {level : LogLevel} : IsTarget w →
      LogLevel.read? (String.ofList l) = some level →
      Says (w ++ '=' :: l) ⟨some (String.ofList w), none, [], level⟩
  | unleveled {w : List Char} : IsTarget w →
      Says (w ++ ['=']) ⟨some (String.ofList w), none, [], .trace⟩

/-- The directive depends on no spans, and its target can be read again. -/
structure Worded (d : Directive) : Prop extends Plain d where
  target : ∀ t ∈ d.target, IsTarget t.toList

variable {piece w l : List Char} {c : Char} {d : Directive} {place : Place} {i : Nat}

/-! ## Words -/

theorem IsWord.isBlank_eq (word : IsWord w) : ∀ c ∈ w, isBlank c = false := by
  intro c hc
  have free := word.inWord c hc
  simp only [Directive.inWord, Bool.and_eq_true, Bool.not_eq_true'] at free
  exact free.1.1.1

theorem IsWord.ne (word : IsWord w) : ∀ c ∈ w, c ≠ ',' ∧ c ≠ '=' ∧ c ≠ '[' := by
  intro c hc
  have free := word.inWord c hc
  simp only [Directive.inWord, Bool.and_eq_true, bne_iff_ne] at free
  exact ⟨free.1.1.2, free.1.2, free.2⟩

theorem IsWord.isPiece (word : IsWord w) : w ≠ [] ∧ ',' ∉ w :=
  ⟨word.nonempty, fun comma => (word.ne ',' comma).1 rfl⟩

/-- A directive is a single piece of the text of a filter. -/
theorem PlainText.isPiece (plain : PlainText piece) : piece ≠ [] ∧ ',' ∉ piece := by
  cases plain with
  | word word => exact word.isPiece
  | leveled word free =>
    refine ⟨by simp, fun comma => ?_⟩
    rcases List.mem_append.mp comma with inside | behind
    · exact word.isPiece.2 inside
    · rcases List.mem_cons.mp behind with equals | inside
      · contradiction
      · exact free inside

theorem trim_word (word : IsWord w) : trim isBlank w = w := by
  have whole := trim_append_append (solid_of_forall word.isBlank_eq)
    (List.all_nil : [].all isBlank = true) List.all_nil
  rw [List.nil_append, List.append_nil] at whole
  exact whole

theorem trim_leveled (word : IsWord w) (l : List Char) :
    trim isBlank (w ++ '=' :: l) = w ++ '=' :: trimEnd isBlank l := by
  obtain ⟨c, w, rfl⟩ := List.exists_cons_of_ne_nil word.nonempty
  have solid := word.isBlank_eq c List.mem_cons_self
  rw [trim, List.cons_append, trimStart_cons_of_not solid, ← List.cons_append,
    trimEnd_append_cons rfl]

/-! ## Reading -/

/-- In a word, nothing is read but the word. -/
theorem readFrom_firstWord (word : ∀ c ∈ w, c ≠ '=' ∧ c ≠ '[') (rest : List Char) :
    readFrom piece d .firstWord i (w ++ rest) =
      readFrom piece d .firstWord (i + byteLength w) rest := by
  induction w generalizing i with
  | nil => rfl
  | cons c w ih =>
    obtain ⟨⟨equals, bracket⟩, word⟩ := List.forall_mem_cons.mp word
    rw [List.cons_append, readFrom, step, if_neg equals, if_neg bracket]
    simp only [byteLength_cons]
    rw [ih word, Nat.add_assoc]

/-- A level goes on to the end. -/
theorem readFrom_level {start : Nat} (rest : List Char) :
    readFrom piece d (.level start) i rest = finish piece d (.level start) := by
  induction rest generalizing i with
  | nil => rfl
  | cons c rest ih => exact ih

theorem readFrom_target (target : IsTarget w) (rest : List Char) :
    readFrom piece d .outset 0 (w ++ rest) =
      readFrom piece d .firstWord (byteLength w) rest := by
  obtain ⟨c, w, rfl⟩ := List.exists_cons_of_ne_nil target.nonempty
  have bracket := (target.ne c List.mem_cons_self).2.2
  rw [List.cons_append, readFrom, step, if_neg bracket, if_pos (target.begins c rfl)]
  simp only
  rw [readFrom_firstWord fun e he => (target.ne e (List.mem_cons_of_mem _ he)).2, Nat.zero_add,
    byteLength_cons]

/-- What cannot begin a directive is refused. -/
theorem isTarget_of_readFrom (word : IsWord w) {rest : List Char}
    (h : readFrom piece d .outset 0 (w ++ rest) = .ok e) : IsTarget w := by
  obtain ⟨c, w, rfl⟩ := List.exists_cons_of_ne_nil word.nonempty
  have bracket := (word.ne c List.mem_cons_self).2.2
  refine ⟨word, fun first hf => ?_⟩
  cases hf
  rw [List.cons_append, readFrom, step, if_neg bracket] at h
  by_cases begins : beginsWord c = true
  · exact begins
  · rw [if_neg begins] at h
    contradiction

theorem PlainText.isTarget_of_read (plain : PlainText piece) (h : read piece = .ok d) :
    IsTarget piece ∨ ∃ w l, piece = w ++ '=' :: l ∧ IsTarget w := by
  cases plain with
  | word word =>
    rw [read, trim_word word, ← List.append_nil piece] at h
    exact .inl (isTarget_of_readFrom word h)
  | @leveled w l word =>
    rw [read, trim_leveled word] at h
    exact .inr ⟨w, l, rfl, isTarget_of_readFrom word h⟩

theorem read_word (target : IsTarget w) : read w = finish w everything .firstWord := by
  have scanned : readFrom w everything .outset 0 (w ++ []) = _ := readFrom_target target []
  rw [List.append_nil] at scanned
  rw [read, trim_word target.toIsWord, scanned]
  rfl

/-- Behind an equals sign is the level. -/
theorem read_leveled (target : IsTarget w) (l : List Char) :
    read (w ++ '=' :: l) =
      finish (w ++ '=' :: l) { everything with target := some (String.ofList w) }
        (.level (byteLength w + 1)) := by
  rw [read, trim_leveled target.toIsWord, readFrom_target target, readFrom, step, if_pos rfl, cut,
    takeBytes_byteLength_append, dropBytes_zero]
  exact readFrom_level _

theorem dropBytes_leveled (w l : List Char) :
    dropBytes (byteLength w + 1) (w ++ '=' :: l) = l := by
  have behind := dropBytes_byteLength_append (w ++ ['=']) l
  rw [byteLength_append, List.append_assoc] at behind
  exact behind

/-- A word is a level, or else a target. -/
theorem says_of_read_word (target : IsTarget w) (h : read w = .ok d) : Says w d := by
  rw [read_word target, finish] at h
  split at h
  · next level found =>
    cases h
    exact .level target found
  · next none =>
    cases h
    exact .target target none

theorem says_of_read_leveled (target : IsTarget w) (h : read (w ++ '=' :: l) = .ok d) :
    Says (w ++ '=' :: l) d := by
  rw [read_leveled target, finish, dropBytes_leveled] at h
  simp only at h
  split at h
  · next nothing =>
    cases h
    rw [nothing]
    exact .unleveled target
  · split at h
    · next level found =>
      cases h
      exact .leveled target found
    · contradiction

theorem Says.read_eq (h : Says piece d) : read piece = .ok d := by
  cases h with
  | level target found | target target found =>
    rw [read_word target, finish, found]
    rfl
  | @leveled w l level target found =>
    have nothing : LogLevel.read? (String.ofList []) = none := by decide +kernel
    have written : l ≠ [] := by
      rintro rfl
      rw [nothing] at found
      contradiction
    rw [read_leveled target, finish, dropBytes_leveled]
    simp only
    rw [if_neg written, found]
    rfl
  | unleveled target =>
    rw [read_leveled target, finish, dropBytes_leveled]
    rfl

/-- A directive that is read is the one that is written. -/
theorem read_ok_iff (plain : PlainText piece) : read piece = .ok d ↔ Says piece d := by
  refine ⟨fun h => ?_, Says.read_eq⟩
  rcases plain.isTarget_of_read h with target | ⟨w, l, rfl, target⟩
  · exact says_of_read_word target h
  · exact says_of_read_leveled target h

/-- What a text says depends on no spans. -/
theorem Says.worded (h : Says piece d) : d.Worded := by
  cases h with
  | level => exact ⟨⟨rfl, rfl⟩, nofun⟩
  | target target | leveled target | unleveled target =>
    refine ⟨⟨rfl, rfl⟩, ?_⟩
    rintro _ ⟨⟩
    rw [String.toList_ofList]
    exact target

/-! ## Writing -/

theorem isTarget_name (level : LogLevel) : IsTarget level.name.toList := by
  refine ⟨?_, fun c first => ?_⟩
  · cases level <;> decide
  · cases level <;> cases first <;> decide +kernel

theorem render_of_none (plain : d.Plain) (none : d.target = none) : d.render = d.level.name := by
  rw [render, if_pos ⟨none, plain.span, plain.fields⟩]

theorem toList_render_of_some (plain : d.Plain) {t : String} (some : d.target = some t) :
    d.render.toList = t.toList ++ '=' :: d.level.name.toList := by
  have scope : d.scope = t := by
    rw [scope, if_pos ⟨plain.span, plain.fields⟩, some]
    simp
  have targeted : ¬ (d.target = none ∧ d.span = none ∧ d.fields = []) := by
    rw [some]
    nofun
  rw [render, if_neg targeted, scope]
  simp

theorem Plain.eta (plain : d.Plain) : d = ⟨d.target, none, [], d.level⟩ := by
  obtain ⟨target, span, fields, level⟩ := d
  obtain ⟨⟨⟩, ⟨⟩⟩ := plain
  rfl

/-- The text of a directive says that directive. -/
theorem says_render (worded : d.Worded) : Says d.render.toList d := by
  have named : LogLevel.read? (String.ofList d.level.name.toList) = some d.level := by
    rw [String.ofList_toList, LogLevel.read?_name]
  cases targeted : d.target with
  | none =>
    rw [render_of_none worded.toPlain targeted, worded.toPlain.eta, targeted]
    exact .level (isTarget_name d.level) named
  | some t =>
    have leveled := Says.leveled (worded.target t targeted) named
    rw [String.ofList_toList] at leveled
    rw [toList_render_of_some worded.toPlain targeted, worded.toPlain.eta, targeted]
    exact leveled

theorem plainText_render (worded : d.Worded) : PlainText d.render.toList := by
  have name := isTarget_name d.level
  cases targeted : d.target with
  | none =>
    rw [render_of_none worded.toPlain targeted]
    exact .word name.toIsWord
  | some t =>
    rw [toList_render_of_some worded.toPlain targeted]
    exact .leveled (worded.target t targeted).toIsWord name.isPiece.2

end Directive

end StreamRemote
