import Mathlib.Data.List.Induction
import StreamRemote.LogFilter.Filter

/-!
# Tables of directives

A table keeps its directives in order and one of them for each target, the last that was put in. It
also keeps the highest level, but this one of all directives that were ever put in, those that are
gone included. The directives here depend on no spans, so that they differ in nothing but their
targets and levels.

* `Directive.InForce` says which directives of a list are not replaced by a later one.
* `LogLevel.IsMost` says that a level is the highest among directives.
* `DirectiveTable.Holds` says which tables a list of directives can have.

Results:
1. `DirectiveTable.Holds.insert`, `DirectiveTable.holds_ofList`: what a table has of the directives
   that were put in.
2. `DirectiveTable.directives_ofList_of_sorted`: directives in order stay as they are.
-/

namespace StreamRemote

/-! ## Levels -/

namespace LogLevel

/-- The level logs as much as each of the directives, and no more than the most verbose of them. -/
structure IsMost (level : LogLevel) (directives : List Directive) : Prop where
  bound : ∀ d ∈ directives, d.level.number ≤ level.number
  reached : level = .off ∨ ∃ d ∈ directives, d.level = level

theorem number_injective : Function.Injective number := by
  intro level other
  cases level <;> cases other <;> decide

variable {level other : LogLevel} {d : Directive} {directives : List Directive}

theorem number_sup (level other : LogLevel) :
    (level.sup other).number = max level.number other.number := by
  unfold sup
  split
  · next le => exact (Nat.max_eq_right le).symm
  · next gt => exact (Nat.max_eq_left (Nat.le_of_lt (Nat.not_le.mp gt))).symm

theorem sup_off (level : LogLevel) : level.sup .off = level := by
  cases level <;> rfl

theorem isMost_nil : IsMost .off [] := ⟨nofun, .inl rfl⟩

theorem IsMost.append (most : level.IsMost directives) (d : Directive) :
    (level.sup d.level).IsMost (directives ++ [d]) where
  bound e he := by
    rw [number_sup]
    rcases List.mem_append.mp he with before | last
    · exact Nat.le_trans (most.bound e before) (Nat.le_max_left _ _)
    · rw [List.mem_singleton.mp last]
      exact Nat.le_max_right _ _
  reached := by
    unfold sup
    split
    · exact .inr ⟨d, by simp, rfl⟩
    · rcases most.reached with off | ⟨e, he, same⟩
      · exact .inl off
      · exact .inr ⟨e, List.mem_append_left _ he, same⟩

/-- A level is reached by the highest one if and only if it is reached by a directive. -/
theorem IsMost.le_iff (most : level.IsMost directives) (positive : 0 < other.number) :
    other.number ≤ level.number ↔ ∃ d ∈ directives, other.number ≤ d.level.number := by
  constructor
  · intro le
    rcases most.reached with rfl | ⟨d, hd, rfl⟩
    · exact absurd positive (Nat.not_lt.mpr le)
    · exact ⟨d, hd, le⟩
  · rintro ⟨d, hd, le⟩
    exact Nat.le_trans le (most.bound d hd)

/-- Where all directives are among others, and where there is one if there is one of the others, the
highest level is the same for both if and only if each of the others is outdone. -/
theorem IsMost.eq_iff {said : List Directive} (most : level.IsMost directives)
    (all : other.IsMost said) (sub : directives ⊆ said) (some : said ≠ [] → directives ≠ []) :
    level = other ↔ ∀ d ∈ said, ∃ e ∈ directives, d.level.number ≤ e.level.number := by
  constructor
  · rintro rfl d hd
    have bound := all.bound d hd
    rcases most.reached with rfl | ⟨e, he, reached⟩
    · obtain ⟨e, he⟩ := List.exists_mem_of_ne_nil _ (some (List.ne_nil_of_mem hd))
      exact ⟨e, he, Nat.le_trans bound (Nat.zero_le _)⟩
    · exact ⟨e, he, reached ▸ bound⟩
  · intro outdone
    refine number_injective (Nat.le_antisymm ?_ ?_)
    · rcases most.reached with rfl | ⟨e, he, rfl⟩
      · exact Nat.zero_le _
      · exact all.bound e (sub he)
    · rcases all.reached with rfl | ⟨d, hd, rfl⟩
      · exact Nat.zero_le _
      · obtain ⟨e, he, le⟩ := outdone d hd
        exact Nat.le_trans le (most.bound e he)

end LogLevel

/-! ## Directives in force -/

namespace Directive

/-- The directive does not depend on spans. -/
structure Plain (d : Directive) : Prop where
  span : d.span = none
  fields : d.fields = []

/-- The directive is in the list, and none for the same target is behind it. -/
inductive InForce : List Directive → Directive → Prop
  | here {d : Directive} {rest : List Directive} : (∀ e ∈ rest, e.target ≠ d.target) →
      InForce (d :: rest) d
  | later {d e : Directive} {rest : List Directive} : InForce rest d → InForce (e :: rest) d

variable {d e : Directive} {said : List Directive}

theorem InForce.mem (h : InForce said d) : d ∈ said := by
  induction h with
  | here => exact List.mem_cons_self
  | later _ ih => exact List.mem_cons_of_mem _ ih

/-- A further directive is in force, and takes the place of the one for its target. -/
theorem inForce_append_iff (said : List Directive) (d : Directive) :
    InForce (said ++ [d]) e ↔ e = d ∨ InForce said e ∧ e.target ≠ d.target := by
  induction said with
  | nil =>
    constructor
    · rintro (_ | later)
      · exact .inl rfl
      · contradiction
    · rintro (rfl | ⟨nothing, -⟩)
      · exact .here nofun
      · contradiction
  | cons f said ih =>
    constructor
    · rintro (last | later)
      · refine .inr ⟨.here fun g hg => last g (List.mem_append_left _ hg), ?_⟩
        exact (last d (by simp)).symm
      · rcases ih.mp later with rfl | ⟨before, other⟩
        · exact .inl rfl
        · exact .inr ⟨.later before, other⟩
    · rintro (rfl | ⟨last | later, other⟩)
      · exact .later (ih.mpr (.inl rfl))
      · refine .here fun g hg => ?_
        rcases List.mem_append.mp hg with before | behind
        · exact last g before
        · rw [List.mem_singleton.mp behind]
          exact other.symm
      · exact .later (ih.mpr (.inr ⟨later, other⟩))

/-- The last directive is in force. -/
theorem exists_inForce (some : said ≠ []) : ∃ d, InForce said d := by
  rw [← List.dropLast_concat_getLast some]
  exact ⟨_, (inForce_append_iff _ _).mpr (.inl rfl)⟩

/-! ## Order -/

/-- The order of targets: by their lengths, and then as in a dictionary. -/
def orderTarget : Option String → Option String → Ordering :=
  compareLex (compareOn (Option.map String.utf8ByteSize)) compare

instance : Std.TransCmp orderTarget :=
  inferInstanceAs (Std.TransCmp (compareLex _ _))

instance : Std.LawfulEqCmp orderTarget where
  eq_of_compare h := Std.LawfulEqCmp.eq_of_compare (Ordering.then_eq_eq.mp h).2

/-- Directives that do not depend on spans are ordered by their targets. -/
theorem order_of_plain (hd : d.Plain) (he : e.Plain) :
    d.order e = orderTarget d.target e.target := by
  rw [order, hd.span, he.span, hd.fields, he.fields]
  simp [orderTarget, compareLex, compareOn, orderFields]

end Directive

/-! ## Tables -/

namespace DirectiveTable

open Directive

/-- Each directive stands in front of those with smaller targets. -/
def Sorted (directives : List Directive) : Prop :=
  directives.Pairwise fun d e => orderTarget d.target e.target = .gt

/-- The table is one of the directives that were put in, in their order. -/
structure Holds (table : DirectiveTable) (said : List Directive) : Prop where
  sorted : Sorted table.directives
  inForce : ∀ d, d ∈ table.directives ↔ InForce said d
  most : table.maxLevel.IsMost said

variable {table : DirectiveTable} {d e : Directive} {directives said : List Directive}

theorem ne_of_orderTarget {target other : Option String} (h : orderTarget target other ≠ .eq) :
    other ≠ target := by
  rintro rfl
  exact h Std.ReflCmp.compare_self

/-- What is put in takes the place of what has the same target. -/
theorem mem_insertSorted_iff (plain : d.Plain) (all : ∀ e ∈ directives, e.Plain)
    (sorted : Sorted directives) :
    e ∈ insertSorted d directives ↔ e = d ∨ e ∈ directives ∧ e.target ≠ d.target := by
  induction directives with
  | nil => simp [insertSorted]
  | cons f rest ih =>
    obtain ⟨first, sorted⟩ := List.pairwise_cons.mp sorted
    obtain ⟨here, all⟩ := List.forall_mem_cons.mp all
    rw [insertSorted, order_of_plain plain here]
    cases compared : orderTarget d.target f.target with
    | gt =>
      have others : ∀ e ∈ f :: rest, e.target ≠ d.target := by
        refine List.forall_mem_cons.mpr ⟨ne_of_orderTarget (by simp [compared]), fun e he => ?_⟩
        have further := Std.TransCmp.gt_trans compared (first e he)
        exact ne_of_orderTarget (by simp [further])
      rw [List.mem_cons]
      exact or_congr_right ⟨fun mem => ⟨mem, others e mem⟩, And.left⟩
    | eq =>
      have same : d.target = f.target := Std.LawfulEqCmp.eq_of_compare compared
      have others : ∀ e ∈ rest, e.target ≠ d.target := fun e he => by
        rw [same]
        exact ne_of_orderTarget (by simp [first e he])
      rw [List.mem_cons]
      refine or_congr_right ⟨fun mem => ⟨List.mem_cons_of_mem _ mem, others e mem⟩, ?_⟩
      rintro ⟨mem, other⟩
      rcases List.mem_cons.mp mem with rfl | mem
      · exact absurd same.symm other
      · exact mem
    | lt =>
      have other : f.target ≠ d.target := ne_of_orderTarget (by simp [compared])
      rw [List.mem_cons, List.mem_cons, ih all sorted]
      constructor
      · rintro (rfl | rfl | ⟨mem, different⟩)
        · exact .inr ⟨.inl rfl, other⟩
        · exact .inl rfl
        · exact .inr ⟨.inr mem, different⟩
      · rintro (rfl | ⟨rfl | mem, different⟩)
        · exact .inr (.inl rfl)
        · exact .inl rfl
        · exact .inr (.inr ⟨mem, different⟩)

theorem sorted_insertSorted (plain : d.Plain) (all : ∀ e ∈ directives, e.Plain)
    (sorted : Sorted directives) : Sorted (insertSorted d directives) := by
  induction directives with
  | nil => exact List.pairwise_singleton _ _
  | cons f rest ih =>
    obtain ⟨first, behind⟩ := List.pairwise_cons.mp sorted
    obtain ⟨here, all⟩ := List.forall_mem_cons.mp all
    rw [insertSorted, order_of_plain plain here]
    cases compared : orderTarget d.target f.target with
    | gt =>
      refine List.pairwise_cons.mpr ⟨List.forall_mem_cons.mpr ⟨compared, fun e he => ?_⟩, sorted⟩
      exact Std.TransCmp.gt_trans compared (first e he)
    | eq =>
      have same : d.target = f.target := Std.LawfulEqCmp.eq_of_compare compared
      refine List.pairwise_cons.mpr ⟨?_, behind⟩
      rw [same]
      exact first
    | lt =>
      refine List.pairwise_cons.mpr ⟨fun e he => ?_, ih all behind⟩
      rcases (mem_insertSorted_iff plain all behind).mp he with rfl | ⟨mem, -⟩
      · exact Std.OrientedCmp.gt_of_lt compared
      · exact first e mem

/-- What is smaller than all others is put behind them. -/
theorem insertSorted_of_lt (plain : d.Plain) (all : ∀ e ∈ directives, e.Plain)
    (smaller : ∀ e ∈ directives, orderTarget e.target d.target = .gt) :
    insertSorted d directives = directives ++ [d] := by
  induction directives with
  | nil => rfl
  | cons f rest ih =>
    obtain ⟨here, all⟩ := List.forall_mem_cons.mp all
    obtain ⟨larger, smaller⟩ := List.forall_mem_cons.mp smaller
    rw [insertSorted, order_of_plain plain here, Std.OrientedCmp.lt_of_gt larger]
    exact congrArg (f :: ·) (ih all smaller)

theorem holds_empty : empty.Holds [] :=
  ⟨List.Pairwise.nil, fun _ => ⟨nofun, nofun⟩, LogLevel.isMost_nil⟩

/-- A table holds what is put in, instead of what was in force for its target. -/
theorem Holds.insert (holds : table.Holds said) (plain : d.Plain) (all : ∀ e ∈ said, e.Plain) :
    (table.insert d).Holds (said ++ [d]) := by
  have others : ∀ e ∈ table.directives, e.Plain := fun e he => all e ((holds.inForce e).mp he).mem
  refine ⟨sorted_insertSorted plain others holds.sorted, fun e => ?_, holds.most.append d⟩
  rw [inForce_append_iff, ← holds.inForce]
  exact mem_insertSorted_iff plain others holds.sorted

theorem ofList_append (said : List Directive) (d : Directive) :
    ofList (said ++ [d]) = (ofList said).insert d := by
  rw [ofList, List.foldl_append]
  rfl

/-- The table of some directives holds those that are in force, and the level of all. -/
theorem holds_ofList (all : ∀ d ∈ said, d.Plain) : (ofList said).Holds said := by
  induction said using List.reverseRecOn with
  | nil => exact holds_empty
  | append_singleton said d ih =>
    obtain ⟨all, plain⟩ := List.forall_mem_append.mp all
    rw [ofList_append]
    exact (ih all).insert (plain d (List.mem_singleton_self d)) all

/-- Directives that are put in in their order stay as they are. -/
theorem directives_ofList_of_sorted (all : ∀ d ∈ directives, d.Plain) (sorted : Sorted directives) :
    (ofList directives).directives = directives := by
  induction directives using List.reverseRecOn with
  | nil => rfl
  | append_singleton directives d ih =>
    obtain ⟨all, plain⟩ := List.forall_mem_append.mp all
    obtain ⟨sorted, -, smaller⟩ := List.pairwise_append.mp sorted
    have last := List.mem_singleton_self d
    rw [ofList_append, insert, ih all sorted]
    exact insertSorted_of_lt (plain d last) all fun e he => smaller e he d last

end DirectiveTable

end StreamRemote
