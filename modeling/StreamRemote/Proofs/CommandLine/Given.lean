import StreamRemote.CommandLine.Arguments
import StreamRemote.Proofs.Steps

/-!
# Options that are given one after the other

Each option is given at most once, with a text that stands for one of its values. Two options do not
interfere, so their order does not matter: only which error is found first depends on it.

Results:
1. `Given.give_toOption`: what giving an option does.
2. `Given.give_swap`: different options can be given in any order.
3. `Given.giveAll_insert`: an option among others can be given last.
4. `Given.giveAll_of_has`: an option that is given already cannot be given once more.
5. `Given.exists_giveAll`: what giving several options does, each of them once.
-/

namespace StreamRemote.CommandLine

/-- The values that an option can have. -/
def Setting.Value : Setting → Type
  | host => String
  | port => UInt16
  | timeout => UInt64
  | logLevel => String

/-- The value that a text stands for, if the option can have it. -/
def Setting.value? : (setting : Setting) → String → Option setting.Value
  | host, text => some text
  | port, text => (readPort text).toOption
  | timeout, text => (Text.readWord64 text).toOption
  | logLevel, text => some text

namespace Given

variable {given : Given} {setting other : Setting}

/-- The options given, with a value for one of them. -/
def set (given : Given) : (setting : Setting) → setting.Value → Given
  | .host, (value : String) => { given with host := some value }
  | .port, (value : UInt16) => { given with port := some value }
  | .timeout, (value : UInt64) => { given with timeout := some value }
  | .logLevel, (value : String) => { given with logLevel := some value }

/-- The value that is given for an option, if there is one. -/
def get? (given : Given) : (setting : Setting) → Option setting.Value
  | .host => given.host
  | .port => given.port
  | .timeout => given.timeout
  | .logLevel => given.logLevel

/-- Gives options their values, one after the other. -/
def giveAll (given : Given) (values : List (Setting × String)) : Except UsageError Given :=
  values.foldlM (fun given option => given.give option.1 option.2) given

theorem has_set (different : other ≠ setting) (value : setting.Value) :
    (given.set setting value).has other = given.has other := by
  cases setting <;> cases other <;> first | rfl | contradiction

theorem get?_set_same (given : Given) (value : setting.Value) :
    (given.set setting value).get? setting = some value := by
  cases setting <;> rfl

theorem get?_set_other (different : other ≠ setting) (value : setting.Value) :
    (given.set setting value).get? other = given.get? other := by
  cases setting <;> cases other <;> first | rfl | contradiction

theorem set_comm (different : setting ≠ other) (value : setting.Value) (value' : other.Value) :
    (given.set setting value).set other value' = (given.set other value').set setting value := by
  cases setting <;> cases other <;> first | rfl | contradiction

/-- An option is given once, with a value that it can have. -/
theorem give_toOption (given : Given) (setting : Setting) (text : String) :
    (given.give setting text).toOption =
      if given.has setting then none else (setting.value? text).map (given.set setting) := by
  unfold give
  split
  · rfl
  · cases setting with
    | host => rfl
    | port =>
      simp only [Setting.value?]
      cases readPort text <;> rfl
    | timeout =>
      simp only [Setting.value?]
      cases Text.readWord64 text <;> rfl
    | logLevel => rfl

theorem give_ok {text : String} {value : setting.Value} (fresh : given.has setting = false)
    (read : setting.value? text = some value) :
    given.give setting text = .ok (given.set setting value) := by
  rw [← toOption_eq_some_iff, give_toOption, fresh, read]
  rfl

/-- It does not matter which one of two different options is given first. -/
theorem give_swap (different : setting ≠ other) (given : Given) (text text' : String) :
    (given.give setting text >>= (·.give other text')).toOption =
      (given.give other text' >>= (·.give setting text)).toOption := by
  simp only [toOption_bind, give_toOption]
  cases setting.value? text with
  | none => cases other.value? text' <;> simp
  | some value =>
    cases other.value? text' with
    | none => simp
    | some value' =>
      by_cases first : given.has setting <;> by_cases second : given.has other <;>
        simp [has_set, different, different.symm, first, second, set_comm different]

theorem has_of_give {given' : Given} {text : String} (different : setting ≠ other)
    (h : given.give other text = .ok given') : given'.has setting = given.has setting := by
  rw [← toOption_eq_some_iff, give_toOption] at h
  split at h
  · contradiction
  · obtain ⟨value, -, rfl⟩ := Option.map_eq_some_iff.mp h
    exact has_set different value

theorem giveAll_cons (given : Given) (setting : Setting) (text : String)
    (values : List (Setting × String)) :
    given.giveAll ((setting, text) :: values) =
      given.give setting text >>= fun given => given.giveAll values :=
  List.foldlM_cons

theorem giveAll_append (given : Given) (values values' : List (Setting × String)) :
    given.giveAll (values ++ values') =
      given.giveAll values >>= fun given => given.giveAll values' :=
  List.foldlM_append

/-- An option that is not given behind can be given last. -/
theorem giveAll_cons_of_not_mem {values : List (Setting × String)}
    (fresh : setting ∉ values.map Prod.fst) (given : Given) (text : String) :
    (given.giveAll ((setting, text) :: values)).toOption =
      (given.giveAll values >>= (·.give setting text)).toOption := by
  induction values generalizing given with
  | nil =>
    rw [giveAll_cons]
    exact congrArg Except.toOption (bind_pure _)
  | cons option values ih =>
    obtain ⟨other, text'⟩ := option
    obtain ⟨different, fresh⟩ := List.ne_and_not_mem_of_not_mem_cons fresh
    calc (given.giveAll ((setting, text) :: (other, text') :: values)).toOption
        = ((given.give setting text >>= (·.give other text')) >>= (·.giveAll values)).toOption := by
          simp only [giveAll_cons, bind_assoc]
      _ = ((given.give other text' >>= (·.give setting text)) >>= (·.giveAll values)).toOption := by
          rw [toOption_bind, give_swap different, ← toOption_bind]
      _ = (given.give other text' >>= fun given =>
            given.giveAll ((setting, text) :: values)).toOption := by
          simp only [giveAll_cons, bind_assoc]
      _ = (given.give other text' >>= fun given =>
            given.giveAll values >>= (·.give setting text)).toOption := by
          simp only [toOption_bind _ fun given : Given => given.giveAll _, ih fresh]
          exact (toOption_bind _ _).symm
      _ = (given.giveAll ((other, text') :: values) >>= (·.give setting text)).toOption := by
          simp only [giveAll_cons, bind_assoc]

theorem giveAll_insert {values' : List (Setting × String)}
    (fresh : setting ∉ values'.map Prod.fst) (given : Given) (values : List (Setting × String))
    (text : String) :
    (given.giveAll (values ++ (setting, text) :: values')).toOption =
      (given.giveAll (values ++ values') >>= (·.give setting text)).toOption := by
  rw [giveAll_append, giveAll_append, bind_assoc, toOption_bind, toOption_bind]
  exact congrArg _ (funext fun given => giveAll_cons_of_not_mem fresh given text)

theorem has_of_giveAll {values : List (Setting × String)} {given' : Given}
    (fresh : setting ∉ values.map Prod.fst) (h : given.giveAll values = .ok given') :
    given'.has setting = given.has setting := by
  induction values generalizing given with
  | nil =>
    cases h
    rfl
  | cons option values ih =>
    obtain ⟨different, fresh⟩ := List.ne_and_not_mem_of_not_mem_cons fresh
    obtain ⟨next, given, h⟩ := bind_ok h
    rw [ih fresh h, has_of_give different given]

/-- An option that is given already cannot be given once more. -/
theorem giveAll_of_has {values : List (Setting × String)} (given : Given)
    (again : given.has setting = true) (mem : setting ∈ values.map Prod.fst) :
    (given.giveAll values).toOption = none := by
  induction values generalizing given with
  | nil => contradiction
  | cons option values ih =>
    obtain ⟨other, text⟩ := option
    rw [giveAll_cons, toOption_bind, Option.bind_eq_none_iff]
    intro given' gave
    by_cases same : setting = other
    · subst same
      rw [give_toOption, if_pos again] at gave
      contradiction
    · have kept := has_of_give same (toOption_eq_some_iff.mp gave)
      exact ih given' (kept.trans again) ((List.mem_cons.mp mem).resolve_left same)

/-- Options that are all new, each of them once, are given. Each then has its value, and all others
are as before. -/
theorem exists_giveAll {values : List (Setting × String)} {value : (s : Setting) → s.Value}
    (once : (values.map Prod.fst).Nodup)
    (read : ∀ option ∈ values, option.1.value? option.2 = some (value option.1)) (given : Given)
    (fresh : ∀ option ∈ values, given.has option.1 = false) :
    ∃ given', given.giveAll values = .ok given' ∧ ∀ s : Setting,
      given'.get? s = if s ∈ values.map Prod.fst then some (value s) else given.get? s := by
  induction values generalizing given with
  | nil => exact ⟨given, rfl, fun s => rfl⟩
  | cons option values ih =>
    obtain ⟨setting, text⟩ := option
    rw [List.map_cons, List.nodup_cons] at once
    rw [List.forall_mem_cons] at read fresh
    have still : ∀ option ∈ values, (given.set setting (value setting)).has option.1 = false := by
      intro option mem
      have different : option.1 ≠ setting := fun same =>
        once.1 (List.mem_map.mpr ⟨option, mem, same⟩)
      rw [has_set different, fresh.2 option mem]
    obtain ⟨given', gave, got⟩ := ih once.2 read.2 _ still
    refine ⟨given', ?_, fun s => ?_⟩
    · rw [giveAll_cons, give_ok fresh.1 read.1]
      exact gave
    · rw [got, List.map_cons]
      by_cases same : s = setting
      · subst same
        simp [get?_set_same]
      · simp only [get?_set_other same, List.mem_cons, same, false_or]

end Given

end StreamRemote.CommandLine
