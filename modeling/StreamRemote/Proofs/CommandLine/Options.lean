import StreamRemote.Proofs.CommandLine.Given
import StreamRemote.Proofs.Text.Cut

/-!
# Which command lines are read

A command line that can be read is some options, a subcommand, and what belongs to the subcommand.
`OptionText` says how an option is written with its value, and `OptionsText` which options a row of
arguments gives.

The reader checks the value of an option late when it stands in an argument of its own. This decides
which error is found first, but not whether there is one: by `readFrom_pending` every other proof may
take the pending option as checked.

Results:
1. `readFrom_options`: options are read by giving them one by one, whatever follows them.
2. `read_ok_iff`: the command lines that are read, and what they say.
3. `read_insert`: one more option in front of the subcommand.
-/

namespace StreamRemote.CommandLine

/-! ## How options are written -/

/-- An option with its value: in one argument, or in two if the value looks like no option. -/
inductive OptionText (setting : Setting) (value : String) : List String → Prop
  | long : OptionText setting value ["--" ++ setting.long ++ "=" ++ value]
  | longApart :
      Form.ofArgument value = .word → OptionText setting value ["--" ++ setting.long, value]
  | short {letter : Char} :
      setting.short? = some letter → value ≠ "" → value.toList.head? ≠ some '=' →
      OptionText setting value ["-" ++ String.singleton letter ++ value]
  | shortEquals {letter : Char} :
      setting.short? = some letter →
      OptionText setting value ["-" ++ String.singleton letter ++ "=" ++ value]
  | shortApart {letter : Char} :
      setting.short? = some letter → Form.ofArgument value = .word →
      OptionText setting value ["-" ++ String.singleton letter, value]

/-- Options with their values, one after the other. -/
inductive OptionsText : List (Setting × String) → List String → Prop
  | nil : OptionsText [] []
  | cons {setting : Setting} {value : String} {values : List (Setting × String)}
      {text rest : List String} :
      OptionText setting value text → OptionsText values rest →
      OptionsText ((setting, value) :: values) (text ++ rest)

/-- The command line sets the option in front of its subcommand. -/
def Sets (setting : Setting) (args : List String) : Prop :=
  ∃ values options rest, args = options ++ rest ∧ OptionsText values options ∧
    setting ∈ values.map Prod.fst

theorem OptionText.ne_nil {setting : Setting} {value : String} {text : List String}
    (h : OptionText setting value text) : text ≠ [] := by
  cases h <;> exact List.cons_ne_nil _ _

theorem OptionsText.append {values values' : List (Setting × String)} {text text' : List String}
    (h : OptionsText values text) (h' : OptionsText values' text') :
    OptionsText (values ++ values') (text ++ text') := by
  induction h with
  | nil => exact h'
  | cons option _ ih =>
    rw [List.append_assoc]
    exact .cons option ih

/-! ## The forms of their arguments -/

namespace Form

variable {arg name : String} {rest : List Char}

theorem ofArgument_of_dashes (h : arg.toList = '-' :: '-' :: rest) (more : rest ≠ []) :
    ofArgument arg = .long (String.ofList (rest.takeWhile (· ≠ '=')))
      (if rest.contains '=' then some (String.ofList ((rest.dropWhile (· ≠ '=')).drop 1))
        else none) := by
  rw [ofArgument, h]
  cases rest with
  | nil => contradiction
  | cons c rest => rfl

theorem ofArgument_of_dash {c : Char} (h : arg.toList = '-' :: c :: rest) (other : c ≠ '-') :
    ofArgument arg = .short (c :: rest) := by
  rw [ofArgument, h]
  split
  · next same => cases same; contradiction
  · next same => cases same; contradiction
  · next same => cases same; rfl
  · next no => exact absurd rfl (no _ _)

theorem ofArgument_equals (plain : '=' ∉ name.toList) (value : String) :
    ofArgument ("--" ++ name ++ "=" ++ value) = .long name (some value) := by
  have letters : ("--" ++ name ++ "=" ++ value).toList =
      '-' :: '-' :: (name.toList ++ '=' :: value.toList) := by
    simp
  obtain ⟨taken, dropped⟩ := cut_ne_append (s := '=' :: value.toList) plain (by simp)
  rw [ofArgument_of_dashes letters (by simp), taken, dropped]
  simp

theorem ofArgument_alone (plain : '=' ∉ name.toList) (nonempty : name ≠ "") :
    ofArgument ("--" ++ name) = .long name none := by
  have letters : ("--" ++ name).toList = '-' :: '-' :: name.toList := by simp
  have taken := (cut_ne_append (s := []) plain nofun).1
  rw [List.append_nil] at taken
  rw [ofArgument_of_dashes letters (by simpa using nonempty), taken]
  simp [plain]

/-- A word is an argument that does not begin with a dash, or a dash alone. -/
theorem ofArgument_eq_word_iff :
    ofArgument arg = .word ↔ (arg.toList.head? = some '-' → arg = "-") := by
  constructor
  · intro word dash
    obtain ⟨rest, written⟩ := List.head?_eq_some_iff.mp dash
    cases rest with
    | nil => exact String.toList_inj.mp written
    | cons c rest =>
      by_cases again : c = '-'
      · subst again
        cases rest with
        | nil => simp [ofArgument, written] at word
        | cons d rest =>
          rw [ofArgument_of_dashes written (List.cons_ne_nil _ _)] at word
          contradiction
      · rw [ofArgument_of_dash written again] at word
        contradiction
  · intro bare
    rw [ofArgument]
    split
    · next written => simp [bare (by rw [written]; rfl)] at written
    · next written => simp [bare (by rw [written]; rfl)] at written
    · next written => simp [bare (by rw [written]; rfl)] at written
    · rfl

theorem eq_of_ofArgument_long {value : Option String} (h : ofArgument arg = .long name value) :
    (∃ v, value = some v ∧ arg = "--" ++ name ++ "=" ++ v) ∨
      value = none ∧ arg = "--" ++ name := by
  rw [ofArgument] at h
  split at h
  · contradiction
  · next rest _ written =>
    obtain ⟨rfl, rfl⟩ := Form.long.inj h
    by_cases marked : '=' ∈ rest
    · obtain ⟨name, value, rfl, plain⟩ := List.eq_append_cons_of_mem marked
      obtain ⟨taken, dropped⟩ := cut_ne_append (s := '=' :: value) plain (by simp)
      rw [taken, dropped, if_pos (by simp)]
      exact .inl ⟨String.ofList value, rfl, String.toList_inj.mp (by simp [written])⟩
    · have taken := (cut_ne_append (s := []) marked nofun).1
      rw [List.append_nil] at taken
      rw [taken, if_neg (by simp [marked])]
      exact .inr ⟨rfl, String.toList_inj.mp (by simp [written])⟩
  · contradiction
  · contradiction

theorem eq_of_ofArgument_short {letters : List Char} (h : ofArgument arg = .short letters) :
    letters ≠ [] ∧ arg = "-" ++ String.ofList letters := by
  rw [ofArgument] at h
  split at h
  · contradiction
  · contradiction
  · next c rest _ _ written =>
    obtain rfl := Form.short.inj h
    exact ⟨List.cons_ne_nil _ _, String.toList_inj.mp (by simp [written])⟩
  · contradiction

end Form

namespace Setting

theorem long_plain (setting : Setting) : '=' ∉ setting.long.toList := by
  cases setting <;> decide

theorem long_ne_empty (setting : Setting) : setting.long ≠ "" := by
  cases setting <;> decide

theorem find?_long (setting : Setting) : all.find? (·.long == setting.long) = some setting := by
  cases setting <;> rfl

theorem find?_short {setting : Setting} {letter : Char} (h : setting.short? = some letter) :
    all.find? (·.short? == some letter) = some setting := by
  cases setting <;> cases h <;> rfl

theorem short?_ne_dash {setting : Setting} {letter : Char} (h : setting.short? = some letter) :
    letter ≠ '-' := by
  cases setting <;> cases h <;> decide

end Setting

/-! ## Reading options -/

namespace Progress

variable {progress : Progress}

/-- A flag ends the reading, whatever comes before it. -/
theorem react_toOption (progress : Progress) (flag : Flag) :
    (progress.react flag : Except UsageError Progress).toOption = none := by
  cases flag <;> (rw [react, toOption_bind]; cases progress.settle <;> rfl)

theorem long_eq (progress : Progress) (name : String) (value : Option String) :
    progress.long name value =
      match Setting.all.find? (·.long == name), value with
      | some setting, none => progress.await setting
      | some setting, some value => progress.attach setting value
      | none, value =>
        match [Flag.help, .version].find? (·.long == name), value with
        | none, _ => .error (.unknownArgument ("--" ++ name))
        | some flag, some value => .error (.unexpectedValue flag value)
        | some .help, none => progress.settle >>= fun _ => throw (.help .full)
        | some .version, none => progress.react .version :=
  rfl

theorem long_attach (progress : Progress) (setting : Setting) (value : String) :
    progress.long setting.long (some value) = progress.attach setting value := by
  rw [long_eq, setting.find?_long]

theorem long_await (progress : Progress) (setting : Setting) :
    progress.long setting.long none = progress.await setting := by
  rw [long_eq, setting.find?_long]

/-- What is no option by its name does not let the reading go on. -/
theorem long_of_unknown {name : String} (h : Setting.all.find? (·.long == name) = none)
    (progress : Progress) (value : Option String) :
    (progress.long name value).toOption = none := by
  rw [long_eq, h]
  cases [Flag.help, .version].find? (·.long == name) with
  | none => rfl
  | some flag =>
    cases value with
    | some value => cases flag <;> rfl
    | none =>
      cases flag with
      | help => exact (toOption_bind _ _).trans (by cases progress.settle <;> rfl)
      | version => exact progress.react_toOption .version

theorem exists_setting_of_long {progress' : Progress} {name : String} {value : Option String}
    (h : progress.long name value = .ok progress') : ∃ setting : Setting, setting.long = name := by
  cases found : Setting.all.find? (·.long == name) with
  | some setting =>
    have same := List.find?_some found
    exact ⟨setting, eq_of_beq same⟩
  | none =>
    rw [← toOption_eq_some_iff, long_of_unknown found] at h
    contradiction

/-- An option settles what is pending before it. -/
theorem long_settle (progress : Progress) (name : String) (value : Option String) :
    (progress.long name value).toOption =
      progress.settle.toOption.bind fun given => (long ⟨given, none⟩ name value).toOption := by
  cases found : Setting.all.find? (·.long == name) with
  | some setting =>
    have same := List.find?_some found
    obtain rfl : setting.long = name := eq_of_beq same
    cases value with
    | none =>
      simp only [long_await]
      exact toOption_bind _ _
    | some value =>
      simp only [long_attach]
      exact toOption_bind _ _
  | none => simp [long_of_unknown found]

theorem short_eq (progress : Progress) (c : Char) (letters : List Char) :
    progress.short (c :: letters) =
      match Setting.all.find? (·.short? == some c), letters with
      | some setting, [] => progress.await setting
      | some setting, '=' :: value => progress.attach setting (String.ofList value)
      | some setting, value => progress.attach setting (String.ofList value)
      | none, _ =>
        match [Flag.help, .version].find? (·.short == c) with
        | some flag => progress.react flag
        | none => .error (.unknownArgument ("-" ++ String.singleton c)) :=
  rfl

section Letter

variable {setting : Setting} {letter : Char} (has : setting.short? = some letter)
include has

theorem short_await (progress : Progress) :
    progress.short [letter] = progress.await setting := by
  rw [short_eq, Setting.find?_short has]

theorem short_attach_equals (progress : Progress) (value : String) :
    progress.short (letter :: '=' :: value.toList) = progress.attach setting value := by
  rw [short_eq, Setting.find?_short has]
  show progress.attach setting (String.ofList value.toList) = _
  rw [String.ofList_toList]

theorem short_attach {value : String} (nonempty : value ≠ "")
    (bare : value.toList.head? ≠ some '=') (progress : Progress) :
    progress.short (letter :: value.toList) = progress.attach setting value := by
  rw [short_eq, Setting.find?_short has]
  split
  · next empty => exact absurd (String.toList_eq_nil_iff.mp empty) nonempty
  · next value' written => simp [written] at bare
  · next same _ _ => rw [String.ofList_toList, Option.some.inj same]
  · contradiction

/-- More letters behind that of an option are its value. -/
theorem exists_value_of_letters (d : Char) (letters : List Char) :
    ∃ value, OptionText setting value ["-" ++ String.ofList (letter :: d :: letters)] ∧
      ∀ progress : Progress,
        progress.short (letter :: d :: letters) = progress.attach setting value := by
  by_cases equals : d = '='
  · subst equals
    refine ⟨String.ofList letters, ?_, fun progress => ?_⟩
    · have written : "-" ++ String.ofList (letter :: '=' :: letters) =
          "-" ++ String.singleton letter ++ "=" ++ String.ofList letters :=
        String.toList_inj.mp (by simp)
      rw [written]
      exact .shortEquals has
    · have attached := short_attach_equals has progress (String.ofList letters)
      rwa [String.toList_ofList] at attached
  · have nonempty : String.ofList (d :: letters) ≠ "" := by simp
    have bare : (String.ofList (d :: letters)).toList.head? ≠ some '=' := by simpa using equals
    refine ⟨String.ofList (d :: letters), ?_, fun progress => ?_⟩
    · have written : "-" ++ String.ofList (letter :: d :: letters) =
          "-" ++ String.singleton letter ++ String.ofList (d :: letters) :=
        String.toList_inj.mp (by simp)
      rw [written]
      exact .short has nonempty bare
    · have attached := short_attach has nonempty bare progress
      rwa [String.toList_ofList] at attached

end Letter

theorem short_of_unknown {c : Char} (h : Setting.all.find? (·.short? == some c) = none)
    (progress : Progress) (letters : List Char) :
    (progress.short (c :: letters)).toOption = none := by
  rw [short_eq, h]
  cases [Flag.help, .version].find? (·.short == c) with
  | none => rfl
  | some flag => exact progress.react_toOption flag

theorem exists_setting_of_short {progress' : Progress} {c : Char} {letters : List Char}
    (h : progress.short (c :: letters) = .ok progress') :
    ∃ setting : Setting, setting.short? = some c := by
  cases found : Setting.all.find? (·.short? == some c) with
  | some setting =>
    have same := List.find?_some found
    exact ⟨setting, eq_of_beq same⟩
  | none =>
    rw [← toOption_eq_some_iff, short_of_unknown found] at h
    contradiction

theorem short_settle (progress : Progress) (c : Char) (letters : List Char) :
    (progress.short (c :: letters)).toOption =
      progress.settle.toOption.bind fun given => (short ⟨given, none⟩ (c :: letters)).toOption := by
  cases found : Setting.all.find? (·.short? == some c) with
  | some setting =>
    have same := List.find?_some found
    have has : setting.short? = some c := eq_of_beq same
    cases letters with
    | nil =>
      simp only [short_await has]
      exact toOption_bind _ _
    | cons d letters =>
      obtain ⟨value, -, attached⟩ := exists_value_of_letters has d letters
      simp only [attached]
      exact toOption_bind _ _
  | none => simp [short_of_unknown found]

end Progress

section Steps

variable (progress : Progress) {arg : String} (rest : List String)

theorem readFrom_nil (literal : Bool) :
    readFrom progress literal [] =
      progress.settle >>= fun given => throw (withoutSubcommand given) :=
  rfl

theorem readFrom_cons (literal : Bool) (arg : String) :
    readFrom progress literal (arg :: rest) =
      match literal, Form.ofArgument arg with
      | true, _ => readWord progress true arg rest
      | false, .separator => readFrom progress true rest
      | false, .long name value =>
        progress.long name value >>= fun progress => readFrom progress false rest
      | false, .short letters =>
        progress.short letters >>= fun progress => readFrom progress false rest
      | false, .word =>
        match progress.value? arg with
        | some progress => readFrom progress false rest
        | none => readWord progress false arg rest :=
  rfl

theorem readFrom_long {name : String} {value : Option String}
    (form : Form.ofArgument arg = .long name value) :
    readFrom progress false (arg :: rest) =
      progress.long name value >>= fun progress => readFrom progress false rest := by
  rw [readFrom_cons, form]

theorem readFrom_short {letters : List Char} (form : Form.ofArgument arg = .short letters) :
    readFrom progress false (arg :: rest) =
      progress.short letters >>= fun progress => readFrom progress false rest := by
  rw [readFrom_cons, form]

theorem readFrom_value {given : Given} {setting : Setting} (form : Form.ofArgument arg = .word) :
    readFrom ⟨given, some ⟨setting, none⟩⟩ false (arg :: rest) =
      readFrom ⟨given, some ⟨setting, some arg⟩⟩ false rest := by
  rw [readFrom_cons, form]
  rfl

theorem readFrom_word {given : Given} (form : Form.ofArgument arg = .word) :
    readFrom ⟨given, none⟩ false (arg :: rest) = readWord ⟨given, none⟩ false arg rest := by
  rw [readFrom_cons, form]
  rfl

/-- Behind `--` there is no subcommand any more. -/
theorem readFrom_literal : (readFrom progress true rest).toOption = none := by
  cases rest with
  | nil =>
    rw [readFrom_nil, toOption_bind]
    cases progress.settle <;> rfl
  | cons arg rest =>
    rw [readFrom_cons]
    show (readWord progress true arg rest).toOption = none
    rw [readWord, if_pos rfl]
    split <;> rfl

theorem readFrom_separator (form : Form.ofArgument arg = .separator) :
    (readFrom progress false (arg :: rest)).toOption = none := by
  rw [readFrom_cons, form]
  exact readFrom_literal progress rest

end Steps

theorem readWord_eq (progress : Progress) (word : String) (rest : List String) :
    readWord progress false word rest =
      if word = helpName then .error (readHelp rest)
      else
        match Subcommand.ofName? word with
        | none => .error (.unknownSubcommand word)
        | some subcommand =>
          subcommand.read false none rest >>= fun command =>
            progress.settle >>= fun given => pure (given.complete command) :=
  rfl

/-- A word is a subcommand; what is pending is checked behind it. -/
theorem readWord_settle (progress : Progress) (word : String) (rest : List String) :
    (readWord progress false word rest).toOption =
      progress.settle.toOption.bind fun given =>
        (readWord ⟨given, none⟩ false word rest).toOption := by
  simp only [readWord_eq]
  by_cases help : word = helpName
  · simp [help, Except.toOption]
  · simp only [help, if_false]
    cases Subcommand.ofName? word with
    | none => simp [Except.toOption]
    | some subcommand =>
      simp only [toOption_bind]
      cases (subcommand.read false none rest).toOption with
      | none => simp
      | some command => rfl

/-- What is pending can be checked at once, unless its value is still to come. -/
theorem readFrom_pending (given : Given) (setting : Setting) (value : String)
    (args : List String) :
    (readFrom ⟨given, some ⟨setting, some value⟩⟩ false args).toOption =
      (given.give setting value).toOption.bind fun given =>
        (readFrom ⟨given, none⟩ false args).toOption := by
  cases args with
  | nil =>
    rw [readFrom_nil, toOption_bind]
    rfl
  | cons arg rest =>
    cases form : Form.ofArgument arg with
    | separator => simp [readFrom_separator _ rest form]
    | long name value =>
      simp only [readFrom_long _ rest form, toOption_bind, Progress.long_settle ⟨given, _⟩,
        Option.bind_assoc]
      rfl
    | short letters =>
      obtain ⟨c, letters, rfl⟩ := List.exists_cons_of_ne_nil (Form.eq_of_ofArgument_short form).1
      simp only [readFrom_short _ rest form, toOption_bind, Progress.short_settle ⟨given, _⟩,
        Option.bind_assoc]
      rfl
    | word =>
      simp only [readFrom_word rest form]
      rw [readFrom_cons, form]
      exact readWord_settle _ _ _

theorem readFrom_attach (given : Given) (setting : Setting) (value : String)
    (rest : List String) :
    (Progress.attach ⟨given, none⟩ setting value >>= fun progress =>
        readFrom progress false rest).toOption =
      (given.give setting value).toOption.bind fun given =>
        (readFrom ⟨given, none⟩ false rest).toOption := by
  have attached : Progress.attach ⟨given, none⟩ setting value =
      given.give setting value >>= fun given => pure ⟨given, none⟩ := rfl
  rw [attached, bind_assoc, toOption_bind]
  rfl

theorem readFrom_await {value : String} (word : Form.ofArgument value = .word) (given : Given)
    (setting : Setting) (rest : List String) :
    (Progress.await ⟨given, none⟩ setting >>= fun progress =>
        readFrom progress false (value :: rest)).toOption =
      (given.give setting value).toOption.bind fun given =>
        (readFrom ⟨given, none⟩ false rest).toOption := by
  have awaited : Progress.await ⟨given, none⟩ setting = pure ⟨given, some ⟨setting, none⟩⟩ := rfl
  rw [awaited, pure_bind, readFrom_value rest word]
  exact readFrom_pending given setting value rest

/-- An option that is read is given, however it is written. -/
theorem readFrom_option {setting : Setting} {value : String} {text : List String}
    (option : OptionText setting value text) (given : Given) (rest : List String) :
    (readFrom ⟨given, none⟩ false (text ++ rest)).toOption =
      (given.give setting value).toOption.bind fun given =>
        (readFrom ⟨given, none⟩ false rest).toOption := by
  cases option with
  | long =>
    have form := Form.ofArgument_equals setting.long_plain value
    rw [List.singleton_append, readFrom_long _ rest form, Progress.long_attach]
    exact readFrom_attach given setting value rest
  | longApart word =>
    have form := Form.ofArgument_alone setting.long_plain setting.long_ne_empty
    rw [List.cons_append, readFrom_long _ _ form, Progress.long_await]
    exact readFrom_await word given setting rest
  | @short letter has nonempty bare =>
    have form : Form.ofArgument ("-" ++ String.singleton letter ++ value) =
        .short (letter :: value.toList) :=
      Form.ofArgument_of_dash (by simp) (Setting.short?_ne_dash has)
    rw [List.singleton_append, readFrom_short _ rest form, Progress.short_attach has nonempty bare]
    exact readFrom_attach given setting value rest
  | @shortEquals letter has =>
    have form : Form.ofArgument ("-" ++ String.singleton letter ++ "=" ++ value) =
        .short (letter :: '=' :: value.toList) :=
      Form.ofArgument_of_dash (by simp) (Setting.short?_ne_dash has)
    rw [List.singleton_append, readFrom_short _ rest form, Progress.short_attach_equals has]
    exact readFrom_attach given setting value rest
  | @shortApart letter has word =>
    have form : Form.ofArgument ("-" ++ String.singleton letter) = .short [letter] :=
      Form.ofArgument_of_dash (by simp) (Setting.short?_ne_dash has)
    rw [List.cons_append, readFrom_short _ _ form, Progress.short_await has]
    exact readFrom_await word given setting rest

/-- Options that are read are given one by one, whatever follows them. -/
theorem readFrom_options {values : List (Setting × String)} {text : List String}
    (options : OptionsText values text) (given : Given) (rest : List String) :
    (readFrom ⟨given, none⟩ false (text ++ rest)).toOption =
      (given.giveAll values).toOption.bind fun given =>
        (readFrom ⟨given, none⟩ false rest).toOption := by
  induction options generalizing given with
  | nil => rfl
  | @cons setting value values text more option _ ih =>
    rw [List.append_assoc, readFrom_option option, Given.giveAll_cons, toOption_bind,
      Option.bind_assoc]
    exact congrArg _ (funext ih)

/-- What can still be read when the option is given already does not set it. -/
theorem not_sets_of_readFrom {given : Given} {setting : Setting} {args : List String}
    {parsed : Arguments} (already : given.has setting = true)
    (h : readFrom ⟨given, none⟩ false args = .ok parsed) : ¬ Sets setting args := by
  rintro ⟨values, options, rest, rfl, text, mem⟩
  rw [← toOption_eq_some_iff, readFrom_options text, given.giveAll_of_has already mem] at h
  contradiction

/-! ## Whole lines -/

theorem Subcommand.ofName?_eq_some_iff {word : String} {subcommand : Subcommand} :
    ofName? word = some subcommand ↔ word = subcommand.name := by
  constructor
  · intro h
    rw [ofName?] at h
    have same := List.find?_some h
    exact (eq_of_beq same).symm
  · rintro rfl
    cases subcommand <;> rfl

/-- A word that can be read is a subcommand. -/
theorem exists_subcommand_of_readWord {progress : Progress} {word : String} {rest : List String}
    {parsed : Arguments} (h : readWord progress false word rest = .ok parsed) :
    ∃ subcommand : Subcommand, word = subcommand.name := by
  rw [readWord_eq] at h
  split at h
  · contradiction
  · cases found : Subcommand.ofName? word with
    | none =>
      rw [found] at h
      contradiction
    | some subcommand => exact ⟨subcommand, Subcommand.ofName?_eq_some_iff.mp found⟩

theorem readFrom_subcommand (given : Given) (subcommand : Subcommand) (operands : List String) :
    (readFrom ⟨given, none⟩ false (subcommand.name :: operands)).toOption =
      (subcommand.read false none operands).toOption.map given.complete := by
  have form : Form.ofArgument subcommand.name = .word := by cases subcommand <;> decide
  have named : subcommand.name ≠ helpName := by cases subcommand <;> decide
  rw [readFrom_word operands form, readWord_eq, if_neg named,
    Subcommand.ofName?_eq_some_iff.mpr rfl, toOption_bind]
  cases (subcommand.read false none operands).toOption <;> rfl

/-- A command line with its options in front is read by giving them all, and reading what belongs to
the subcommand. -/
theorem read_options {values : List (Setting × String)} {options : List String}
    (text : OptionsText values options) (subcommand : Subcommand) (operands : List String) :
    (read (options ++ subcommand.name :: operands)).toOption =
      (Given.nothing.giveAll values).toOption.bind fun given =>
        (subcommand.read false none operands).toOption.map given.complete := by
  rw [read]
  exact (readFrom_options text _ _).trans
    (congrArg _ (funext fun given => readFrom_subcommand given subcommand operands))

/-- Behind an option whose value is to come there is a value. -/
theorem exists_value_of_readFrom {given : Given} {setting : Setting} {args : List String}
    {parsed : Arguments} (h : readFrom ⟨given, some ⟨setting, none⟩⟩ false args = .ok parsed) :
    ∃ value rest, args = value :: rest ∧ Form.ofArgument value = .word := by
  cases args with
  | nil => contradiction
  | cons arg rest =>
    rw [← toOption_eq_some_iff] at h
    cases form : Form.ofArgument arg with
    | separator =>
      rw [readFrom_separator _ rest form] at h
      contradiction
    | long name value =>
      rw [readFrom_long _ rest form, toOption_bind, Progress.long_settle] at h
      contradiction
    | short letters =>
      obtain ⟨c, letters, rfl⟩ := List.exists_cons_of_ne_nil (Form.eq_of_ofArgument_short form).1
      rw [readFrom_short _ rest form, toOption_bind, Progress.short_settle] at h
      contradiction
    | word => exact ⟨arg, rest, rfl, form⟩

/-- A command line that is read begins with a subcommand or with an option. -/
theorem exists_option_of_readFrom {given : Given} {args : List String} {parsed : Arguments}
    (h : readFrom ⟨given, none⟩ false args = .ok parsed) :
    (∃ subcommand : Subcommand, ∃ operands, args = subcommand.name :: operands) ∨
      ∃ setting value text rest, args = text ++ rest ∧ OptionText setting value text := by
  cases args with
  | nil => contradiction
  | cons arg rest =>
    cases form : Form.ofArgument arg with
    | separator =>
      rw [← toOption_eq_some_iff, readFrom_separator _ rest form] at h
      contradiction
    | long name value =>
      rw [readFrom_long _ rest form] at h
      obtain ⟨progress, met, h⟩ := bind_ok h
      obtain ⟨setting, rfl⟩ := Progress.exists_setting_of_long met
      obtain ⟨value, rfl, rfl⟩ | ⟨rfl, rfl⟩ := Form.eq_of_ofArgument_long form
      · exact .inr ⟨setting, value, _, rest, rfl, .long⟩
      · rw [Progress.long_await] at met
        cases met
        obtain ⟨value, rest, rfl, word⟩ := exists_value_of_readFrom h
        exact .inr ⟨setting, value, _, rest, rfl, .longApart word⟩
    | short letters =>
      rw [readFrom_short _ rest form] at h
      obtain ⟨progress, met, h⟩ := bind_ok h
      obtain ⟨more, rfl⟩ := Form.eq_of_ofArgument_short form
      obtain ⟨c, letters, rfl⟩ := List.exists_cons_of_ne_nil more
      obtain ⟨setting, has⟩ := Progress.exists_setting_of_short met
      cases letters with
      | nil =>
        rw [Progress.short_await has] at met
        cases met
        obtain ⟨value, rest, rfl, word⟩ := exists_value_of_readFrom h
        exact .inr ⟨setting, value, _, rest, rfl, .shortApart has word⟩
      | cons d letters =>
        obtain ⟨value, option, -⟩ := Progress.exists_value_of_letters has d letters
        exact .inr ⟨setting, value, _, rest, rfl, option⟩
    | word =>
      rw [readFrom_word rest form] at h
      obtain ⟨subcommand, rfl⟩ := exists_subcommand_of_readWord h
      exact .inl ⟨subcommand, rest, rfl⟩

/-- A command line that is read is some options, a subcommand, and what belongs to it. -/
theorem exists_options_of_readFrom {given : Given} {args : List String} {parsed : Arguments}
    (h : readFrom ⟨given, none⟩ false args = .ok parsed) :
    ∃ values options, ∃ subcommand : Subcommand, ∃ operands,
      args = options ++ subcommand.name :: operands ∧ OptionsText values options := by
  induction size : args.length using Nat.strongRecOn generalizing given args with | ind n ih
  obtain ⟨subcommand, operands, rfl⟩ | ⟨setting, value, text, rest, rfl, option⟩ :=
    exists_option_of_readFrom h
  · exact ⟨[], [], subcommand, operands, rfl, .nil⟩
  · rw [← toOption_eq_some_iff, readFrom_option option] at h
    obtain ⟨given', -, h⟩ := Option.bind_eq_some_iff.mp h
    have positive := List.length_pos_iff.mpr option.ne_nil
    have shorter : rest.length < n := by
      rw [List.length_append] at size
      omega
    obtain ⟨values, options, subcommand, operands, rfl, behind⟩ :=
      ih rest.length shorter (toOption_eq_some_iff.mp h) rfl
    exact ⟨(setting, value) :: values, text ++ options, subcommand, operands,
      (List.append_assoc ..).symm, .cons option behind⟩

/-- A command line that is read is some options, a subcommand, and what belongs to it, and it says
what these say. -/
theorem read_ok_iff {args : List String} {parsed : Arguments} :
    read args = .ok parsed ↔
      ∃ values options, ∃ subcommand : Subcommand, ∃ operands given command,
        args = options ++ subcommand.name :: operands ∧ OptionsText values options ∧
        Given.nothing.giveAll values = .ok given ∧
        subcommand.read false none operands = .ok command ∧ parsed = given.complete command := by
  constructor
  · intro h
    obtain ⟨values, options, subcommand, operands, rfl, text⟩ := exists_options_of_readFrom h
    rw [← toOption_eq_some_iff, read_options text] at h
    obtain ⟨given, gave, h⟩ := Option.bind_eq_some_iff.mp h
    obtain ⟨command, said, rfl⟩ := Option.map_eq_some_iff.mp h
    exact ⟨values, options, subcommand, operands, given, command, rfl, text,
      toOption_eq_some_iff.mp gave, toOption_eq_some_iff.mp said, rfl⟩
  · rintro ⟨values, options, subcommand, operands, given, command, rfl, text, gave, said, rfl⟩
    rw [← toOption_eq_some_iff, read_options text, gave, said]
    rfl

/-- An option that a command line does not set can be put in front of its subcommand, between any
two of its options. It is as if it were given last. -/
theorem read_insert {values : List (Setting × String)} {options rest : List String}
    {setting : Setting} {parsed : Arguments} (front : OptionsText values options)
    (h : read (options ++ rest) = .ok parsed) (unset : ¬ Sets setting (options ++ rest)) :
    ∃ (given : Given) (command : Command),
      parsed = given.complete command ∧ given.has setting = false ∧
      ∀ value text, OptionText setting value text →
        (read (options ++ text ++ rest)).toOption =
          (given.give setting value).toOption.map (·.complete command) := by
  have behind := h
  rw [← toOption_eq_some_iff, read, Progress.start, readFrom_options front] at behind
  obtain ⟨given₀, -, behind⟩ := Option.bind_eq_some_iff.mp behind
  obtain ⟨values', options', subcommand, operands, rfl, back⟩ :=
    exists_options_of_readFrom (toOption_eq_some_iff.mp behind)
  rw [← List.append_assoc, ← toOption_eq_some_iff, read_options (front.append back)] at h
  obtain ⟨given, gave, h⟩ := Option.bind_eq_some_iff.mp h
  obtain ⟨command, said, rfl⟩ := Option.map_eq_some_iff.mp h
  have fresh : setting ∉ (values ++ values').map Prod.fst := fun mem =>
    unset ⟨_, _, _, (List.append_assoc ..).symm, front.append back, mem⟩
  have absent : given.has setting = Given.nothing.has setting :=
    Given.has_of_giveAll fresh (toOption_eq_some_iff.mp gave)
  have never : Given.nothing.has setting = false := by cases setting <;> rfl
  refine ⟨given, command, rfl, absent.trans never, ?_⟩
  intro value text option
  have whole := front.append (.cons option back)
  have again : options ++ text ++ (options' ++ subcommand.name :: operands) =
      options ++ (text ++ options') ++ subcommand.name :: operands := by
    simp
  have last : (Given.nothing.giveAll (values ++ (setting, value) :: values')).toOption =
      (given.give setting value).toOption := by
    rw [List.map_append, List.mem_append, not_or] at fresh
    rw [Given.giveAll_insert fresh.2, toOption_bind, gave]
    rfl
  rw [again, read_options whole, last, said]
  cases (given.give setting value).toOption <;> rfl

end StreamRemote.CommandLine
