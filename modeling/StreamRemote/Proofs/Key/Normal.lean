import StreamRemote.Command
import StreamRemote.Proofs.Call
import StreamRemote.Proofs.Key

/-!
# Pressing keys by any of their codes

A user may give any code of a key, and what goes out is the one that is written for the key. Codes
of the same key are therefore the same command, and codes of different keys are different ones. A
text that is the code of no key goes out as it is, and is not taken for a key: it is not the code
that is written for any of them.

* `Key.IsNormalForm` says what it takes to write each text that is a code in one form.
* `Command.PressesAs` says what becomes of a command that goes out with a text as the code of a key.

Results:
1. `Key.normalize_isNormalForm`: the texts that go out for codes.
2. `Key.normalize_inj`: which codes go out as the same text.
3. `Command.exists_normal_form`: what is asked of a device, and told the user, for each text.
-/

namespace StreamRemote

namespace Key

/-- The texts that are put in the place of others:

* `known`, `unknown`: for the code of a key the code that is written for it, and for other texts the
  text itself;
* `again`: nothing else is put in the place of a text that has been put there;
* `same`: it is the code of the same key, or of none like the text itself. -/
structure IsNormalForm (normal : String → String) : Prop where
  known : ∀ text key, parse text = .ok key → normal text = key.code
  unknown : ∀ text cause, parse text = .error cause → normal text = text
  again : ∀ text, normal (normal text) = normal text
  same : ∀ text key, parse (normal text) = .ok key ↔ parse text = .ok key

variable {text other : String} {key key' : Key}

theorem parse_code (key : Key) : parse key.code = .ok key :=
  parse_ok_iff.mpr (spelled_code key)

theorem normalize_of_parse (h : parse text = .ok key) : normalize text = key.code := by
  unfold normalize
  rw [ofCode?_eq_some_iff.mpr (parse_ok_iff.mp h)]
  rfl

theorem normalize_of_unknown {cause : UnknownKey} (h : parse text = .error cause) :
    normalize text = text := by
  unfold normalize
  cases found : ofCode? text with
  | none => rfl
  | some key =>
    rw [parse_ok_iff.mpr (ofCode?_eq_some_iff.mp found)] at h
    contradiction

/-- What goes out for a text is read as the text is. -/
theorem parse_normalize_ok_iff : parse (normalize text) = .ok key ↔ parse text = .ok key := by
  cases read : parse text with
  | ok key => rw [normalize_of_parse read, parse_code]
  | error cause => rw [normalize_of_unknown read, read]

theorem normalize_isNormalForm : IsNormalForm normalize where
  known _ _ := normalize_of_parse
  unknown _ _ := normalize_of_unknown
  again text := by
    cases read : parse text with
    | ok key => rw [normalize_of_parse read, normalize_of_parse (parse_code key)]
    | error cause => rw [normalize_of_unknown read, normalize_of_unknown read]
  same _ _ := parse_normalize_ok_iff

/-- Codes go out as the same text only if they are codes of the same key. -/
theorem normalize_inj (h : parse text = .ok key) (h' : parse other = .ok key') :
    normalize text = normalize other ↔ key = key' := by
  rw [normalize_of_parse h, normalize_of_parse h']
  constructor
  · exact code_injective
  · exact congrArg code

theorem normalize_ne_of_unknown {cause : UnknownKey} (h : parse text = .ok key)
    (h' : parse other = .error cause) : normalize text ≠ normalize other := by
  intro same
  have read := parse_normalize_ok_iff.mpr h
  rw [same, normalize_of_unknown h', h'] at read
  contradiction

end Key

namespace Command

/-- The command posts one request to a device, where a key is pressed that has the text as its code.
If this is answered, there is nothing to tell, and if not, the report of the failure begins with the
text. -/
structure PressesAs (device : Device) (text : String) (respond : List Request → Answer)
    (result : Except Report String) (asked : List Request) : Prop where
  posted : asked = [⟨.post,
    "http://" ++ device.host ++ ":" ++ toString device.port.toNat ++ "/keypress/" ++ text⟩]
  pressed : ∀ body, respond asked = .ok body → result = .ok ""
  failed : ∀ cause, respond asked = .error cause →
    ∃ causes, result = .error ⟨"Failed to press " ++ text, causes⟩

/-- What a command asks of a device. -/
def requests (respond : List Request → Answer) (device : Device) (command : Command) :
    List Request :=
  ((command.run (.responding respond) device).run []).2

variable {device : Device} {respond respond' : List Request → Answer}

theorem keypressUrl_eq (device : Device) (code : String) :
    device.keypressUrl code =
      "http://" ++ device.host ++ ":" ++ toString device.port.toNat ++ "/keypress/" ++ code := by
  have asks := Call.asks_request device (.pressKey code)
  generalize whole : (Call.pressKey code).request device = request at asks
  cases asks
  exact congrArg Request.url whole

theorem run_key (device : Device) (respond : List Request → Answer) (text : String) :
    ((key text).run (.responding respond) device).run [] =
      let asked := [⟨.post, device.keypressUrl (Key.normalize text)⟩]
      ((key text).conclude ((key text).call.conclude device (respond asked)), asked) := rfl

/-- Pressing a key posts what goes out for the text, and a failure is reported with it. -/
theorem pressesAs_key (device : Device) (respond : List Request → Answer) (text : String) :
    ∃ result asked, ((key text).run (.responding respond) device).run [] = (result, asked) ∧
      PressesAs device (Key.normalize text) respond result asked := by
  refine ⟨_, _, run_key device respond text, ?_, fun body answered => ?_, fun cause failed => ?_⟩
  · rw [keypressUrl_eq]
  · rw [answered]
    rfl
  · rw [failed]
    exact ⟨_, rfl⟩

/-- Two texts are posted in the same way if and only if the same goes out for them. -/
theorem requests_key_eq_iff {text other : String} :
    requests respond device (key text) = requests respond' device (key other) ↔
      Key.normalize text = Key.normalize other := by
  unfold requests
  rw [run_key, run_key]
  simp [Device.keypressUrl]

/-- Each text that a user gives for a key has one form in which it goes out. It is the code that is
written for the key, or the text itself if that is the code of no key. This form is what is posted
and what the report of a failure names, whatever is answered. Two codes are posted in the same way
if and only if they are codes of the same key, and no code of a key is posted like a text that is
none. -/
theorem exists_normal_form :
    ∃ normal : String → String, Key.IsNormalForm normal ∧
      (∀ device respond text, ∃ result asked,
        ((key text).run (.responding respond) device).run [] = (result, asked) ∧
          PressesAs device (normal text) respond result asked) ∧
      ∀ device respond respond' text other k, Key.parse text = .ok k →
        (∀ k', Key.parse other = .ok k' →
          (requests respond device (key text) = requests respond' device (key other) ↔ k = k')) ∧
        ∀ cause, Key.parse other = .error cause →
          requests respond device (key text) ≠ requests respond' device (key other) := by
  refine ⟨Key.normalize, Key.normalize_isNormalForm, pressesAs_key, ?_⟩
  intro device respond respond' text other k read
  refine ⟨fun k' read' => ?_, fun cause read' same => ?_⟩
  · rw [requests_key_eq_iff]
    exact Key.normalize_inj read read'
  · exact Key.normalize_ne_of_unknown read read' (requests_key_eq_iff.mp same)

/-- A code of a key that is written out in full, and a text that is nearly the code of one. -/
example : requests (fun _ => .ok "") ⟨"tv", 8060⟩ (key "Lit_a") =
      requests (fun _ => .ok "") ⟨"tv", 8060⟩ (key "Lit_%61") ∧
    requests (fun _ => .ok "") ⟨"tv", 8060⟩ (key "Lit_%6") =
      [⟨.post, "http://tv:8060/keypress/Lit_%6"⟩] := by
  decide +kernel

end Command

end StreamRemote
