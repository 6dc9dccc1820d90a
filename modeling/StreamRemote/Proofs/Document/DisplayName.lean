import StreamRemote.Command
import StreamRemote.Proofs.Document.DeviceInfoFields

/-!
# The name that is shown for a device

A device may tell up to five names, and the best of them is shown. Which one this is gets decided by
which elements there are, and not by what is in them: an element without text counts as a name. A
device that sends such an element before its other names is therefore shown without any name, and
the first line about it starts with a blank.

* `FirstOf` says which member of a list is the first with a property.
* `DeviceInfo.Field.GivenIn` and `DeviceInfo.Field.NamedIn` tell a field with an element from one
  with a text in its element.
* `DeviceInfo.NamedBy` says which name a root gives a device.

Results:
1. `DeviceInfo.exists_firstOf_of_findSome?`: a search through fields finds the first that is given.
2. `DeviceInfo.displayName_of_parse`: the name of each device info that is read, and the line that
   it is shown in.
-/

namespace StreamRemote

open Xml

/-! ## The first with a property -/

/-- The element is the first of the list that has the property. -/
inductive FirstOf {α : Type} (P : α → Prop) : List α → α → Prop
  | here {a : α} {l : List α} : P a → FirstOf P (a :: l) a
  | later {a b : α} {l : List α} : ¬ P a → FirstOf P l b → FirstOf P (a :: l) b

namespace FirstOf

variable {α : Type} {P Q : α → Prop} {l : List α} {a b : α}

/-- There is only one that is the first. -/
theorem unique (first : FirstOf P l a) (other : FirstOf P l b) : a = b := by
  induction first with
  | here yes =>
    cases other with
    | here => rfl
    | later no => exact absurd yes no
  | later no _ ih =>
    cases other with
    | here yes => exact absurd yes no
    | later _ other => exact ih other

/-- The first that has a property is also the first that has one that implies it, if it has this
one too. -/
theorem of_imp (first : FirstOf P l a) (imp : ∀ b, Q b → P b) (holds : Q a) : FirstOf Q l a := by
  induction first with
  | here => exact .here holds
  | later no _ ih => exact .later (fun yes => no (imp _ yes)) (ih holds)

end FirstOf

namespace DeviceInfo

/-! ## Names in a root -/

/-- The fields that a device may be named by, the best first. -/
def Field.names : List Field :=
  [.userDeviceName, .friendlyDeviceName, .defaultDeviceName, .modelName, .serialNumber]

/-- The field has an element in the root. -/
def Field.GivenIn (root : Root) (f : Field) : Prop :=
  root.named f.key ≠ []

/-- The text in the only element that a field has in a root. -/
def Field.text? (root : Root) (f : Field) : Option (List Char) :=
  match root.named f.key with
  | [e] => e.inner.leafText.toOption
  | _ => none

/-- The field has an element in the root that is not without text. -/
def Field.NamedIn (root : Root) (f : Field) : Prop :=
  ∃ t ∈ f.text? root, t ≠ []

instance (root : Root) : DecidablePred (Field.NamedIn root) := fun f =>
  inferInstanceAs (Decidable (∃ t ∈ f.text? root, t ≠ []))

/-- The name that a root gives a device:

* `given`: it is the text of the first field that has an element;
* `best`: unless it is empty, it is also the text of the first field that has one;
* `empty`: it is empty if and only if there is no text in the first element. -/
structure NamedBy (root : Root) (name : String) : Prop where
  given : ∃ f t, FirstOf (Field.GivenIn root) Field.names f ∧ f.text? root = some t ∧
    name = String.ofList t
  best : ∀ f t, FirstOf (Field.NamedIn root) Field.names f → f.text? root = some t → name ≠ "" →
    name = String.ofList t
  empty : name = "" ↔
    ∃ f, FirstOf (Field.GivenIn root) Field.names f ∧ f.text? root = some []

theorem Field.NamedIn.givenIn {root : Root} {f : Field} (named : f.NamedIn root) :
    f.GivenIn root := by
  obtain ⟨t, text, -⟩ := named
  intro none
  rw [Option.mem_def, Field.text?, none] at text
  contradiction

/-- A name that is the text of the first field that is given is the name that the root gives. -/
theorem namedBy_of_firstOf {root : Root} {f : Field} {t : List Char}
    (first : FirstOf (Field.GivenIn root) Field.names f) (text : f.text? root = some t) :
    NamedBy root (String.ofList t) := by
  refine ⟨⟨f, t, first, text, rfl⟩, fun g u named found solid => ?_, fun none => ?_, ?_⟩
  · have filled : t ≠ [] := by
      rintro rfl
      exact solid rfl
    -- the first field that is given has a text, so that it is the first of those that have one
    have best := first.of_imp (fun _ => Field.NamedIn.givenIn) ⟨t, text, filled⟩
    rw [best.unique named, found] at text
    rw [Option.some.inj text]
  · rw [String.ofList_eq_empty_iff.mp none] at text
    exact ⟨f, first, text⟩
  · rintro ⟨g, other, none⟩
    rw [first.unique other, none] at text
    rw [← Option.some.inj text]

/-! ## The name of a device info -/

/-- The name that a device info has from a field. -/
def nameOf (info : DeviceInfo) : Field → Option String
  | .userDeviceName => info.userDeviceName
  | .friendlyDeviceName => info.friendlyDeviceName
  | .defaultDeviceName => info.defaultDeviceName
  | .modelName => info.modelName
  | .serialNumber => some info.serialNumber
  | _ => none

/-- The name that is shown is the first that a device info has. -/
theorem findSome?_nameOf (info : DeviceInfo) :
    Field.names.findSome? info.nameOf = some info.displayName := by
  unfold displayName
  simp only [Field.names, List.findSome?_cons, nameOf]
  cases info.userDeviceName <;> cases info.friendlyDeviceName <;>
    cases info.defaultDeviceName <;> cases info.modelName <;> rfl

/-- A value that a field is shown with stands for the text of its only element. -/
theorem Field.ShownIn.text {root : Root} {f : Field} {value : Option f.kind.Value}
    (shown : f.ShownIn root value) :
    (value = none ∧ ¬ f.GivenIn root) ∨
      ∃ t v, f.GivenIn root ∧ f.text? root = some t ∧ value = some v ∧ f.kind.Decodes t v := by
  cases shown with
  | absent _ none => exact .inl ⟨rfl, fun given => given none⟩
  | @given e t v only _ text decodes =>
    refine .inr ⟨t, v, ?_, ?_, rfl, decodes⟩
    · rw [GivenIn, only]
      exact List.cons_ne_nil _ _
    · rw [text?, only]
      exact toOption_eq_some_iff.mpr text

/-- A device info has a name from a field if and only if the field is given, and the name is then
the text of the field. -/
theorem nameOf_of_shownIn {root : Root} {info : DeviceInfo}
    (shown : ∀ f, Field.ShownIn f root (info.value f)) {f : Field} (mem : f ∈ Field.names) :
    (info.nameOf f = none ∧ ¬ f.GivenIn root) ∨
      ∃ t, f.GivenIn root ∧ f.text? root = some t ∧ info.nameOf f = some (String.ofList t) := by
  have held : info.nameOf f = none ∧ ¬ f.GivenIn root ∨
      ∃ t v, f.GivenIn root ∧ f.text? root = some t ∧ info.nameOf f = some v ∧
        v = String.ofList t := by
    simp only [Field.names, List.mem_cons, List.not_mem_nil, or_false] at mem
    rcases mem with rfl | rfl | rfl | rfl | rfl
    · exact (shown .userDeviceName).text
    · exact (shown .friendlyDeviceName).text
    · exact (shown .defaultDeviceName).text
    · exact (shown .modelName).text
    · exact (shown .serialNumber).text
  rcases held with none | ⟨t, _, given, text, same, rfl⟩
  · exact .inl none
  · exact .inr ⟨t, given, text, same⟩

/-- A search through fields for a name finds the text of the first field that is given. -/
theorem exists_firstOf_of_findSome? {root : Root} {read : Field → Option String}
    {fields : List Field} {name : String}
    (reads : ∀ f ∈ fields, (read f = none ∧ ¬ f.GivenIn root) ∨
      ∃ t, f.GivenIn root ∧ f.text? root = some t ∧ read f = some (String.ofList t))
    (found : fields.findSome? read = some name) :
    ∃ f t, FirstOf (Field.GivenIn root) fields f ∧ f.text? root = some t ∧
      name = String.ofList t := by
  induction fields with
  | nil => contradiction
  | cons f fields ih =>
    obtain ⟨reads, rest⟩ := List.forall_mem_cons.mp reads
    rw [List.findSome?_cons] at found
    rcases reads with ⟨none, absent⟩ | ⟨t, given, text, same⟩
    · rw [none] at found
      obtain ⟨g, t, first, text, same⟩ := ih rest found
      exact ⟨g, t, .later absent first, text, same⟩
    · rw [same] at found
      exact ⟨f, t, .here given, text, (Option.some.inj found).symm⟩

/-- The name of a device info that is read is the one that the root of the body gives, and the
first line about the device starts with it. -/
theorem displayName_of_parse {body : String} {info : DeviceInfo}
    (h : Document.parse DeviceInfo body = .ok info) (device : Device) :
    (∃ root, Root.ofDocument? body = some root ∧ NamedBy root info.displayName) ∧
    ∃ lines, ((Command.run (.answering (.ok body)) device .info).run []).1 =
      .ok (joinLines ((info.displayName ++ " (" ++ info.modelNumber ++ ")") :: lines)) := by
  constructor
  · obtain ⟨root, found, -, shown⟩ := exists_root_of_parse h
    obtain ⟨f, t, first, text, same⟩ := exists_firstOf_of_findSome?
      (fun _ => nameOf_of_shownIn shown) (findSome?_nameOf info)
    rw [same]
    exact ⟨root, found, namedBy_of_firstOf first text⟩
  · have run : ((Command.run (.answering (.ok body)) device .info).run []).1 =
        Command.info.conclude ((Call.query .deviceInfo).conclude device (.ok body)) := rfl
    have answer : (Call.query .deviceInfo).conclude device (.ok body) = .ok (.deviceInfo info) := by
      simp only [Call.conclude, Query.readBody, h]
      rfl
    rw [run, answer]
    exact ⟨_, rfl⟩

/-- A device that is given neither of the first two names. -/
theorem displayName_of_parse_default :
    (∃ root,
      Root.ofDocument?
          ("<device-info><udn>7</udn><serial-number>A</serial-number><model-number>B" ++
            "</model-number><model-name/><default-device-name> C&amp;D </default-device-name>" ++
            "</device-info>") = some root ∧
      NamedBy root "C&D") ∧
    ∃ lines, ((Command.run (.answering (.ok
        ("<device-info><udn>7</udn><serial-number>A</serial-number><model-number>B" ++
          "</model-number><model-name/><default-device-name> C&amp;D </default-device-name>" ++
          "</device-info>"))) ⟨"tv", 8060⟩ .info).run []).1 =
      .ok (joinLines ("C&D (B)" :: lines)) := by
  have read : Document.parse DeviceInfo
      ("<device-info><udn>7</udn><serial-number>A</serial-number><model-number>B" ++
        "</model-number><model-name/><default-device-name> C&amp;D </default-device-name>" ++
        "</device-info>") = .ok {
        udn := "7", serialNumber := "A", modelNumber := "B", deviceId := none
        vendorName := none, modelName := some "", modelRegion := none, isTv := none
        isStick := none, friendlyDeviceName := none, friendlyModelName := none
        defaultDeviceName := some "C&D", userDeviceName := none, userDeviceLocation := none
        softwareVersion := none, softwareBuild := none, networkType := none
        networkName := none, wifiMac := none, ethernetMac := none, powerMode := none
        supportsSuspend := none, uptime := none } := by
    decide +kernel
  exact displayName_of_parse read ⟨"tv", 8060⟩

/-- The first text is that of the serial number here, but the empty element for the name chosen by
the owner comes before it, and leaves the device without a name. -/
theorem displayName_empty_of_emptyElement :
    ∃ root,
      Root.ofDocument?
          ("<device-info><udn>u</udn><serial-number>s</serial-number>" ++
            "<model-number>m</model-number><user-device-name/></device-info>") = some root ∧
      FirstOf (Field.NamedIn root) Field.names .serialNumber ∧
      Field.text? root .serialNumber = some ['s'] ∧
      (Document.parse DeviceInfo
          ("<device-info><udn>u</udn><serial-number>s</serial-number>" ++
            "<model-number>m</model-number><user-device-name/></device-info>")).map displayName =
        .ok "" :=
  ⟨⟨⟨"device-info".toList, []⟩,
      [⟨⟨"udn".toList, []⟩, "<udn>u</udn>".toList⟩,
        ⟨⟨"serial-number".toList, []⟩, "<serial-number>s</serial-number>".toList⟩,
        ⟨⟨"model-number".toList, []⟩, "<model-number>m</model-number>".toList⟩,
        ⟨⟨"user-device-name".toList, []⟩, "<user-device-name/>".toList⟩]⟩,
    by decide +kernel,
    .later (by decide +kernel) <| .later (by decide +kernel) <| .later (by decide +kernel) <|
      .later (by decide +kernel) <| .here (by decide +kernel),
    by decide +kernel, by decide +kernel⟩

end DeviceInfo

end StreamRemote
