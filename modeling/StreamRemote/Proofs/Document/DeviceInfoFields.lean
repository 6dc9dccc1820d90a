import StreamRemote.Document.DeviceInfo
import StreamRemote.Proofs.Document.Root
import StreamRemote.Proofs.Text.Numeral

/-!
# The fields of a device info

A device info is never made up: each of its fields is read from the one element of its name right
inside the root, and a field without such an element has no value. The fields that a device info
cannot be without are therefore written in each body that is read.

Results:
1. `Kind.decodes_of_read`: a value that is read is the one that the text stands for.
2. `DeviceInfo.ofDraft_ok`: a device info has the values that were read, and no others.
3. `DeviceInfo.fields_of_parse`: where the fields of a device info come from, and the bodies that
   are no device info.
-/

namespace StreamRemote

open Xml

/-! ## Values -/

/-- The text stands for the value. -/
def Xml.Kind.Decodes : (kind : Kind) → List Char → kind.Value → Prop
  | .text, t, value => value = String.ofList t
  | .flag, t, value => String.ofList t ∈ bif value then Source.trueWords else Source.falseWords
  | .count, t, value => ∃ digits, (t = digits ∨ t = '+' :: digits) ∧
      Text.numeral? 10 Text.digit? digits = some (UInt64.toNat value)

theorem Xml.Source.readBoolean_ok {word : String} {b : Bool}
    (h : Source.readBoolean word = .ok b) :
    word ∈ bif b then Source.trueWords else Source.falseWords := by
  unfold readBoolean at h
  split at h
  · next yes =>
    cases h
    exact yes
  · split at h
    · next no =>
      cases h
      exact no
    · contradiction

/-- A value is read from the text of its element, and is the one that the text stands for. -/
theorem Xml.Kind.decodes_of_read {kind : Kind} {tag : Tag} {inner : Content} {value : kind.Value}
    (h : kind.read (.element tag inner) = .ok value) :
    ∃ t, inner.leafText = .ok t ∧ kind.Decodes t value := by
  cases kind with
  | text =>
    obtain ⟨t, found, same⟩ := map_ok h
    exact ⟨t, found, same.symm⟩
  | flag =>
    obtain ⟨word, found, h⟩ := bind_ok h
    obtain ⟨t, text, rfl⟩ := map_ok (x := inner.leafText) found
    exact ⟨t, text, Source.readBoolean_ok h⟩
  | count =>
    obtain ⟨word, found, h⟩ := bind_ok h
    obtain ⟨t, text, rfl⟩ := map_ok (x := inner.leafText) found
    have written := Text.readWord64_ok (mapError_ok_iff.mp h)
    rw [String.toList_ofList] at written
    exact ⟨t, text, written⟩

namespace DeviceInfo

/-- The value that a device info has for a field. -/
def value (info : DeviceInfo) : schema.Draft
  | .udn => some info.udn
  | .serialNumber => some info.serialNumber
  | .modelNumber => some info.modelNumber
  | .deviceId => info.deviceId
  | .vendorName => info.vendorName
  | .modelName => info.modelName
  | .modelRegion => info.modelRegion
  | .isTv => info.isTv
  | .isStick => info.isStick
  | .friendlyDeviceName => info.friendlyDeviceName
  | .friendlyModelName => info.friendlyModelName
  | .defaultDeviceName => info.defaultDeviceName
  | .userDeviceName => info.userDeviceName
  | .userDeviceLocation => info.userDeviceLocation
  | .softwareVersion => info.softwareVersion
  | .softwareBuild => info.softwareBuild
  | .networkType => info.networkType
  | .networkName => info.networkName
  | .wifiMac => info.wifiMac
  | .ethernetMac => info.ethernetMac
  | .powerMode => info.powerMode
  | .supportsSuspend => info.supportsSuspend
  | .uptime => info.uptime

/-- The fields that a device info cannot be without. -/
def Field.required : Field → Bool
  | udn | serialNumber | modelNumber => true
  | _ => false

theorem value_of_required (info : DeviceInfo) {f : Field} (h : f.required = true) :
    info.value f ≠ none := by
  cases f <;> first | contradiction | exact Option.some_ne_none _

/-- The values of a device info make up the device info. -/
theorem ofDraft_value (info : DeviceInfo) : ofDraft info.value = .ok info := rfl

/-- A device info has the values of the draft that it is made from. -/
theorem ofDraft_ok {draft : schema.Draft} {info : DeviceInfo} (h : ofDraft draft = .ok info) :
    info.value = draft := by
  obtain ⟨udn, hudn, h⟩ := bind_ok h
  obtain ⟨serialNumber, hserial, h⟩ := bind_ok h
  obtain ⟨modelNumber, hmodel, h⟩ := bind_ok h
  cases h
  funext f
  cases f with
  | udn => exact (Schema.Draft.need_ok hudn).symm
  | serialNumber => exact (Schema.Draft.need_ok hserial).symm
  | modelNumber => exact (Schema.Draft.need_ok hmodel).symm
  | _ => rfl

/-! ## Names -/

theorem schema_lawful : schema.Lawful where
  mem := Field.mem_all
  once := List.Nodup.map (fun _ _ => Field.key_injective) (by decide)
  declaration := by decide +kernel

/-- An element has the name of a field if and only if it is for this field. -/
theorem field?_eq_some_iff {key : List Char} {f : Field} :
    schema.field? key = some f ↔ key = f.key.toList :=
  schema_lawful.field?_eq_some_iff

/-- No field has the name of an attribute, or of a declaration. -/
theorem field?_attribute (a : Attribute) : schema.field? a.key = none := by
  have head : ∀ f : Field, f.key.toList.head? ≠ some '@' ∧ f.key.toList.head? ≠ some 'x' := by
    intro f
    cases f <;> decide
  have first : a.key.head? = some '@' ∨ a.key.head? = some 'x' := by
    unfold Attribute.key
    split
    · next declaration =>
      refine .inr ?_
      rcases declaration with same | declared
      · rw [same]
        rfl
      · obtain ⟨rest, same⟩ := List.isPrefixOf_iff_prefix.mp declared
        rw [← same]
        rfl
    · exact .inl rfl
  cases found : schema.field? a.key with
  | none => rfl
  | some f =>
    rw [field?_eq_some_iff.mp found] at first
    rcases first with at_sign | letter
    · exact absurd at_sign (head f).1
    · exact absurd letter (head f).2

/-! ## Fields -/

/-- A field has the value that its only element in the root stands for, and no value if there is
no such element and the field may be missing. -/
inductive Field.ShownIn (f : Field) (root : Root) : Option f.kind.Value → Prop
  | absent : f.required = false → root.named f.key = [] → ShownIn f root none
  | given {e : Excerpt} {t : List Char} {value : f.kind.Value} :
      root.named f.key = [e] → e.IsLeaf → e.inner.leafText = .ok t → f.kind.Decodes t value →
      ShownIn f root (some value)

/-- The elements in the root leave a field without the value it has to have, or with more than
one, or with none that its element could stand for. -/
inductive Field.RefusedIn (f : Field) (root : Root) : Prop
  | missing : f.required = true → root.named f.key = [] → RefusedIn f root
  | repeated : 2 ≤ (root.named f.key).length → RefusedIn f root
  | meaningless {e : Excerpt} : e ∈ root.named f.key →
      (∀ t value, e.inner.leafText = .ok t → ¬ f.kind.Decodes t value) → RefusedIn f root

theorem Field.ShownIn.not_refusedIn {f : Field} {root : Root} {value : Option f.kind.Value}
    (shown : f.ShownIn root value) : ¬ f.RefusedIn root := by
  intro refused
  cases shown with
  | absent optional none =>
    cases refused with
    | missing required _ =>
      rw [optional] at required
      contradiction
    | repeated two => simp [none] at two
    | meaningless mem => simp [none] at mem
  | @given e t value only leaf text decodes =>
    cases refused with
    | missing _ none => simp [only] at none
    | repeated two => simp [only] at two
    | meaningless mem never =>
      rw [only, List.mem_singleton] at mem
      subst mem
      exact never t value text decodes

/-- A field that was read from the elements in a root is shown there. -/
theorem shownIn_of_fieldRead {tag : Tag} {children : List Excerpt} {inner : Content}
    {f : Field} {value : Option f.kind.Value}
    (shows : List.Forall₂ Excerpt.Shows children inner.elements)
    (required : f.required = true → value ≠ none)
    (h : Schema.FieldRead schema f none (schema.elementsOf f inner.elements) value) :
    f.ShownIn ⟨tag, children⟩ value := by
  have named : List.Forall₂ Excerpt.Shows (Root.named ⟨tag, children⟩ f.key)
      (schema.elementsOf f inner.elements) := by
    simp only [Schema.elementsOf, field?_eq_some_iff]
    exact Root.shows_named shows f.key
  -- the elements read for the field and the excerpts of its name correspond one to one
  generalize whole : Root.named ⟨tag, children⟩ f.key = excerpts at named
  generalize schema.elementsOf f inner.elements = elements at h named
  cases h with
  | kept =>
    cases named
    refine .absent ?_ whole
    by_contra needed
    exact required (by simpa using needed) rfl
  | @read tag' inner' v read =>
    obtain _ | ⟨shown, ⟨⟩⟩ := named
    obtain ⟨t, text, decodes⟩ := Kind.decodes_of_read read
    obtain ⟨leaf, closes⟩ := Content.leafText_ok text
    refine .given whole (shown.isLeaf closes leaf) ?_ decodes
    rw [shown.inner_eq, text]

/-- All fields of a device info that is read are shown in the first element of the body, which has
the right name. -/
theorem exists_root_of_parse {body : String} {info : DeviceInfo}
    (h : Document.parse DeviceInfo body = .ok info) :
    ∃ root, Root.ofDocument? body = some root ∧ localName root.tag.name = "device-info".toList ∧
      ∀ f, Field.ShownIn f root (info.value f) := by
  obtain ⟨tag, inner, others, first, named, read⟩ := Document.parse_ok h
  obtain ⟨draft, record, whole⟩ := bind_ok read
  obtain ⟨start, attributes, content⟩ := bind_ok record
  have empty := Schema.Draft.readAttributes_ok field?_attribute attributes
  obtain ⟨closes, fields⟩ := Schema.Draft.readContent_ok rfl content
  obtain ⟨children, found, shows⟩ := root_of_document first closes
  refine ⟨⟨tag, children⟩, found, named, fun f => ?_⟩
  have shown := fields f
  rw [empty, ← ofDraft_ok whole] at shown
  exact shownIn_of_fieldRead shows (value_of_required info) shown

/-- The fields of a device info are those that the body shows, and a body that leaves a field
without the value it has to have, or with more than one, or with none that can be read, is no
device info. -/
theorem fields_of_parse (body : String) :
    (∀ info, Document.parse DeviceInfo body = .ok info →
      ∃ root, Root.ofDocument? body = some root ∧
        localName root.tag.name = "device-info".toList ∧
        ∀ f, Field.ShownIn f root (info.value f)) ∧
    (∀ root f, Root.ofDocument? body = some root → Field.RefusedIn f root →
      ∃ cause, Document.parse DeviceInfo body = .error cause) := by
  refine ⟨fun info => exists_root_of_parse, fun root f found refused => ?_⟩
  cases read : Document.parse DeviceInfo body with
  | error cause => exact ⟨cause, rfl⟩
  | ok info =>
    obtain ⟨root', found', -, shown⟩ := exists_root_of_parse read
    rw [found] at found'
    cases found'
    exact absurd refused (shown f).not_refusedIn

/-- A device info with four fields, and the same body with another device number in it. -/
theorem fields_of_parse_four :
    (∃ root,
      Root.ofDocument?
          ("<device-info><udn>7</udn><x><udn/></x><uptime> 012 </uptime>" ++
            "<model-number/><serial-number>&#65;</serial-number></device-info>") = some root ∧
      localName root.tag.name = "device-info".toList ∧
      ∀ f, Field.ShownIn f root
        (value
          { udn := "7", serialNumber := "A", modelNumber := "", deviceId := none
            vendorName := none, modelName := none, modelRegion := none, isTv := none
            isStick := none, friendlyDeviceName := none, friendlyModelName := none
            defaultDeviceName := none, userDeviceName := none, userDeviceLocation := none
            softwareVersion := none, softwareBuild := none, networkType := none
            networkName := none, wifiMac := none, ethernetMac := none, powerMode := none
            supportsSuspend := none, uptime := some 12 } f)) ∧
    ∃ cause,
      Document.parse DeviceInfo
          ("<device-info><udn>7</udn><x><udn/></x><uptime> 012 </uptime>" ++
            "<model-number/><serial-number>&#65;</serial-number><udn>8</udn></device-info>") =
        .error cause :=
  ⟨(fields_of_parse _).1 _ (by decide +kernel),
    (fields_of_parse _).2
      ⟨⟨"device-info".toList, []⟩,
        [⟨⟨"udn".toList, []⟩, "<udn>7</udn>".toList⟩,
          ⟨⟨"x".toList, []⟩, "<x><udn/></x>".toList⟩,
          ⟨⟨"uptime".toList, []⟩, "<uptime> 012 </uptime>".toList⟩,
          ⟨⟨"model-number".toList, []⟩, "<model-number/>".toList⟩,
          ⟨⟨"serial-number".toList, []⟩, "<serial-number>&#65;</serial-number>".toList⟩,
          ⟨⟨"udn".toList, []⟩, "<udn>8</udn>".toList⟩]⟩
      .udn (by decide +kernel) (.repeated (by decide +kernel))⟩

end DeviceInfo

end StreamRemote
