import StreamRemote.Proofs.Call
import StreamRemote.Proofs.Key
import StreamRemote.Proofs.Text.Cut
import StreamRemote.Proofs.Text.Numeral

/-!
# What a request tells of its call

Addresses are put together from their parts as they are, and any text can be the name of a host, the
code of a key or the id of an app. Still no part can pass for another one: what is asked stands in
front of the code or the id, and the port stands behind the last colon of a query's address.

Results:
1. `Device.base_append_inj`: a device and what stands behind its base can be told from the two
   together, if that begins with no digit and has no colon in it.
2. `Call.request_eq_iff`: calls to one device make the same request if and only if they ask for the
   same.
3. `Call.requests_identify`: both, for the requests that are made and for the addresses of a device.
-/

namespace StreamRemote

/-! ## Devices -/

/-- Where something ends that stands in front of the last colon is known from the whole. -/
theorem append_colon_inj {a a' s s' : List Char} (free : ':' ∉ s) (free' : ':' ∉ s')
    (h : a ++ ':' :: s = a' ++ ':' :: s') : a = a' ∧ s = s' := by
  -- read from the back, the last colon is the first one
  have cut : ∀ {b t : List Char}, ':' ∉ t →
      (b ++ ':' :: t).reverse.takeWhile (· ≠ ':') = t.reverse ∧
        (b ++ ':' :: t).reverse.dropWhile (· ≠ ':') = ':' :: b.reverse := by
    intro b t none
    have back : (b ++ ':' :: t).reverse = t.reverse ++ ':' :: b.reverse := by simp
    rw [back]
    exact cut_ne_append (by simpa using none) (by simp)
  obtain ⟨taken, dropped⟩ := cut (b := a) free
  obtain ⟨taken', dropped'⟩ := cut (b := a') free'
  rw [h] at taken dropped
  have front : a.reverse = a'.reverse := (List.cons.inj (dropped.symm.trans dropped')).2
  exact ⟨List.reverse_injective front, List.reverse_injective (taken.symm.trans taken')⟩

/-- Each query has a path of its own. -/
theorem Query.path_injective : Function.Injective path := by
  intro q q'
  cases q <;> cases q' <;> decide

namespace Device

/-- The text can be told from the port in front of it. -/
structure BehindPort (s : List Char) : Prop where
  colon : ':' ∉ s
  head : ∀ c ∈ s.head?, (Text.digit? c).isSome = false

theorem behindPort_nil : BehindPort [] := ⟨by simp, nofun⟩

theorem toList_base (device : Device) : device.base.toList =
    "http://".toList ++ (device.host.toList ++ ':' :: (toString device.port.toNat).toList) := by
  simp only [base, String.toList_append, List.append_assoc]
  rfl

/-- A device and what stands behind its base can be told from the two together. -/
theorem base_append_inj {device device' : Device} {s s' : List Char} (behind : BehindPort s)
    (behind' : BehindPort s') :
    device.base.toList ++ s = device'.base.toList ++ s' ↔ device = device' ∧ s = s' := by
  constructor
  · intro h
    have free : ∀ (n : Nat) {t : List Char}, BehindPort t → ':' ∉ (toString n).toList ++ t := by
      intro n t behind colon
      rcases List.mem_append.mp colon with digit | colon
      · have row := (Text.numeral?_eq_some_iff.mp (Text.numeral?_toString n)).2
        have digit := Text.digit_of_numeralFrom? row ':' digit
        contradiction
      · exact behind.colon colon
    simp only [toList_base, List.append_assoc, List.append_cancel_left_eq, List.cons_append] at h
    obtain ⟨host, rest⟩ := append_colon_inj (free _ behind) (free _ behind') h
    obtain ⟨port, same⟩ := Text.toString_append_inj behind.head behind'.head rest
    obtain ⟨host', port'⟩ := device'
    cases String.toList_inj.mp host
    cases UInt16.toNat_inj.mp port
    exact ⟨rfl, same⟩
  · rintro ⟨rfl, rfl⟩
    rfl

/-- The base tells the device. -/
theorem base_inj {device device' : Device} : device.base = device'.base ↔ device = device' := by
  have alone : device.base.toList ++ [] = device'.base.toList ++ [] ↔ device = device' ∧ [] = [] :=
    base_append_inj behindPort_nil behindPort_nil
  simpa [String.toList_inj] using alone

theorem toList_url (device : Device) (path : String) :
    (device.url path).toList = device.base.toList ++ '/' :: path.toList := by
  simp only [url, String.toList_append, List.append_assoc]
  rfl

/-- The address of a path tells the path to whoever knows the device. -/
theorem url_inj {device : Device} {path path' : String} :
    device.url path = device.url path' ↔ path = path' := by
  rw [← String.toList_inj, toList_url, toList_url]
  simp [String.toList_inj]

/-- The address of a query tells both the device and the query. -/
theorem queryUrl_inj {device device' : Device} {q q' : Query} :
    device.queryUrl q = device'.queryUrl q' ↔ device = device' ∧ q = q' := by
  have behind : ∀ q : Query, BehindPort ('/' :: q.path.toList) := by
    intro q
    refine ⟨?_, ?_⟩
    · cases q <;> decide
    · rintro _ ⟨⟩
      rfl
  rw [← String.toList_inj, queryUrl, queryUrl, toList_url, toList_url,
    base_append_inj (behind q) (behind q'), List.cons.injEq, String.toList_inj,
    Query.path_injective.eq_iff]
  simp

/-- All addresses that are known of a device before anything is asked of it. -/
def addresses (device : Device) : List String :=
  [device.base, device.url keypressPath, device.url launchPath, device.queryUrl .deviceInfo,
    device.queryUrl .activeApp, device.queryUrl .apps, device.queryUrl .player]

end Device

/-! ## Calls to one device -/

namespace Call

/-- The code of the key that a call presses, if it presses one. -/
def keyCode? : Call → Option String
  | pressKey code => some code
  | press key => some key.code
  | launchApp _ | query _ => none

/-- The calls ask for the same: the same query, the same app, or a key with the same code. -/
inductive SameAs : Call → Call → Prop
  | query (q : Query) : SameAs (.query q) (.query q)
  | launchApp (appId : String) : SameAs (.launchApp appId) (.launchApp appId)
  | key {call other : Call} {code : String} : call.keyCode? = some code →
      other.keyCode? = some code → SameAs call other

/-- What is done with a request, and where below the base of the device. -/
def target : Call → Method × String
  | pressKey code => (.post, Device.keypressPath ++ code)
  | press key => (.post, Device.keypressPath ++ key.code)
  | launchApp appId => (.post, Device.launchPath ++ appId)
  | query q => (.get, q.path)

theorem request_eq (device : Device) (call : Call) :
    call.request device = ⟨call.target.1, device.url call.target.2⟩ := by
  have address : ∀ path argument : String,
      device.url path ++ argument = device.url (path ++ argument) := by
    intro path argument
    rw [Device.url, Device.url, String.append_assoc]
  cases call <;> simp only [request, target, Device.keypressUrl, Device.launchUrl,
    Device.queryUrl, address]

theorem target_of_keyCode {call : Call} {code : String} (h : call.keyCode? = some code) :
    call.target = (.post, Device.keypressPath ++ code) := by
  cases call <;> cases h <;> rfl

/-- A call presses a key, launches an app, or is a query. -/
theorem key_or_app_or_query (call : Call) : (∃ code, call.keyCode? = some code) ∨
    (∃ appId, call = .launchApp appId) ∨ ∃ q, call = .query q := by
  cases call with
  | pressKey code => exact .inl ⟨code, rfl⟩
  | press key => exact .inl ⟨key.code, rfl⟩
  | launchApp appId => exact .inr (.inl ⟨appId, rfl⟩)
  | query q => exact .inr (.inr ⟨q, rfl⟩)

/-- No code of a key makes pressing it the same as launching an app. -/
theorem keypress_ne_launch (code appId : String) :
    Device.keypressPath ++ code ≠ Device.launchPath ++ appId := by
  intro same
  have first := congrArg (fun s => s.toList.head?) same
  simp [Device.keypressPath, Device.launchPath] at first

/-- What is asked, and where, tells what a call asks for. -/
theorem target_eq_iff {call other : Call} : call.target = other.target ↔ call.SameAs other := by
  constructor
  · intro h
    rcases key_or_app_or_query call with ⟨code, pressed⟩ | ⟨appId, rfl⟩ | ⟨q, rfl⟩ <;>
      rcases key_or_app_or_query other with ⟨code', pressed'⟩ | ⟨appId', rfl⟩ | ⟨q', rfl⟩
    · rw [target_of_keyCode pressed, target_of_keyCode pressed'] at h
      cases (String.append_right_inj _).mp (Prod.mk.inj h).2
      exact .key pressed pressed'
    · rw [target_of_keyCode pressed] at h
      exact absurd (Prod.mk.inj h).2 (keypress_ne_launch _ _)
    · rw [target_of_keyCode pressed] at h
      cases h
    · rw [target_of_keyCode pressed'] at h
      exact absurd (Prod.mk.inj h).2.symm (keypress_ne_launch _ _)
    · cases (String.append_right_inj _).mp (Prod.mk.inj h).2
      exact .launchApp appId
    · cases h
    · rw [target_of_keyCode pressed'] at h
      cases h
    · cases h
    · cases Query.path_injective (Prod.mk.inj h).2
      exact .query q
  · intro h
    cases h with
    | query | launchApp => rfl
    | key pressed pressed' => rw [target_of_keyCode pressed, target_of_keyCode pressed']

/-- Calls to one device make the same request if and only if they ask for the same. -/
theorem request_eq_iff {device : Device} {call other : Call} :
    call.request device = other.request device ↔ call.SameAs other := by
  rw [request_eq, request_eq, Request.mk.injEq, Device.url_inj, ← Prod.mk.injEq]
  exact target_eq_iff

/-- Two keys are pressed in the same way only if they are the same key. -/
theorem press_sameAs_iff {key other : Key} : (press key).SameAs (press other) ↔ key = other := by
  constructor
  · intro h
    cases h with
    | key pressed pressed' =>
      cases pressed
      exact (Key.code_injective (Option.some.inj pressed')).symm
  · rintro rfl
    exact .key rfl rfl

/-- The requests that are made tell apart what is asked of a device, whatever texts the codes and
the ids are, and whatever is answered.

* Two calls to one device make the same request if and only if they ask for the same: the same
  query, the same app, or a key with the same code.
* Two keys have the same code only if they are the same key.
* Two devices have the same addresses, or but the same base, only if they are the same; and an
  address of a query is that of no other query, and of no other device. -/
theorem requests_identify :
    (∀ (device : Device) (respond respond' : List Request → Answer) (call other : Call),
      ((perform (.responding respond) device call).run []).2 =
          ((perform (.responding respond') device other).run []).2 ↔ call.SameAs other) ∧
    (∀ key other : Key, (press key).SameAs (press other) ↔ key = other) ∧
    ∀ device device' : Device,
      (device.addresses = device'.addresses ↔ device = device') ∧
      (device.base = device'.base ↔ device = device') ∧
      ∀ q q' : Query, device.queryUrl q = device'.queryUrl q' ↔ device = device' ∧ q = q' := by
  refine ⟨fun device respond respond' call other => ?_, fun key other => press_sameAs_iff,
    fun device device' => ⟨⟨fun h => ?_, congrArg _⟩, Device.base_inj,
      fun q q' => Device.queryUrl_inj⟩⟩
  · rw [perform_run, perform_run, List.cons.injEq, request_eq_iff]
    simp
  · exact Device.base_inj.mp (List.cons.inj h).1

end Call

end StreamRemote
