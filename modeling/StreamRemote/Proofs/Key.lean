import Mathlib.Data.List.Forall2
import StreamRemote.Device
import StreamRemote.Proofs.Text.Percent

/-!
# The codes of keys

`Key.Spelled` is the grammar of codes: the name of a key in either case, or `Lit_` and a character,
either as it is or with a triplet for each of its bytes. It says for each text of which key it is a
code, and no text is a code of two keys.

Results:
1. `Key.ofCode?_eq_some_iff`: a text is read as a key if and only if it is a code of the key.
2. `Key.parse_iff_spelled`: what becomes of each text, the codes of keys and all others.
3. `Key.code_identifies_key`: the code that is written for a key is read back, tells the key from
   all others, and adds nothing to an address that would part it.
-/

namespace StreamRemote

open Text

/-! ## Letters of either case -/

/-- The two characters are the same ASCII letter, each in either case, or the same character. -/
def SameLetter (c d : Char) : Prop :=
  c = d ∨ c = d.toLower ∨ c = d.toUpper

namespace KeyLemmas

theorem toNat_toLower (c : Char) :
    c.toLower.toNat = if 65 ≤ c.toNat ∧ c.toNat ≤ 90 then c.toNat + 32 else c.toNat := by
  have upper : c.val ≥ 'A'.val ∧ c.val ≤ 'Z'.val ↔ 65 ≤ c.toNat ∧ c.toNat ≤ 90 := Iff.rfl
  unfold Char.toLower
  split
  · next range =>
    have high : c.val.toNat ≤ 90 := range.2
    have step : UInt32.toNat ('a'.val - 'A'.val) = 32 := rfl
    rw [if_pos (upper.mp range)]
    show (c.val + ('a'.val - 'A'.val)).toNat = c.val.toNat + 32
    rw [UInt32.toNat_add, step, Nat.mod_eq_of_lt (by omega)]
  · next other => rw [if_neg fun range => other (upper.mpr range)]

theorem toNat_toUpper (c : Char) :
    c.toUpper.toNat = if 97 ≤ c.toNat ∧ c.toNat ≤ 122 then c.toNat - 32 else c.toNat := by
  have lower : c.val ≥ 'a'.val ∧ c.val ≤ 'z'.val ↔ 97 ≤ c.toNat ∧ c.toNat ≤ 122 := Iff.rfl
  unfold Char.toUpper
  split
  · next range =>
    have low : 97 ≤ c.val.toNat := range.1
    have bound := c.val.toNat_lt
    -- words have no negative numbers, so the step back goes round
    have step : ('A'.val - 'a'.val).toNat = 2 ^ 32 - 32 := by decide
    rw [if_pos (lower.mp range)]
    show (c.val + ('A'.val - 'a'.val)).toNat = c.val.toNat - 32
    rw [UInt32.toNat_add, step]
    omega
  · next other => rw [if_neg fun range => other (lower.mpr range)]

end KeyLemmas

open KeyLemmas

theorem sameLetter_iff {c d : Char} : SameLetter c d ↔ c.toLower = d.toLower := by
  unfold SameLetter
  rw [← Char.toNat_inj, ← Char.toNat_inj, ← Char.toNat_inj, ← Char.toNat_inj, toNat_toLower,
    toNat_toLower, toNat_toUpper]
  grind

theorem forall₂_sameLetter_iff {s t : List Char} :
    List.Forall₂ SameLetter s t ↔ s.map Char.toLower = t.map Char.toLower := by
  have same : SameLetter = fun c d => c.toLower = d.toLower := by
    funext c d
    exact propext sameLetter_iff
  rw [same, ← List.forall₂_eq_eq_eq, List.forall₂_map_left_iff, List.forall₂_map_right_iff]

/-! ## Names -/

namespace NamedKey

/-- Different keys have different names, whatever the case of their letters. -/
theorem name_injective {key other : NamedKey}
    (h : key.name.toList.map Char.toLower = other.name.toList.map Char.toLower) : key = other := by
  have checked : ∀ key ∈ all, ∀ other ∈ all,
      key.name.toList.map Char.toLower = other.name.toList.map Char.toLower → key = other := by
    decide +kernel
  exact checked key (mem_all key) other (mem_all other) h

theorem ofName?_eq_some_iff {text : String} {key : NamedKey} :
    ofName? text = some key ↔ List.Forall₂ SameLetter text.toList key.name.toList := by
  rw [forall₂_sameLetter_iff]
  constructor
  · intro h
    have found := List.find?_some h
    exact (beq_iff_eq.mp found).symm
  · intro same
    cases found : ofName? text with
    | none =>
      have missing := List.find?_eq_none.mp found key (mem_all key)
      exact absurd (beq_iff_eq.mpr same.symm) missing
    | some other =>
      have hit := List.find?_some found
      rw [name_injective ((beq_iff_eq.mp hit).trans same)]

/-- No name begins like the code of a character. -/
theorem not_prefix_of_name {s : List Char} {key : NamedKey}
    (h : List.Forall₂ SameLetter s key.name.toList) : ¬ Key.literalMark <+: s := by
  have checked : ∀ key ∈ all,
      (Key.literalMark.map Char.toLower).isPrefixOf (key.name.toList.map Char.toLower) = false := by
    decide +kernel
  intro mark
  have lower := List.isPrefixOf_iff_prefix.mpr (mark.map Char.toLower)
  rw [forall₂_sameLetter_iff.mp h, checked key (mem_all key)] at lower
  contradiction

end NamedKey

namespace Key

/-! ## Codes -/

/-- The text is a code of the key. -/
inductive Spelled : Key → List Char → Prop
  | name {key : NamedKey} {s : List Char} :
      List.Forall₂ SameLetter s key.name.toList → Spelled (.named key) s
  | plain {c : Char} : Spelled (.literal c) ("Lit_".toList ++ [c])
  | triplets {c : Char} {s : List Char} : Percent.Triplets (String.utf8EncodeChar c) s →
      Spelled (.literal c) ("Lit_".toList ++ s)

theorem single?_eq_some_iff {text : String} {c : Char} :
    single? text = some c ↔ text = String.singleton c := by
  rw [← String.toList_inj, String.toList_singleton, single?]
  split
  · next d same => simp [same]
  · next other =>
    constructor
    · nofun
    · exact fun same => absurd same (other c)

/-- Behind the mark of a character, a text is read as the one character that it stands for. -/
theorem ofCode?_of_mark (s : List Char) :
    ofCode? (String.ofList (literalMark ++ s)) =
      ((Percent.decodeText? s).bind single?).map literal := by
  have mark : literalMark.isPrefixOf (literalMark ++ s) = true :=
    List.isPrefixOf_iff_prefix.mpr (List.prefix_append ..)
  rw [ofCode?, String.toList_ofList, if_pos mark, List.drop_left]

theorem ofCode?_of_not_mark {text : String} (h : ¬ literalMark <+: text.toList) :
    ofCode? text = (NamedKey.ofName? text).map named := by
  rw [ofCode?, if_neg fun mark => h (List.isPrefixOf_iff_prefix.mp mark)]

theorem ofCode?_of_mark_eq_some_iff {s : List Char} {key : Key} :
    ofCode? (String.ofList (literalMark ++ s)) = some key ↔
      ∃ c, key = .literal c ∧ (s = [c] ∨ Percent.Triplets (String.utf8EncodeChar c) s) := by
  rw [ofCode?_of_mark, Option.map_eq_some_iff]
  constructor
  · rintro ⟨c, found, rfl⟩
    obtain ⟨text, decoded, single⟩ := Option.bind_eq_some_iff.mp found
    rw [single?_eq_some_iff.mp single] at decoded
    exact ⟨c, rfl, Percent.decodeText?_eq_singleton_iff.mp decoded⟩
  · rintro ⟨c, rfl, written⟩
    have decoded := Percent.decodeText?_eq_singleton_iff.mpr written
    exact ⟨c, Option.bind_eq_some_iff.mpr ⟨_, decoded, single?_eq_some_iff.mpr rfl⟩, rfl⟩

/-- A text is read as a key if and only if it is a code of the key. -/
theorem ofCode?_eq_some_iff {text : String} {key : Key} :
    ofCode? text = some key ↔ key.Spelled text.toList := by
  constructor
  · intro h
    by_cases mark : literalMark <+: text.toList
    · obtain ⟨s, same⟩ := mark
      rw [← String.ofList_toList (s := text), ← same] at h
      obtain ⟨c, rfl, rfl | triplets⟩ := ofCode?_of_mark_eq_some_iff.mp h
      · rw [← same]
        exact .plain
      · rw [← same]
        exact .triplets triplets
    · rw [ofCode?_of_not_mark mark] at h
      obtain ⟨key, found, rfl⟩ := Option.map_eq_some_iff.mp h
      exact .name (NamedKey.ofName?_eq_some_iff.mp found)
  · intro h
    generalize whole : text.toList = s at h
    rw [← String.ofList_toList (s := text), whole]
    cases h with
    | name same =>
      have mark : ¬ literalMark <+: (String.ofList s).toList := by
        rw [String.toList_ofList]
        exact NamedKey.not_prefix_of_name same
      rw [← String.toList_ofList (l := s)] at same
      rw [ofCode?_of_not_mark mark, NamedKey.ofName?_eq_some_iff.mpr same]
      rfl
    | plain => exact ofCode?_of_mark_eq_some_iff.mpr ⟨_, rfl, .inl rfl⟩
    | triplets triplets => exact ofCode?_of_mark_eq_some_iff.mpr ⟨_, rfl, .inr triplets⟩

theorem parse_ok_iff {text : String} {key : Key} :
    parse text = .ok key ↔ key.Spelled text.toList := by
  rw [← ofCode?_eq_some_iff, parse]
  split <;> simp_all

theorem parse_error_iff {text : String} {cause : UnknownKey} :
    parse text = .error cause ↔ cause = ⟨text⟩ ∧ ∀ key : Key, ¬ key.Spelled text.toList := by
  simp only [← ofCode?_eq_some_iff, parse]
  split
  · next key found => simp [found]
  · next missing => simp [missing, eq_comm]

/-- A text is read as the key that it is a code of, and is that of one key at most. All other texts
are refused as they are, and nothing that begins like the code of a character is taken for a
name. -/
theorem parse_iff_spelled (text : String) :
    (∀ key, parse text = .ok key ↔ key.Spelled text.toList) ∧
    (∀ cause, parse text = .error cause ↔
      cause = ⟨text⟩ ∧ ∀ key : Key, ¬ key.Spelled text.toList) ∧
    (∀ key other : Key, key.Spelled text.toList → other.Spelled text.toList → key = other) ∧
    (∀ rest, text = "Lit_" ++ rest → ∀ key, parse text ≠ .ok (.named key)) := by
  refine ⟨fun _ => parse_ok_iff, fun _ => parse_error_iff, fun key other h h' => ?_, ?_⟩
  · have read := ofCode?_eq_some_iff.mpr h
    rw [ofCode?_eq_some_iff.mpr h'] at read
    exact (Option.some.inj read).symm
  · rintro rest rfl key read
    cases parse_ok_iff.mp read with
    | name same =>
      refine NamedKey.not_prefix_of_name same ?_
      rw [String.toList_append]
      exact List.prefix_append ..

/-- Texts that are read by each rule of the grammar, and one that has two characters. -/
theorem parse_iff_spelled_four :
    parse "Lit_%c3%A9" = .ok (.literal 'é') ∧ parse "Lit_%" = .ok (.literal '%') ∧
      parse "vOLUMEup" = .ok (.named .volumeUp) ∧ parse "Lit_ab" = .error ⟨"Lit_ab"⟩ := by
  have accent : Percent.Triplets (String.utf8EncodeChar 'é') "%c3%A9".toList :=
    .cons rfl rfl (.cons rfl rfl .nil)
  have volume : List.Forall₂ SameLetter "vOLUMEup".toList NamedKey.volumeUp.name.toList :=
    forall₂_sameLetter_iff.mpr (by decide)
  have two : ∀ key : Key, ¬ key.Spelled "Lit_ab".toList := by
    intro key h
    generalize whole : "Lit_ab".toList = s at h
    cases h with
    | name same =>
      refine NamedKey.not_prefix_of_name same ?_
      rw [← whole]
      decide
    | plain => cases whole
    | @triplets c _ triplets =>
      generalize String.utf8EncodeChar c = bytes at triplets
      cases triplets <;> cases whole
  exact ⟨((parse_iff_spelled _).1 _).mpr (.triplets accent),
    ((parse_iff_spelled _).1 _).mpr .plain, ((parse_iff_spelled _).1 _).mpr (.name volume),
    ((parse_iff_spelled _).2.1 _).mpr ⟨rfl, two⟩⟩

/-! ## The code of a key -/

/-- The code that is written for a key is one of its codes. -/
theorem spelled_code (key : Key) : key.Spelled key.code.toList := by
  cases key with
  | named key => exact .name (forall₂_sameLetter_iff.mpr rfl)
  | literal c =>
    rw [code, String.toList_ofList]
    rcases Percent.encodeChar_cases c with plain | triplets
    · rw [plain]
      exact .plain
    · exact .triplets triplets

theorem code_injective {key other : Key} (h : other.code = key.code) : other = key := by
  have read := ofCode?_eq_some_iff.mpr (spelled_code other)
  rw [h, ofCode?_eq_some_iff.mpr (spelled_code key)] at read
  exact (Option.some.inj read).symm

theorem urlSafe_code (key : Key) : Percent.UrlSafe key.code.toList := by
  cases key with
  | named key =>
    have checked : ∀ key ∈ NamedKey.all, key.name.toList.all Char.isAlphanum = true := by
      decide +kernel
    exact Percent.urlSafe_of_alphanum (checked key (NamedKey.mem_all key))
  | literal c =>
    have mark : Percent.UrlSafe literalMark :=
      .letter (.inl rfl) (.letter (.inl rfl) (.letter (.inl rfl) (.letter (.inr (by decide)) .nil)))
    rw [code, String.toList_ofList]
    exact mark.append (Percent.urlSafe_encodeChar c)

/-- The code of a key is read back as this key and is that of no other key. It is made of characters
that are safe in an address, so the address where the key is pressed has no more marks that part an
address, and no more blanks, than it has without the code. -/
theorem code_identifies_key (key : Key) :
    parse key.code = .ok key ∧ (∀ other : Key, other.code = key.code → other = key) ∧
    Percent.UrlSafe key.code.toList ∧
    ∀ (device : Device) (mark : Char), mark ∈ ['/', '?', '#', ' '] →
      (device.keypressUrl key.code).toList.count mark =
        (device.keypressUrl "").toList.count mark := by
  refine ⟨parse_ok_iff.mpr (spelled_code key), fun _ => code_injective, urlSafe_code key, ?_⟩
  intro device mark separates
  have missing := (urlSafe_code key).not_mem separates
  simp only [Device.keypressUrl, String.toList_append, List.count_append,
    List.count_eq_zero_of_not_mem missing]
  rfl

/-- The code of a character that would part an address, and that of the mark of codes itself. -/
theorem code_identifies_key_two :
    parse "Lit_%2F" = .ok (.literal '/') ∧ (Key.named .left).code ≠ (Key.literal '/').code ∧
      Percent.UrlSafe "Lit_%25".toList ∧
      ((⟨"tv", 8060⟩ : Device).keypressUrl "Lit_%2F").toList.count '/' = 4 := by
  obtain ⟨read, only, -, address⟩ := code_identifies_key (.literal '/')
  obtain ⟨-, -, safe, -⟩ := code_identifies_key (.literal '%')
  have slash : (Key.literal '/').code = "Lit_%2F" := by decide +kernel
  have percent : (Key.literal '%').code = "Lit_%25" := by decide +kernel
  have base : ((⟨"tv", 8060⟩ : Device).keypressUrl "").toList.count '/' = 4 := by decide +kernel
  rw [slash] at read
  rw [percent] at safe
  refine ⟨read, fun same => ?_, safe, ?_⟩
  · have equal := only (.named .left) same
    contradiction
  · rw [← slash, address ⟨"tv", 8060⟩ '/' (by decide), base]

end Key

end StreamRemote
