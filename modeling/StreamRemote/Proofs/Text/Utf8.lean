import StreamRemote.Proofs.Text.Percent
import StreamRemote.Text.Utf8

/-!
# What bytes stand for

Bytes that are UTF-8 stand for the characters that they were written from. Other bytes have parts
that were written from no character. Where no character stands, such a part goes on for as long as
its bytes could still become one, and is a single byte where they never could. The part stands for
U+FFFD as a whole.

* `Utf8.Begins` and `Utf8.IllFormed` say what such a part is. They refer to the way in which
  characters are written, and not to the reader.
* `Utf8.StandsFor` says for each row of bytes which text it stands for.

Results:
1. `Utf8.utf8EncodeChar_eq_cons_iff`: what the first byte of a character announces is what follows.
2. `Utf8.step_cases`: the reader takes one character, or one ill-formed part, at a time.
3. `Utf8.decode_eq_iff`: the reader finds the text that the bytes stand for, and no other.
-/

namespace StreamRemote.Text.Utf8

/-! ## Texts of bytes -/

/-- Some character is written with these bytes in front. -/
def Begins (bytes : List UInt8) : Prop :=
  ∃ c, bytes <+: String.utf8EncodeChar c

/-- The part in front of some bytes is ill-formed: no character stands there, and the part ends
where the bytes stop being the beginning of one, or behind a single byte. -/
structure IllFormed (part behind : List UInt8) : Prop where
  nonempty : part ≠ []
  noChar : ∀ c, ¬ String.utf8EncodeChar c <+: part ++ behind
  begins : Begins part ∨ part.length = 1
  longest : ∀ b ∈ behind.head?, ¬ Begins (part ++ [b])

/-- The text that bytes stand for, with U+FFFD for each ill-formed part. -/
inductive StandsFor : List UInt8 → List Char → Prop
  | nil : StandsFor [] []
  | char {c : Char} {bytes : List UInt8} {s : List Char} :
      StandsFor bytes s → StandsFor (String.utf8EncodeChar c ++ bytes) (c :: s)
  | illFormed {part bytes : List UInt8} {s : List Char} :
      IllFormed part bytes → StandsFor bytes s → StandsFor (part ++ bytes) ('\uFFFD' :: s)

theorem Begins.of_prefix {bytes more : List UInt8} (h : Begins more) (front : bytes <+: more) :
    Begins bytes := by
  obtain ⟨c, begins⟩ := h
  exact ⟨c, front.trans begins⟩

/-- The character in front of a row of bytes is the only one there. -/
theorem eq_of_utf8EncodeChar_prefix {c d : Char} {bytes : List UInt8}
    (hc : String.utf8EncodeChar c <+: bytes) (hd : String.utf8EncodeChar d <+: bytes) : c = d := by
  rcases List.prefix_or_prefix_of_prefix hc hd with ⟨rest, whole⟩ | ⟨rest, whole⟩
  · exact (Percent.utf8EncodeChar_append whole).1
  · exact (Percent.utf8EncodeChar_append whole).1.symm

/-- No ill-formed part goes on behind the end of another one: its bytes would begin a character, and
the other part would not have ended there. -/
theorem IllFormed.not_longer {part more behind behind' : List UInt8} {b : UInt8}
    (h : IllFormed part (b :: behind)) : ¬ IllFormed (part ++ b :: more) behind' := by
  intro h'
  rcases h'.begins with begins | single
  · have front : part ++ [b] <+: part ++ b :: more := ⟨more, by simp⟩
    exact h.longest b rfl (begins.of_prefix front)
  · have positive := List.length_pos_iff.mpr h.nonempty
    simp only [List.length_append, List.length_cons] at single
    omega

/-- The ill-formed part in front of a row of bytes is the only one there. -/
theorem IllFormed.unique {part part' behind behind' : List UInt8} (h : IllFormed part behind)
    (h' : IllFormed part' behind') (same : part ++ behind = part' ++ behind') :
    part = part' ∧ behind = behind' := by
  rcases List.append_eq_append_iff.mp same with ⟨more, rfl, rfl⟩ | ⟨more, rfl, rfl⟩
  · cases more with
    | nil => simp
    | cons b more => exact absurd h' h.not_longer
  · cases more with
    | nil => simp
    | cons b more => exact absurd h h'.not_longer

/-- Bytes stand for one text only. -/
theorem StandsFor.unique {bytes : List UInt8} {s t : List Char} (hs : StandsFor bytes s)
    (ht : StandsFor bytes t) : s = t := by
  induction hs generalizing t with
  | nil =>
    generalize none : ([] : List UInt8) = row at ht
    cases ht with
    | nil => rfl
    | char => simp [String.utf8EncodeChar_ne_nil] at none
    | illFormed ill => simp [ill.nonempty] at none
  | @char c bytes s _ ih =>
    generalize whole : String.utf8EncodeChar c ++ bytes = row at ht
    cases ht with
    | nil => simp [String.utf8EncodeChar_ne_nil] at whole
    | @char d behind t rest =>
      have front : String.utf8EncodeChar c <+: String.utf8EncodeChar d ++ behind := ⟨bytes, whole⟩
      cases eq_of_utf8EncodeChar_prefix front (List.prefix_append ..)
      cases List.append_cancel_left whole
      rw [ih rest]
    | illFormed ill => exact absurd ⟨bytes, whole⟩ (ill.noChar c)
  | @illFormed part bytes s ill _ ih =>
    generalize whole : part ++ bytes = row at ht
    cases ht with
    | nil => simp [ill.nonempty] at whole
    | @char d behind t => exact absurd ⟨behind, whole.symm⟩ (ill.noChar d)
    | illFormed ill' rest =>
      obtain ⟨rfl, rfl⟩ := ill.unique ill' whole
      rw [ih rest]

/-- The bytes that a text is written in stand for it. -/
theorem standsFor_flatMap (s : List Char) : StandsFor (s.flatMap String.utf8EncodeChar) s := by
  induction s with
  | nil => exact .nil
  | cons c s ih => exact .char ih

/-! ## Characters in bytes -/

/-- A code point and the bytes of its character. Each byte but the first has six bits of it. The
bounds on the second byte leave out what fits into fewer bytes, the surrogates, and what is no code
point any more. -/
inductive Written : Nat → List UInt8 → Prop
  | one {n : Nat} : n < 128 → Written n [UInt8.ofNat n]
  | two {n k : Nat} : 2 ≤ n → n < 32 → k < 64 →
      Written (64 * n + k) [UInt8.ofNat (n + 0xC0), UInt8.ofNat (k + 0x80)]
  | three {n k l : Nat} : n < 16 → k < 64 → l < 64 → (n = 0 → 32 ≤ k) → (n = 13 → k < 32) →
      Written (64 * (64 * n + k) + l)
        [UInt8.ofNat (n + 0xE0), UInt8.ofNat (k + 0x80), UInt8.ofNat (l + 0x80)]
  | four {n k l m : Nat} : n < 5 → k < 64 → l < 64 → m < 64 → (n = 0 → 16 ≤ k) → (n = 4 → k < 16) →
      Written (64 * (64 * (64 * n + k) + l) + m)
        [UInt8.ofNat (n + 0xF0), UInt8.ofNat (k + 0x80), UInt8.ofNat (l + 0x80),
          UInt8.ofNat (m + 0x80)]

theorem Written.isValidChar {v : Nat} {bytes : List UInt8} (h : Written v bytes) :
    v.isValidChar := by
  show v < 0xD800 ∨ 0xDFFF < v ∧ v < 0x110000
  cases h <;> omega

theorem exists_written (c : Char) : ∃ bytes, Written c.toNat bytes := by
  have valid : c.toNat < 0xD800 ∨ 0xDFFF < c.toNat ∧ c.toNat < 0x110000 := c.valid
  generalize c.toNat = v at valid
  have last : v = 64 * (v / 64) + v % 64 := (Nat.div_add_mod v 64).symm
  have middle : v / 64 = 64 * (v / 64 / 64) + v / 64 % 64 := (Nat.div_add_mod _ 64).symm
  have first : v / 64 / 64 = 64 * (v / 64 / 64 / 64) + v / 64 / 64 % 64 :=
    (Nat.div_add_mod _ 64).symm
  by_cases one : v < 0x80
  · exact ⟨_, .one one⟩
  by_cases two : v < 0x800
  · rw [last]
    exact ⟨_, .two (by omega) (by omega) (by omega)⟩
  by_cases three : v < 0x10000
  · rw [last, middle]
    exact ⟨_, .three (by omega) (by omega) (by omega) (by omega) (by omega)⟩
  · rw [last, middle, first]
    exact ⟨_, .four (by omega) (by omega) (by omega) (by omega) (by omega) (by omega)⟩

theorem utf8EncodeChar_of_written {c : Char} {bytes : List UInt8} (h : Written c.toNat bytes) :
    String.utf8EncodeChar c = bytes := by
  change Written c.val.toNat bytes at h
  simp only [String.utf8EncodeChar]
  generalize c.val.toNat = v at h ⊢
  cases h with
  | one small => rw [if_pos (by omega)]
  | @two n k large small hk =>
    have first : (64 * n + k) / 64 % 32 = n := by omega
    have second : (64 * n + k) % 64 = k := by omega
    rw [if_neg (by omega), if_pos (by omega), first, second]
  | @three n k l small hk hl least most =>
    have first : (64 * (64 * n + k) + l) / 4096 % 16 = n := by omega
    have second : (64 * (64 * n + k) + l) / 64 % 64 = k := by omega
    have third : (64 * (64 * n + k) + l) % 64 = l := by omega
    rw [if_neg (by omega), if_neg (by omega), if_pos (by omega), first, second, third]
  | @four n k l m small hk hl hm least most =>
    have first : (64 * (64 * (64 * n + k) + l) + m) / 262144 % 8 = n := by omega
    have second : (64 * (64 * (64 * n + k) + l) + m) / 4096 % 64 = k := by omega
    have third : (64 * (64 * (64 * n + k) + l) + m) / 64 % 64 = l := by omega
    have fourth : (64 * (64 * (64 * n + k) + l) + m) % 64 = m := by omega
    rw [if_neg (by omega), if_neg (by omega), if_neg (by omega), first, second, third, fourth]

/-! ## First bytes -/

/-- The first byte of a character of one, two, three or four bytes, with the bits `n` that it
carries, and what it announces. -/
inductive Announces : UInt8 → Lead → Prop
  | one {n : Nat} : n < 128 → Announces (UInt8.ofNat n) ⟨0, n, 0x80, 0xBF⟩
  | two {n : Nat} : 2 ≤ n → n < 32 → Announces (UInt8.ofNat (n + 0xC0)) ⟨1, n, 0x80, 0xBF⟩
  | three {n : Nat} : n < 16 → Announces (UInt8.ofNat (n + 0xE0))
      ⟨2, n, if n = 0 then 0xA0 else 0x80, if n = 13 then 0x9F else 0xBF⟩
  | four {n : Nat} : n < 5 → Announces (UInt8.ofNat (n + 0xF0))
      ⟨3, n, if n = 0 then 0x90 else 0x80, if n = 4 then 0x8F else 0xBF⟩

theorem Announces.ofByte? {b : UInt8} {lead : Lead} (h : Announces b lead) :
    Lead.ofByte? b = some lead := by
  cases h with
  | one small =>
    have all : ∀ n < 128, Lead.ofByte? (UInt8.ofNat n) = some ⟨0, n, 0x80, 0xBF⟩ := by decide
    exact all _ small
  | two large small =>
    have all : ∀ n < 32, 2 ≤ n →
        Lead.ofByte? (UInt8.ofNat (n + 0xC0)) = some ⟨1, n, 0x80, 0xBF⟩ := by decide
    exact all _ small large
  | three small =>
    have all : ∀ n < 16, Lead.ofByte? (UInt8.ofNat (n + 0xE0)) =
        some ⟨2, n, if n = 0 then 0xA0 else 0x80, if n = 13 then 0x9F else 0xBF⟩ := by decide
    exact all _ small
  | four small =>
    have all : ∀ n < 5, Lead.ofByte? (UInt8.ofNat (n + 0xF0)) =
        some ⟨3, n, if n = 0 then 0x90 else 0x80, if n = 4 then 0x8F else 0xBF⟩ := by decide
    exact all _ small

/-- A byte that announces nothing is the first one of no character. -/
theorem announces_or_none (b : UInt8) : (∃ lead, Announces b lead) ∨ Lead.ofByte? b = none := by
  have later : ∀ n < 66, Lead.ofByte? (UInt8.ofNat (n + 0x80)) = none := by decide
  have beyond : ∀ n < 11, Lead.ofByte? (UInt8.ofNat (n + 0xF5)) = none := by decide
  have bound := b.toNat_lt
  rw [← UInt8.ofNat_toNat (x := b)]
  generalize b.toNat = m at bound
  by_cases one : m < 0x80
  · exact .inl ⟨_, .one one⟩
  by_cases tail : m < 0xC2
  · obtain ⟨n, rfl⟩ := Nat.exists_eq_add_of_le' (show 0x80 ≤ m by omega)
    exact .inr (later n (by omega))
  by_cases two : m < 0xE0
  · obtain ⟨n, rfl⟩ := Nat.exists_eq_add_of_le' (show 0xC0 ≤ m by omega)
    exact .inl ⟨_, .two (by omega) (by omega)⟩
  by_cases three : m < 0xF0
  · obtain ⟨n, rfl⟩ := Nat.exists_eq_add_of_le' (show 0xE0 ≤ m by omega)
    exact .inl ⟨_, .three (by omega)⟩
  by_cases four : m < 0xF5
  · obtain ⟨n, rfl⟩ := Nat.exists_eq_add_of_le' (show 0xF0 ≤ m by omega)
    exact .inl ⟨_, .four (by omega)⟩
  · obtain ⟨n, rfl⟩ := Nat.exists_eq_add_of_le' (show 0xF5 ≤ m by omega)
    exact .inr (beyond n (by omega))

theorem ofByte?_eq_some_iff {b : UInt8} {lead : Lead} :
    Lead.ofByte? b = some lead ↔ Announces b lead := by
  constructor
  · intro h
    rcases announces_or_none b with ⟨lead', announces⟩ | none
    · rw [announces.ofByte?] at h
      cases h
      exact announces
    · rw [none] at h
      contradiction
  · exact Announces.ofByte?

/-- A second byte has the mark of a later one, and there is always one that fits. -/
theorem Announces.bounds {b : UInt8} {lead : Lead} (h : Announces b lead) :
    0x80 ≤ lead.low ∧ lead.low ≤ lead.high ∧ lead.high ≤ 0xBF := by
  cases h with
  | one | two =>
    simp only
    decide
  | @three n small =>
    have all : ∀ n < 16, 0x80 ≤ (if n = 0 then 0xA0 else 0x80 : UInt8) ∧
        (if n = 0 then 0xA0 else 0x80 : UInt8) ≤ (if n = 13 then 0x9F else 0xBF) ∧
        (if n = 13 then 0x9F else 0xBF : UInt8) ≤ 0xBF := by decide
    exact all n small
  | @four n small =>
    have all : ∀ n < 5, 0x80 ≤ (if n = 0 then 0x90 else 0x80 : UInt8) ∧
        (if n = 0 then 0x90 else 0x80 : UInt8) ≤ (if n = 4 then 0x8F else 0xBF) ∧
        (if n = 4 then 0x8F else 0xBF : UInt8) ≤ 0xBF := by decide
    exact all n small

/-! ## Later bytes -/

/-- The bytes are as many as were announced, the next of them lies between `low` and `high`, and
those behind it have the mark of later bytes. -/
inductive Follows : (more : Nat) → (low high : UInt8) → List UInt8 → Prop
  | nil {low high : UInt8} : Follows 0 low high []
  | cons {more : Nat} {low high b : UInt8} {bytes : List UInt8} : low ≤ b → b ≤ high →
      Follows more 0x80 0xBF bytes → Follows (more + 1) low high (b :: bytes)

/-- The number that later bytes give together with the bits in front of them. -/
def codePoint (bits : Nat) (bytes : List UInt8) : Nat :=
  bytes.foldl (fun n b => 64 * n + (b.toNat - 0x80)) bits

theorem codePoint_cons (bits : Nat) (b : UInt8) (bytes : List UInt8) :
    codePoint bits (b :: bytes) = codePoint (64 * bits + (b.toNat - 0x80)) bytes := by
  rw [codePoint, codePoint, List.foldl_cons]

theorem follows_cons_iff {more : Nat} {low high b : UInt8} {bytes : List UInt8} :
    Follows (more + 1) low high (b :: bytes) ↔
      low ≤ b ∧ b ≤ high ∧ Follows more 0x80 0xBF bytes := by
  constructor
  · rintro (_ | ⟨above, below, behind⟩)
    exact ⟨above, below, behind⟩
  · rintro ⟨above, below, behind⟩
    exact .cons above below behind

/-- Some bytes can follow whatever is announced. -/
theorem exists_follows {more : Nat} {low high : UInt8} (fits : low ≤ high) :
    ∃ bytes, Follows more low high bytes := by
  induction more generalizing low high with
  | zero => exact ⟨[], .nil⟩
  | succ more ih =>
    have later : (0x80 : UInt8) ≤ 0xBF := by decide
    obtain ⟨bytes, behind⟩ := ih later
    exact ⟨low :: bytes, .cons (UInt8.le_refl low) fits behind⟩

section SixBits

variable {more n k l m : Nat} {low high : UInt8} {bytes : List UInt8}

theorem toNat_ofNat_of_sixBits (small : n < 64) : (UInt8.ofNat (n + 0x80)).toNat = n + 0x80 :=
  UInt8.toNat_ofNat_of_lt' (show n + 0x80 < 256 by omega)

theorem codePoint_ofNat {bits : Nat} (small : n < 64) :
    codePoint bits (UInt8.ofNat (n + 0x80) :: bytes) = codePoint (64 * bits + n) bytes := by
  rw [codePoint_cons, toNat_ofNat_of_sixBits small, Nat.add_sub_cancel]

theorem follows_ofNat_iff (small : n < 64) :
    Follows (more + 1) low high (UInt8.ofNat (n + 0x80) :: bytes) ↔
      low.toNat ≤ n + 0x80 ∧ n + 0x80 ≤ high.toNat ∧ Follows more 0x80 0xBF bytes := by
  rw [follows_cons_iff, UInt8.le_iff_toNat_le, UInt8.le_iff_toNat_le, toNat_ofNat_of_sixBits small]

theorem follows_later_iff (small : n < 64) :
    Follows (more + 1) 0x80 0xBF (UInt8.ofNat (n + 0x80) :: bytes) ↔
      Follows more 0x80 0xBF bytes := by
  rw [follows_ofNat_iff small]
  simp only [UInt8.reduceToNat]
  constructor
  · rintro ⟨-, -, behind⟩
    exact behind
  · intro behind
    exact ⟨by omega, by omega, behind⟩

theorem follows_three_iff (hk : k < 64) (hl : l < 64) :
    Follows 2 (if n = 0 then 0xA0 else 0x80) (if n = 13 then 0x9F else 0xBF)
        [UInt8.ofNat (k + 0x80), UInt8.ofNat (l + 0x80)] ↔
      (n = 0 → 32 ≤ k) ∧ (n = 13 → k < 32) := by
  rw [follows_ofNat_iff hk, follows_later_iff hl, apply_ite UInt8.toNat, apply_ite UInt8.toNat]
  simp only [UInt8.reduceToNat, Follows.nil, and_true]
  split <;> split <;> omega

theorem follows_four_iff (hk : k < 64) (hl : l < 64) (hm : m < 64) :
    Follows 3 (if n = 0 then 0x90 else 0x80) (if n = 4 then 0x8F else 0xBF)
        [UInt8.ofNat (k + 0x80), UInt8.ofNat (l + 0x80), UInt8.ofNat (m + 0x80)] ↔
      (n = 0 → 16 ≤ k) ∧ (n = 4 → k < 16) := by
  rw [follows_ofNat_iff hk, follows_later_iff hl, follows_later_iff hm, apply_ite UInt8.toNat,
    apply_ite UInt8.toNat]
  simp only [UInt8.reduceToNat, Follows.nil, and_true]
  split <;> split <;> omega

/-- A byte that follows another one carries six bits. -/
theorem Follows.exists_ofNat (h : Follows (more + 1) low high bytes) (lower : 0x80 ≤ low)
    (upper : high ≤ 0xBF) :
    ∃ n rest, n < 64 ∧ bytes = UInt8.ofNat (n + 0x80) :: rest ∧ Follows more 0x80 0xBF rest := by
  obtain _ | @⟨_, _, _, b, rest, above, below, behind⟩ := h
  simp only [UInt8.le_iff_toNat_le, UInt8.reduceToNat] at lower upper above below
  refine ⟨b.toNat - 0x80, rest, by omega, ?_, behind⟩
  rw [Nat.sub_add_cancel (by omega), UInt8.ofNat_toNat]

end SixBits

/-- What is announced by the first byte of a character follows. -/
theorem Written.exists_lead {v : Nat} {bytes : List UInt8} (h : Written v bytes) :
    ∃ b behind lead, bytes = b :: behind ∧ Announces b lead ∧
      Follows lead.more lead.low lead.high behind ∧ v = codePoint lead.bits behind := by
  cases h with
  | one small => exact ⟨_, _, _, rfl, .one small, .nil, rfl⟩
  | two large small hk =>
    refine ⟨_, _, _, rfl, .two large small, (follows_later_iff hk).mpr .nil, ?_⟩
    rw [codePoint_ofNat hk]
    rfl
  | three small hk hl least most =>
    refine ⟨_, _, _, rfl, .three small, (follows_three_iff hk hl).mpr ⟨least, most⟩, ?_⟩
    rw [codePoint_ofNat hk, codePoint_ofNat hl]
    rfl
  | four small hk hl hm least most =>
    refine ⟨_, _, _, rfl, .four small, (follows_four_iff hk hl hm).mpr ⟨least, most⟩, ?_⟩
    rw [codePoint_ofNat hk, codePoint_ofNat hl, codePoint_ofNat hm]
    rfl

/-- A first byte and what it announces are a character. -/
theorem Announces.written {b : UInt8} {lead : Lead} {bytes : List UInt8} (first : Announces b lead)
    (h : Follows lead.more lead.low lead.high bytes) :
    Written (codePoint lead.bits bytes) (b :: bytes) := by
  obtain ⟨lower, -, upper⟩ := first.bounds
  cases first with
  | one small =>
    cases h
    exact .one small
  | two large small =>
    obtain ⟨k, rest, hk, rfl, last⟩ := h.exists_ofNat lower upper
    cases last
    rw [codePoint_ofNat hk]
    exact .two large small hk
  | three small =>
    obtain ⟨k, rest, hk, rfl, second⟩ := h.exists_ofNat lower upper
    obtain ⟨l, rest, hl, rfl, last⟩ := second.exists_ofNat (by decide) (by decide)
    cases last
    obtain ⟨least, most⟩ := (follows_three_iff hk hl).mp h
    rw [codePoint_ofNat hk, codePoint_ofNat hl]
    exact .three small hk hl least most
  | four small =>
    obtain ⟨k, rest, hk, rfl, second⟩ := h.exists_ofNat lower upper
    obtain ⟨l, rest, hl, rfl, third⟩ := second.exists_ofNat (by decide) (by decide)
    obtain ⟨m, rest, hm, rfl, last⟩ := third.exists_ofNat (by decide) (by decide)
    cases last
    obtain ⟨least, most⟩ := (follows_four_iff hk hl hm).mp h
    rw [codePoint_ofNat hk, codePoint_ofNat hl, codePoint_ofNat hm]
    exact .four small hk hl hm least most

/-- The bytes of a character: the first one announces how many follow and which, and together they
give its code point. -/
theorem utf8EncodeChar_eq_cons_iff {c : Char} {b : UInt8} {bytes : List UInt8} :
    String.utf8EncodeChar c = b :: bytes ↔
      ∃ lead, Lead.ofByte? b = some lead ∧ Follows lead.more lead.low lead.high bytes ∧
        c.toNat = codePoint lead.bits bytes := by
  simp only [ofByte?_eq_some_iff]
  constructor
  · intro h
    obtain ⟨row, written⟩ := exists_written c
    rw [utf8EncodeChar_of_written written] at h
    subst h
    obtain ⟨_, _, lead, ⟨⟩, first, behind, value⟩ := written.exists_lead
    exact ⟨lead, first, behind, value⟩
  · rintro ⟨lead, first, behind, value⟩
    have written := first.written behind
    rw [← value] at written
    exact utf8EncodeChar_of_written written

/-! ## The reader -/

section Reader

variable {b : UInt8} {lead : Lead} {bytes rest : List UInt8}

theorem utf8EncodeChar_codePoint (first : Lead.ofByte? b = some lead)
    (h : Follows lead.more lead.low lead.high bytes) :
    String.utf8EncodeChar (Char.ofNat (codePoint lead.bits bytes)) = b :: bytes := by
  have written := (ofByte?_eq_some_iff.mp first).written h
  refine utf8EncodeChar_eq_cons_iff.mpr ⟨lead, first, h, ?_⟩
  rw [Char.ofNat, dif_pos written.isValidChar]
  rfl

/-- The bytes behind a first one begin a character with it if more bytes can be found that make them
what it announces. -/
theorem begins_cons_iff :
    Begins (b :: bytes) ↔ ∃ lead, Lead.ofByte? b = some lead ∧
      ∃ missing, Follows lead.more lead.low lead.high (bytes ++ missing) := by
  constructor
  · rintro ⟨c, missing, whole⟩
    obtain ⟨lead, first, behind, -⟩ := utf8EncodeChar_eq_cons_iff.mp whole.symm
    exact ⟨lead, first, missing, behind⟩
  · rintro ⟨lead, first, missing, behind⟩
    exact ⟨_, missing, (utf8EncodeChar_codePoint first behind).symm⟩

theorem exists_of_utf8EncodeChar_prefix {c : Char}
    (h : String.utf8EncodeChar c <+: b :: rest) :
    ∃ lead, Lead.ofByte? b = some lead ∧
      ∃ bytes, Follows lead.more lead.low lead.high bytes ∧ bytes <+: rest := by
  obtain ⟨behind, whole⟩ := h
  obtain ⟨d, bytes, same⟩ := List.exists_cons_of_ne_nil (String.utf8EncodeChar_ne_nil (c := c))
  rw [same] at whole
  cases whole
  obtain ⟨lead, first, follows, -⟩ := utf8EncodeChar_eq_cons_iff.mp same
  exact ⟨lead, first, bytes, follows, List.prefix_append ..⟩

/-- What was announced does not follow, and the bytes up to where this shows are these. -/
structure Stops (more : Nat) (low high : UInt8) (taken behind : List UInt8) : Prop where
  fits : ∃ missing, Follows more low high (taken ++ missing)
  short : ∀ bytes, Follows more low high bytes → ¬ bytes <+: taken ++ behind
  longest : ∀ b ∈ behind.head?, ∀ missing, ¬ Follows more low high (taken ++ b :: missing)

theorem Stops.cons {more : Nat} {low high : UInt8} {taken behind : List UInt8} (lower : low ≤ b)
    (upper : b ≤ high) (h : Stops more 0x80 0xBF taken behind) :
    Stops (more + 1) low high (b :: taken) behind := by
  obtain ⟨missing, fits⟩ := h.fits
  refine ⟨⟨missing, .cons lower upper fits⟩, fun bytes follows front => ?_, fun d hd missing => ?_⟩
  · obtain _ | ⟨-, -, follows⟩ := follows
    exact h.short _ follows (List.cons_prefix_cons.mp front).2
  · intro follows
    exact h.longest d hd missing (follows_cons_iff.mp follows).2.2

/-- The reader takes the bytes that were announced, or those up to where it shows that they do not
follow. -/
theorem follow_cases {more bits : Nat} {low high : UInt8} (fits : low ≤ high)
    (rest : List UInt8) :
    (∃ bytes behind, rest = bytes ++ behind ∧ Follows more low high bytes ∧
      follow more bits low high rest = (Char.ofNat (codePoint bits bytes), behind)) ∨
    ∃ taken behind, rest = taken ++ behind ∧ Stops more low high taken behind ∧
      follow more bits low high rest = (replacement, behind) := by
  induction rest generalizing more bits low high with
  | nil =>
    cases more with
    | zero => exact .inl ⟨[], [], rfl, .nil, rfl⟩
    | succ more =>
      refine .inr ⟨[], [], rfl, ⟨exists_follows fits, fun bytes follows front => ?_, nofun⟩, rfl⟩
      rw [List.prefix_nil.mp front] at follows
      cases follows
  | cons b rest ih =>
    cases more with
    | zero => exact .inl ⟨[], b :: rest, rfl, .nil, rfl⟩
    | succ more =>
      unfold follow
      split
      · next inside =>
        obtain ⟨lower, upper⟩ := inside
        have later : (0x80 : UInt8) ≤ 0xBF := by decide
        rcases @ih more (64 * bits + (b.toNat - 0x80)) 0x80 0xBF later with
          ⟨bytes, behind, rfl, follows, read⟩ | ⟨taken, behind, rfl, stops, read⟩
        · rw [read, ← codePoint_cons]
          exact .inl ⟨b :: bytes, behind, rfl, .cons lower upper follows, rfl⟩
        · exact .inr ⟨b :: taken, behind, rfl, stops.cons lower upper, read⟩
      · next outside =>
        have other (bytes : List UInt8) : ¬ Follows (more + 1) low high (b :: bytes) := by
          intro follows
          obtain ⟨lower, upper, -⟩ := follows_cons_iff.mp follows
          exact outside ⟨lower, upper⟩
        refine .inr ⟨[], b :: rest, rfl, ⟨exists_follows fits, fun bytes follows front => ?_, ?_⟩,
          rfl⟩
        · obtain _ | @⟨_, _, _, d, bytes, lower, upper, -⟩ := follows
          cases (List.cons_prefix_cons.mp front).1
          exact outside ⟨lower, upper⟩
        · rintro _ ⟨⟩ missing
          exact other missing

theorem illFormed_of_stops {taken behind : List UInt8} (first : Lead.ofByte? b = some lead)
    (h : Stops lead.more lead.low lead.high taken behind) : IllFormed (b :: taken) behind := by
  refine ⟨List.cons_ne_nil _ _, fun c front => ?_, .inl (begins_cons_iff.mpr ⟨lead, first, h.fits⟩),
    fun d hd begins => ?_⟩
  · obtain ⟨lead', first', bytes, follows, front⟩ := exists_of_utf8EncodeChar_prefix front
    cases first.symm.trans first'
    exact h.short bytes follows front
  · obtain ⟨lead', first', missing, follows⟩ := begins_cons_iff.mp begins
    cases first.symm.trans first'
    have same : taken ++ [d] ++ missing = taken ++ d :: missing := List.append_assoc ..
    exact h.longest d hd missing (same ▸ follows)

theorem illFormed_of_none (none : Lead.ofByte? b = none) : IllFormed [b] rest := by
  refine ⟨List.cons_ne_nil _ _, fun c front => ?_, .inr rfl, fun d _ begins => ?_⟩
  · obtain ⟨lead, first, -⟩ := exists_of_utf8EncodeChar_prefix front
    rw [none] at first
    contradiction
  · obtain ⟨lead, first, -⟩ := begins_cons_iff.mp begins
    rw [none] at first
    contradiction

/-- One step takes the character in front, or else the ill-formed part there. -/
theorem step_cases (b : UInt8) (rest : List UInt8) :
    (∃ c behind, b :: rest = String.utf8EncodeChar c ++ behind ∧ step b rest = (c, behind)) ∨
    ∃ part behind, b :: rest = part ++ behind ∧ IllFormed part behind ∧
      step b rest = (replacement, behind) := by
  unfold step
  split
  · next lead first =>
    obtain ⟨-, fits, -⟩ := (ofByte?_eq_some_iff.mp first).bounds
    rcases follow_cases fits rest with ⟨bytes, behind, rfl, follows, read⟩ |
      ⟨taken, behind, rfl, stops, read⟩
    · refine .inl ⟨_, behind, ?_, read⟩
      rw [utf8EncodeChar_codePoint first follows]
      rfl
    · exact .inr ⟨b :: taken, behind, rfl, illFormed_of_stops first stops, read⟩
  · next none => exact .inr ⟨[b], rest, rfl, illFormed_of_none none, rfl⟩

/-- The reader goes on with the text that the bytes stand for. -/
theorem standsFor_repair (before : String) (bytes : List UInt8) :
    ∃ s, (repair before bytes).toList = before.toList ++ s ∧ StandsFor bytes s := by
  fun_induction repair before bytes with
  | case1 before => exact ⟨[], by simp, .nil⟩
  | case2 before b rest ih =>
    obtain ⟨s, read, stands⟩ := ih
    refine ⟨(step b rest).1 :: s, ?_, ?_⟩
    · rw [read, String.toList_push, List.append_assoc]
      rfl
    · rcases step_cases b rest with ⟨c, behind, whole, taken⟩ | ⟨part, behind, whole, ill, taken⟩
      · rw [taken] at stands ⊢
        rw [whole]
        exact .char stands
      · rw [taken] at stands ⊢
        rw [whole]
        exact .illFormed ill stands

end Reader

theorem toList_data_toByteArray (text : String) :
    text.toByteArray.data.toList = text.toList.flatMap String.utf8EncodeChar := by
  rw [← String.utf8Encode_toList, List.utf8Encode, List.toList_data_toByteArray]

theorem standsFor_decode (bytes : ByteArray) :
    StandsFor bytes.data.toList (decode bytes).toList := by
  unfold decode
  split
  · next text read =>
    rw [String.fromUTF8?] at read
    split at read
    · have same : text.toByteArray = bytes :=
        congrArg String.toByteArray (Option.some.inj read).symm
      rw [← same, toList_data_toByteArray]
      exact standsFor_flatMap text.toList
    · contradiction
  · obtain ⟨s, read, stands⟩ := standsFor_repair "" bytes.data.toList
    rw [read]
    exact stands

/-- Bytes are read as the text that they stand for. -/
theorem decode_eq_iff {bytes : ByteArray} {text : String} :
    decode bytes = text ↔ StandsFor bytes.data.toList text.toList := by
  constructor
  · rintro rfl
    exact standsFor_decode bytes
  · intro stands
    exact String.toList_inj.mp ((standsFor_decode bytes).unique stands)

/-- A part ends in front of a byte that cannot go on with it, and a byte that begins nothing is a
part of its own. -/
example : decode ⟨#[0xE2, 0x82, 0x61, 0xFF, 0xC3, 0xA9]⟩ = "\uFFFDa\uFFFDé" := by
  cbv

end StreamRemote.Text.Utf8
