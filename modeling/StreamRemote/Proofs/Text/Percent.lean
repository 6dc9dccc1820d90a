import StreamRemote.Text.Percent

/-!
# What percent-encoded texts stand for

Each character of a text stands for its bytes in UTF-8, and each `%` with two hexadecimal digits
behind it for one byte. The first byte of a character is never one of its later bytes, so bytes
that stem from different characters, or some from characters and some from triplets, do not make up
one character.

Results:
1. `Percent.decodeText?_eq_singleton_iff`: the texts that stand for a single character.
2. `Percent.encodeChar_cases`: the written form of a character is one of them.
3. `Percent.urlSafe_encodeChar`: it has no characters but those that are safe in an address.
-/

namespace StreamRemote.Text

/-- A hexadecimal digit has a value below sixteen. -/
theorem hexDigit?_lt {c : Char} {n : Nat} (h : hexDigit? c = some n) : n < 16 := by
  simp only [hexDigit?] at h
  split at h
  · next range =>
    have high : c.toNat ≤ 57 := range.2
    have value : n = c.toNat - 48 := (Option.some.inj h).symm
    omega
  · split at h
    · next range =>
      have high : c.toNat ≤ 70 := range.2
      have value : n = c.toNat - 65 + 10 := (Option.some.inj h).symm
      omega
    · split at h
      · next range =>
        have high : c.toNat ≤ 102 := range.2
        have value : n = c.toNat - 97 + 10 := (Option.some.inj h).symm
        omega
      · contradiction

namespace Percent

/-- The text has a `%` and two hexadecimal digits, which may be of either case, for each byte. -/
inductive Triplets : List UInt8 → List Char → Prop
  | nil : Triplets [] []
  | cons {b : UInt8} {high low : Char} {bytes : List UInt8} {s : List Char} :
      hexDigit? high = some (b.toNat / 16) → hexDigit? low = some (b.toNat % 16) →
      Triplets bytes s → Triplets (b :: bytes) ('%' :: high :: low :: s)

/-- Two digits denote a byte when they are the two halves of it. -/
theorem byte?_eq_some_iff {high low : Char} {b : UInt8} :
    byte? high low = some b ↔
      hexDigit? high = some (b.toNat / 16) ∧ hexDigit? low = some (b.toNat % 16) := by
  constructor
  · intro h
    unfold byte? at h
    split at h
    · next m n upper lower =>
      have hm := hexDigit?_lt upper
      have hn := hexDigit?_lt lower
      have value : b.toNat = 16 * m + n := by
        have fits : 16 * m + n < UInt8.size := by
          show 16 * m + n < 256
          omega
        rw [← Option.some.inj h, UInt8.toNat_ofNat_of_lt' fits]
      refine ⟨?_, ?_⟩
      · rw [upper]
        congr 1
        omega
      · rw [lower]
        congr 1
        omega
    · contradiction
  · rintro ⟨upper, lower⟩
    rw [byte?, upper, lower]
    simp only
    rw [Nat.div_add_mod, UInt8.ofNat_toNat]

/-! ## Reading -/

/-- Reading triplets gives their bytes. -/
theorem Triplets.decode_eq {bytes : List UInt8} {s : List Char} (h : Triplets bytes s) :
    decode s = bytes := by
  induction h with
  | nil => rw [decode]
  | cons upper lower _ ih =>
    rw [decode, byte?_eq_some_iff.mpr ⟨upper, lower⟩]
    simp only [ih]

/-- Nothing but the empty text stands for no bytes. -/
theorem eq_nil_of_decode {s : List Char} (h : decode s = []) : s = [] := by
  fun_cases decode s with
  | case1 high low rest b found => simp [decode, found] at h
  | case2 high low rest found =>
    simp [decode, found, String.utf8EncodeChar_ne_nil] at h
  | case3 c rest other =>
    rw [decode] at h
    · exact absurd (List.append_eq_nil_iff.mp h).1 String.utf8EncodeChar_ne_nil
    · exact other
  | case4 => rfl

/-- Of the bytes of a character, the first one is marked as such and the others are not. -/
theorem first_of_utf8EncodeChar {c : Char} {b : UInt8} {bytes : List UInt8}
    (h : String.utf8EncodeChar c = b :: bytes) :
    b.IsUTF8FirstByte ∧ ∀ d ∈ bytes, ¬ d.IsUTF8FirstByte := by
  have marked : ∀ (i : Nat) (hi : i < (b :: bytes).length),
      (b :: bytes)[i].IsUTF8FirstByte ↔ i = 0 := by
    rw [← h]
    exact fun i hi => UInt8.isUTF8FirstByte_getElem_utf8EncodeChar
  refine ⟨(marked 0 (by simp)).mpr rfl, fun d hd first => ?_⟩
  obtain ⟨i, hi, rfl⟩ := List.getElem_of_mem hd
  have zero := (marked (i + 1) (by simpa using hi)).mp first
  contradiction

/-- The bytes of a character are not the beginning of those of another one. -/
theorem utf8EncodeChar_append {c d : Char} {bytes : List UInt8}
    (h : String.utf8EncodeChar d ++ bytes = String.utf8EncodeChar c) : d = c ∧ bytes = [] := by
  have same : d = c := by
    have front : (String.utf8EncodeChar d ++ bytes).toByteArray.utf8DecodeChar? 0 = some d := by
      rw [List.toByteArray_append]
      exact ByteArray.utf8DecodeChar?_utf8EncodeChar_append
    have whole : (String.utf8EncodeChar c ++ []).toByteArray.utf8DecodeChar? 0 = some c := by
      rw [List.toByteArray_append]
      exact ByteArray.utf8DecodeChar?_utf8EncodeChar_append
    rw [h, ← List.append_nil (String.utf8EncodeChar c), whole] at front
    exact (Option.some.inj front).symm
  subst same
  exact ⟨rfl, List.append_right_eq_self.mp h⟩

/-- Bytes none of which is the first one of a character are given by triplets alone. -/
theorem triplets_of_decode {s : List Char} (h : ∀ b ∈ decode s, ¬ b.IsUTF8FirstByte) :
    Triplets (decode s) s := by
  -- a character that stands for itself would give its first byte
  have impossible : ∀ {c : Char} {rest : List UInt8},
      ¬ ∀ b ∈ String.utf8EncodeChar c ++ rest, ¬ b.IsUTF8FirstByte := by
    intro c rest later
    obtain ⟨b, bytes, same⟩ := List.exists_cons_of_ne_nil (String.utf8EncodeChar_ne_nil (c := c))
    refine later b ?_ (first_of_utf8EncodeChar same).1
    rw [same]
    exact List.mem_cons_self
  fun_induction decode s with
  | case1 high low rest b found ih =>
    obtain ⟨upper, lower⟩ := byte?_eq_some_iff.mp found
    exact .cons upper lower (ih fun d hd => h d (List.mem_cons_of_mem _ hd))
  | case2 | case3 => exact absurd h impossible
  | case4 => exact .nil

/-- A text stands for the bytes of one character if and only if it is this character, or has a
triplet for each of the bytes. -/
theorem decode_eq_utf8EncodeChar_iff {s : List Char} {c : Char} :
    decode s = String.utf8EncodeChar c ↔ s = [c] ∨ Triplets (String.utf8EncodeChar c) s := by
  constructor
  · intro h
    fun_cases decode s with
    | case1 high low rest b found =>
      -- the first byte is given by a triplet, so the others cannot come from characters
      rw [decode, found] at h
      simp only at h
      obtain ⟨-, later⟩ := first_of_utf8EncodeChar h.symm
      obtain ⟨upper, lower⟩ := byte?_eq_some_iff.mp found
      rw [← h]
      exact .inr (.cons upper lower (triplets_of_decode later))
    | case2 high low rest found =>
      rw [decode, found] at h
      obtain ⟨-, nothing⟩ := utf8EncodeChar_append h
      have empty := eq_nil_of_decode nothing
      contradiction
    | case3 d rest other =>
      rw [decode] at h
      · obtain ⟨rfl, nothing⟩ := utf8EncodeChar_append h
        rw [eq_nil_of_decode nothing]
        exact .inl rfl
      · exact other
    | case4 =>
      rw [decode] at h
      exact absurd h.symm String.utf8EncodeChar_ne_nil
  · rintro (rfl | triplets)
    · rw [decode, decode, List.append_nil]
      nofun
    · exact triplets.decode_eq

/-- A text is read as a single character if and only if it is this character, or has a triplet for
each of its bytes. -/
theorem decodeText?_eq_singleton_iff {s : List Char} {c : Char} :
    decodeText? s = some (String.singleton c) ↔
      s = [c] ∨ Triplets (String.utf8EncodeChar c) s := by
  rw [← decode_eq_utf8EncodeChar_iff, decodeText?, String.fromUTF8?]
  have bytes : (String.singleton c).toByteArray = (String.utf8EncodeChar c).toByteArray := by
    rw [String.singleton_eq_ofList, String.toByteArray_ofList, List.utf8Encode_singleton]
  constructor
  · intro h
    split at h
    · have same := congrArg String.toByteArray (Option.some.inj h)
      exact List.toByteArray_inj.mp (same.trans bytes)
    · contradiction
  · intro h
    have valid : (decode s).toByteArray.IsValidUTF8 := by
      rw [h, ← bytes]
      exact (String.singleton c).isValidUTF8
    rw [dif_pos valid]
    refine congrArg some (String.toByteArray_inj.mp ?_)
    rw [bytes, ← h]
    rfl

/-! ## Writing -/

/-- The digits that a byte is written with are those of its two halves. -/
theorem encodeByte_of_reserved {b : UInt8} (h : isUnreserved (Char.ofNat b.toNat) = false) :
    encodeByte b = ['%', hexDigit (b.toNat / 16), hexDigit (b.toNat % 16)] := by
  rw [encodeByte]
  simp [h]

/-- The code of an unreserved character is the only byte of the character. -/
theorem utf8EncodeChar_of_unreserved {c : Char} {b : UInt8} (mem : b ∈ String.utf8EncodeChar c)
    (h : isUnreserved (Char.ofNat b.toNat) = true) :
    c = Char.ofNat b.toNat ∧ String.utf8EncodeChar c = [b] := by
  have ascii : ∀ n < 256, isUnreserved (Char.ofNat n) = true →
      UInt8.ofNat n &&& 0x80 = 0 ∧ String.utf8EncodeChar (Char.ofNat n) = [UInt8.ofNat n] := by
    decide +kernel
  obtain ⟨first, single⟩ := ascii b.toNat b.toNat_lt h
  rw [UInt8.ofNat_toNat] at first single
  -- it is marked as the first byte, so the other bytes can only follow it
  obtain ⟨d, bytes, whole⟩ := List.exists_cons_of_ne_nil (String.utf8EncodeChar_ne_nil (c := c))
  obtain ⟨-, later⟩ := first_of_utf8EncodeChar whole
  rw [whole] at mem
  rcases List.mem_cons.mp mem with rfl | mem
  · rw [← List.singleton_append, ← single] at whole
    obtain ⟨same, rfl⟩ := utf8EncodeChar_append whole.symm
    exact ⟨same.symm, whole.trans (by rw [single, List.append_nil])⟩
  · exact absurd (.inl first) (later b mem)

theorem triplets_of_reserved {bytes : List UInt8}
    (h : ∀ b ∈ bytes, isUnreserved (Char.ofNat b.toNat) = false) :
    Triplets bytes (bytes.flatMap encodeByte) := by
  induction bytes with
  | nil => exact .nil
  | cons b bytes ih =>
    obtain ⟨upper, lower⟩ := byte?_eq_some_iff.mp (byte?_hexDigit b)
    rw [List.flatMap_cons, encodeByte_of_reserved (h b List.mem_cons_self)]
    exact .cons upper lower (ih fun d hd => h d (List.mem_cons_of_mem _ hd))

/-- A character is written as it is, or with a triplet for each of its bytes. -/
theorem encodeChar_cases (c : Char) :
    encodeChar c = [c] ∨ Triplets (String.utf8EncodeChar c) (encodeChar c) := by
  by_cases h : ∃ b ∈ String.utf8EncodeChar c, isUnreserved (Char.ofNat b.toNat) = true
  · obtain ⟨b, mem, unreserved⟩ := h
    obtain ⟨same, single⟩ := utf8EncodeChar_of_unreserved mem unreserved
    refine .inl ?_
    rw [encodeChar, single, List.flatMap_singleton, encodeByte, if_pos unreserved, ← same]
  · refine .inr (triplets_of_reserved fun b mem => ?_)
    cases unreserved : isUnreserved (Char.ofNat b.toNat) with
    | false => rfl
    | true => exact absurd ⟨b, mem, unreserved⟩ h

/-! ## Addresses -/

/-- A hexadecimal digit in upper case. -/
def IsUpperHexDigit (c : Char) : Prop :=
  '0' ≤ c ∧ c ≤ '9' ∨ 'A' ≤ c ∧ c ≤ 'F'

/-- The text has nothing but ASCII letters and digits, the marks `-`, `.`, `_` and `~`, and `%`
with two hexadecimal digits in upper case behind it. -/
inductive UrlSafe : List Char → Prop
  | nil : UrlSafe []
  | letter {c : Char} {s : List Char} :
      c.isAlphanum = true ∨ c ∈ ['-', '.', '_', '~'] → UrlSafe s → UrlSafe (c :: s)
  | triplet {high low : Char} {s : List Char} :
      IsUpperHexDigit high → IsUpperHexDigit low → UrlSafe s → UrlSafe ('%' :: high :: low :: s)

theorem UrlSafe.append {s t : List Char} (hs : UrlSafe s) (ht : UrlSafe t) :
    UrlSafe (s ++ t) := by
  induction hs with
  | nil => exact ht
  | letter kept _ ih => exact .letter kept ih
  | triplet high low _ ih => exact .triplet high low ih

theorem urlSafe_of_alphanum {s : List Char} (h : s.all Char.isAlphanum = true) : UrlSafe s := by
  induction s with
  | nil => exact .nil
  | cons c s ih =>
    rw [List.all_cons, Bool.and_eq_true] at h
    exact .letter (.inl h.1) (ih h.2)

/-- The marks that part an address, and the blank, are not in it. -/
theorem UrlSafe.not_mem {s : List Char} (h : UrlSafe s) {mark : Char}
    (separates : mark ∈ ['/', '?', '#', ' ']) : mark ∉ s := by
  have marks : mark.isAlphanum = false ∧ mark ∉ ['-', '.', '_', '~'] ∧ mark ≠ '%' ∧
      ¬ IsUpperHexDigit mark := by
    simp only [List.mem_cons, List.not_mem_nil, or_false] at separates
    unfold IsUpperHexDigit
    rcases separates with rfl | rfl | rfl | rfl <;> decide
  obtain ⟨letter, other, percent, digit⟩ := marks
  induction h with
  | nil => simp
  | @letter c s kept _ ih =>
    rw [List.mem_cons, not_or]
    refine ⟨?_, ih⟩
    rintro rfl
    rcases kept with kept | kept
    · rw [letter] at kept
      contradiction
    · exact other kept
  | @triplet high low s upper lower _ ih =>
    simp only [List.mem_cons, not_or]
    refine ⟨percent, ?_, ?_, ih⟩
    · rintro rfl
      exact digit upper
    · rintro rfl
      exact digit lower

theorem urlSafe_encodeByte (b : UInt8) : UrlSafe (encodeByte b) := by
  have upper : ∀ n < 16, IsUpperHexDigit (hexDigit n) := by
    unfold IsUpperHexDigit
    decide
  cases unreserved : isUnreserved (Char.ofNat b.toNat) with
  | true =>
    rw [encodeByte, if_pos unreserved]
    refine .letter ?_ .nil
    simpa [isUnreserved, or_assoc] using unreserved
  | false =>
    have bound : b.toNat < 256 := b.toNat_lt
    rw [encodeByte_of_reserved unreserved]
    exact .triplet (upper _ (by omega)) (upper _ (by omega)) .nil

/-- The written form of a character is safe in an address. -/
theorem urlSafe_encodeChar (c : Char) : UrlSafe (encodeChar c) := by
  rw [encodeChar]
  induction String.utf8EncodeChar c with
  | nil => exact .nil
  | cons b bytes ih =>
    rw [List.flatMap_cons]
    exact (urlSafe_encodeByte b).append ih

end Percent

end StreamRemote.Text
