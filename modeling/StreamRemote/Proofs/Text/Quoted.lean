import StreamRemote.Proofs.Text.Cut
import StreamRemote.Proofs.Text.Numeral
import StreamRemote.Text.Quoted

/-!
# Reading quoted texts

A quoted text says where it ends and what was quoted. No character is written like the beginning of
another one, because a backslash is never written as it is, and none is written like the quote at
the end. So the characters can be taken off one by one.

* `Quoted.decodeChar?` takes a character off a text between quotes.

Results:
1. `Quoted.decodeChar?_encodeChar`: it is the one that was written.
2. `quoted_append_inj`: a quoted text and what stands behind it can be told from the two together.
3. `isPrintable_of_mem_quoted`: a quoted text shows.
-/

namespace StreamRemote.Text

namespace Quoted

/-! ## Characters -/

/-- The character that is meant by a letter behind a backslash, or by a backslash or quote there. -/
def escaped? : Char → Option Char
  | '0' => some '\x00'
  | 't' => some '\t'
  | 'r' => some '\r'
  | 'n' => some '\n'
  | '\\' => some '\\'
  | '"' => some '"'
  | _ => none

/-- Takes the first character off a text between quotes, unless it is at its end. -/
def decodeChar? : List Char → Option (Char × List Char)
  | [] | '"' :: _ => none
  | '\\' :: 'u' :: '\x7b' :: rest =>
    (numeral? 16 hexDigit? (rest.takeWhile (· ≠ '\x7d'))).map fun n =>
      (Char.ofNat n, (rest.dropWhile (· ≠ '\x7d')).drop 1)
  | '\\' :: c :: rest => (escaped? c).map (·, rest)
  | c :: rest => some (c, rest)

/-- How a character is written: as it is, by a letter behind a backslash, or by its code point. -/
theorem encodeChar_cases (c : Char) :
    (encodeChar c = [c] ∧ isPrintable c = true ∧ c ≠ '\\' ∧ c ≠ '"') ∨
      (∃ d, encodeChar c = ['\\', d] ∧ escaped? d = some c) ∨ encodeChar c = escapeCode c := by
  fun_cases encodeChar c with
  | case1 null => exact .inr (.inl ⟨'0', rfl, (congrArg some null).symm⟩)
  | case2 _ tab => exact .inr (.inl ⟨'t', rfl, (congrArg some tab).symm⟩)
  | case3 _ _ back => exact .inr (.inl ⟨'r', rfl, (congrArg some back).symm⟩)
  | case4 _ _ _ feed => exact .inr (.inl ⟨'n', rfl, (congrArg some feed).symm⟩)
  | case5 _ _ _ _ backslash => exact .inr (.inl ⟨'\\', rfl, (congrArg some backslash).symm⟩)
  | case6 _ _ _ _ _ quote => exact .inr (.inl ⟨'"', rfl, (congrArg some quote).symm⟩)
  | case7 _ _ _ _ backslash quote shown =>
    exact .inl ⟨rfl, (Bool.and_eq_true_iff.mp shown).1, backslash, quote⟩
  | case8 => exact .inr (.inr rfl)

/-- The digits of a code point. -/
theorem numeral?_code (c : Char) : numeral? 16 hexDigit? (Nat.toDigits 16 c.toNat) = some c.toNat :=
  numeral?_toDigits (by decide) (by decide) c.toNat

theorem hexDigit?_of_mem_code {c d : Char} (h : d ∈ Nat.toDigits 16 c.toNat) :
    (hexDigit? d).isSome := by
  exact digit_of_numeralFrom? (numeral?_eq_some_iff.mp (numeral?_code c)).2 d h

/-- The character that is taken off a text is the one that was written. -/
theorem decodeChar?_encodeChar (c : Char) (rest : List Char) :
    decodeChar? (encodeChar c ++ rest) = some (c, rest) := by
  rcases encodeChar_cases c with ⟨plain, -, backslash, quote⟩ | ⟨d, short, meant⟩ | code
  · rw [plain, List.singleton_append]
    unfold decodeChar?
    split <;> simp_all
  · rw [short]
    unfold escaped? at meant
    split at meant <;> cases meant <;> rfl
  · have free : '\x7d' ∉ Nat.toDigits 16 c.toNat := fun brace =>
      absurd (hexDigit?_of_mem_code brace) (by decide)
    obtain ⟨digits, behind⟩ := cut_ne_append (s := '\x7d' :: rest) free (by simp)
    have whole : encodeChar c ++ rest =
        '\\' :: 'u' :: '\x7b' :: (Nat.toDigits 16 c.toNat ++ '\x7d' :: rest) := by
      rw [code, escapeCode]
      simp
    rw [whole, decodeChar?, digits, behind, numeral?_code]
    simp [Char.ofNat_toNat]

/-! ## Texts -/

theorem encode_cons (c : Char) (s : List Char) : encode (c :: s) = encodeChar c ++ encode s := rfl

/-- The quote behind a text is where it ends. -/
theorem encode_append_inj {s t r q : List Char}
    (h : encode s ++ '"' :: r = encode t ++ '"' :: q) : s = t ∧ r = q := by
  induction s generalizing t with
  | nil =>
    cases t with
    | nil => exact ⟨rfl, (List.cons.inj h).2⟩
    | cons d t =>
      have read := decodeChar?_encodeChar d (encode t ++ '"' :: q)
      rw [← List.append_assoc, ← encode_cons, ← h] at read
      contradiction
  | cons c s ih =>
    rw [encode_cons, List.append_assoc] at h
    have read := decodeChar?_encodeChar c (encode s ++ '"' :: r)
    rw [h] at read
    cases t with
    | nil => contradiction
    | cons d t =>
      rw [encode_cons, List.append_assoc, decodeChar?_encodeChar] at read
      obtain ⟨rfl, rest⟩ := Prod.mk.inj (Option.some.inj read)
      obtain ⟨rfl, same⟩ := ih rest.symm
      exact ⟨rfl, same⟩

theorem isPrintable_of_hexDigit {c : Char} (h : (hexDigit? c).isSome) : isPrintable c = true := by
  have bounds : 0x30 ≤ c.toNat ∧ c.toNat ≤ 0x66 := by
    unfold hexDigit? at h
    split at h
    · next range => exact ⟨range.1, Nat.le_trans range.2 (by decide)⟩
    · split at h
      · next range => exact ⟨Nat.le_trans (by decide) range.1, Nat.le_trans range.2 (by decide)⟩
      · split at h
        · next range => exact ⟨Nat.le_trans (by decide) range.1, range.2⟩
        · contradiction
  exact isPrintable_of_ascii (by omega) (by omega)

theorem isPrintable_of_escaped {c d : Char} (h : escaped? d = some c) : isPrintable d = true := by
  have bounds : 0x20 ≤ d.toNat ∧ d.toNat < 0x7F := by
    unfold escaped? at h
    split at h <;> first | contradiction | decide
  exact isPrintable_of_ascii bounds.1 bounds.2

/-- All that is written for a character shows. -/
theorem isPrintable_of_mem_encodeChar {c d : Char} (h : d ∈ encodeChar c) :
    isPrintable d = true := by
  have backslash : isPrintable '\\' = true := isPrintable_of_ascii (by decide) (by decide)
  rcases encodeChar_cases c with ⟨plain, shown, -⟩ | ⟨e, short, meant⟩ | code
  · rw [plain, List.mem_singleton] at h
    rw [h]
    exact shown
  · rw [short] at h
    rcases List.mem_cons.mp h with rfl | h
    · exact backslash
    · rw [List.mem_singleton.mp h]
      exact isPrintable_of_escaped meant
  · rw [code, escapeCode] at h
    simp only [List.cons_append, List.mem_cons, List.mem_append, List.not_mem_nil, or_false] at h
    rcases h with rfl | rfl | rfl | digit | rfl
    · exact backslash
    · exact isPrintable_of_ascii (by decide) (by decide)
    · exact isPrintable_of_ascii (by decide) (by decide)
    · exact isPrintable_of_hexDigit (hexDigit?_of_mem_code digit)
    · exact isPrintable_of_ascii (by decide) (by decide)

end Quoted

theorem toList_quoted_append (s : String) (rest : List Char) :
    (quoted s).toList ++ rest = '"' :: (Quoted.encode s.toList ++ '"' :: rest) := by
  rw [quoted, String.toList_ofList]
  simp

/-- A quoted text and what stands behind it can be told from the two together. -/
theorem quoted_append_inj {s t : String} {rest rest' : List Char}
    (h : (quoted s).toList ++ rest = (quoted t).toList ++ rest') : s = t ∧ rest = rest' := by
  rw [toList_quoted_append, toList_quoted_append] at h
  obtain ⟨same, behind⟩ := Quoted.encode_append_inj (List.cons.inj h).2
  exact ⟨String.toList_inj.mp same, behind⟩

/-- A control character. -/
def IsControl (c : Char) : Prop :=
  c.toNat < 0x20 ∨ (0x7F ≤ c.toNat ∧ c.toNat < 0xA0)

theorem not_isControl_of_isPrintable {c : Char} (h : isPrintable c = true) : ¬ IsControl c := by
  intro control
  rw [isPrintable_eq_false_of_control control] at h
  contradiction

/-- All of a quoted text shows. -/
theorem isPrintable_of_mem_quoted {s : String} {c : Char} (h : c ∈ (quoted s).toList) :
    isPrintable c = true := by
  have quote : isPrintable '"' = true := isPrintable_of_ascii (by decide) (by decide)
  simp only [quoted, String.toList_ofList, List.cons_append, List.mem_cons, List.mem_append,
    List.not_mem_nil, or_false] at h
  rcases h with rfl | inside | rfl
  · exact quote
  · obtain ⟨d, -, written⟩ := List.mem_flatMap.mp inside
    exact Quoted.isPrintable_of_mem_encodeChar written
  · exact quote

end StreamRemote.Text
