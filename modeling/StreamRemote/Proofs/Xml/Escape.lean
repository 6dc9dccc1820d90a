import StreamRemote.Proofs.Text.Blank
import StreamRemote.Proofs.Text.Numeral
import StreamRemote.Proofs.Xml.Writing
import StreamRemote.Xml.Entity

/-!
# Writing text with entities

A character is written as it is or by an entity: by its name if it has one, or by its number. The
three characters of markup need an entity, and other characters may need one too, depending on
where the text stands.

Results:
1. `exists_escaped`: each text can be escaped.
2. `Escaped.not_mem`: a character that needs an entity does not stand in the text.
3. `Escaped.trimStart`, `Escaped.trimEnd`: no entity is cut when white space is dropped.
4. `Escaped.resolve_eq`: an escaped text is resolved to the text that was meant.
5. `Escaped.resolves`, `resolves_of_isPlain`: texts that nothing is dropped from when they are read.
-/

namespace StreamRemote.Xml

/-- An entity, without its `&` and `;`, of the character. The number of a character has at most
seven decimal or six hexadecimal digits, which is enough for each; the null character has none. -/
inductive Reference : Char → List Char → Prop
  | less : Reference '<' "lt".toList
  | greater : Reference '>' "gt".toList
  | ampersand : Reference '&' "amp".toList
  | apostrophe : Reference '\'' "apos".toList
  | quotation : Reference '"' "quot".toList
  | decimal {c : Char} {digits : List Char} : c.toNat ≠ 0 → digits.length ≤ 7 →
      Text.numeral? 10 Text.digit? digits = some c.toNat → Reference c ('#' :: digits)
  | hexadecimal {c : Char} {digits : List Char} : c.toNat ≠ 0 → digits.length ≤ 6 →
      Text.numeral? 16 Text.hexDigit? digits = some c.toNat → Reference c ('#' :: 'x' :: digits)

theorem reference_space : Reference ' ' "#32".toList :=
  .decimal (by decide) (by decide) (by decide)

/-- A character of markup. -/
def isSpecial (c : Char) : Bool :=
  c == '&' || c == '<' || c == '>'

/-- The second text is the first one with entities in place of some characters, among them all
that are special or belong to the class `more`. -/
inductive Escaped (more : Char → Bool) : List Char → List Char → Prop
  | nil : Escaped more [] []
  | plain {c : Char} {text s : List Char} : isSpecial c = false → more c = false →
      Escaped more text s → Escaped more (c :: text) (c :: s)
  | entity {c : Char} {r text s : List Char} : Reference c r → Escaped more text s →
      Escaped more (c :: text) ('&' :: (r ++ ';' :: s))

theorem Escaped.append {more : Char → Bool} {text text' s s' : List Char}
    (h : Escaped more text s) (h' : Escaped more text' s') :
    Escaped more (text ++ text') (s ++ s') := by
  induction h with
  | nil => exact h'
  | plain special free _ ih => exact .plain special free ih
  | entity reference _ ih => simpa using Escaped.entity reference ih

/-- A text without such characters may stay as it is. -/
theorem escaped_self {more : Char → Bool} {text : List Char}
    (h : text.all (fun c => !isSpecial c && !more c) = true) : Escaped more text text := by
  induction text with
  | nil => exact .nil
  | cons c text ih =>
    rw [List.all_cons, Bool.and_eq_true, Bool.and_eq_true, Bool.not_eq_true',
      Bool.not_eq_true'] at h
    obtain ⟨⟨special, free⟩, others⟩ := h
    exact .plain special free (ih others)

/-- Each text can be escaped, if the characters of the class have entities. -/
theorem exists_escaped {more : Char → Bool} (entities : ∀ c, more c = true → ∃ r, Reference c r)
    (text : List Char) : ∃ s, Escaped more text s := by
  induction text with
  | nil => exact ⟨[], .nil⟩
  | cons c text ih =>
    obtain ⟨s, escaped⟩ := ih
    by_cases special : isSpecial c = true
    · have marks : (c = '&' ∨ c = '<') ∨ c = '>' := by simpa [isSpecial] using special
      rcases marks with (rfl | rfl) | rfl
      · exact ⟨_, .entity .ampersand escaped⟩
      · exact ⟨_, .entity .less escaped⟩
      · exact ⟨_, .entity .greater escaped⟩
    · by_cases needed : more c = true
      · obtain ⟨r, reference⟩ := entities c needed
        exact ⟨_, .entity reference escaped⟩
      · exact ⟨_, .plain (by simpa using special) (by simpa using needed) escaped⟩

/-- White space has entities. -/
theorem exists_reference_of_isSpace {c : Char} (h : isSpace c = true) : ∃ r, Reference c r := by
  have spaces : ((c = ' ' ∨ c = '\t') ∨ c = '\r') ∨ c = '\n' := by simpa [isSpace] using h
  rcases spaces with ((rfl | rfl) | rfl) | rfl
  · exact ⟨"#32".toList, .decimal (by decide) (by decide) (by decide)⟩
  · exact ⟨"#9".toList, .decimal (by decide) (by decide) (by decide)⟩
  · exact ⟨"#13".toList, .decimal (by decide) (by decide) (by decide)⟩
  · exact ⟨"#10".toList, .decimal (by decide) (by decide) (by decide)⟩

/-! ## The characters of an escaped text -/

namespace EscapeLemmas

theorem plain_of_digit {c : Char} (h : (Text.digit? c).isSome) : isPlain c = true := by
  unfold Text.digit? at h
  split at h
  · next range => simp [isPlain, range]
  · contradiction

theorem plain_of_hexDigit {c : Char} (h : (Text.hexDigit? c).isSome) : isPlain c = true := by
  unfold Text.hexDigit? at h
  split at h
  · next range => simp [isPlain, range]
  · split at h
    · next range =>
      have last : c ≤ 'Z' := Char.le_trans range.2 (by decide)
      simp [isPlain, range.1, last]
    · split at h
      · next range =>
        have last : c ≤ 'z' := Char.le_trans range.2 (by decide)
        simp [isPlain, range.1, last]
      · contradiction

theorem utf8Size_of_isPlain {c : Char} (h : isPlain c = true) : c.utf8Size = 1 := by
  rw [Char.utf8Size_eq_one_iff]
  simp only [isPlain, Bool.or_eq_true, Bool.and_eq_true, decide_eq_true_eq, beq_iff_eq] at h
  rcases h with (((⟨-, high⟩ | ⟨-, high⟩) | ⟨-, high⟩) | rfl) | rfl
  · exact UInt32.le_trans high (by decide)
  · exact UInt32.le_trans high (by decide)
  · exact UInt32.le_trans high (by decide)
  · decide
  · decide

theorem byteLength_of_isPlain {s : List Char} (h : ∀ c ∈ s, isPlain c = true) :
    Text.byteLength s = s.length := by
  induction s with
  | nil => rfl
  | cons c s ih =>
    rw [Text.byteLength_cons, utf8Size_of_isPlain (h c List.mem_cons_self),
      ih fun d hd => h d (List.mem_cons_of_mem _ hd), List.length_cons, Nat.add_comm]

end EscapeLemmas

open EscapeLemmas

/-- An entity is made of plain characters, but for the mark in front of a number. -/
theorem Reference.plain {c : Char} {r : List Char} (h : Reference c r) :
    ∀ d ∈ r, d = '#' ∨ isPlain d = true := by
  cases h with
  | less | greater | ampersand | apostrophe | quotation =>
    exact fun d hd => .inr (List.all_eq_true.mp (by decide) d hd)
  | decimal _ _ written =>
    intro d hd
    rcases List.mem_cons.mp hd with rfl | hd
    · exact .inl rfl
    · have row := (Text.numeral?_eq_some_iff.mp written).2
      exact .inr (plain_of_digit (Text.digit_of_numeralFrom? row d hd))
  | hexadecimal _ _ written =>
    intro d hd
    rcases List.mem_cons.mp hd with rfl | hd
    · exact .inl rfl
    rcases List.mem_cons.mp hd with rfl | hd
    · exact .inr rfl
    · have row := (Text.numeral?_eq_some_iff.mp written).2
      exact .inr (plain_of_hexDigit (Text.digit_of_numeralFrom? row d hd))

/-- The characters of an escaped text. -/
theorem Escaped.mem {more : Char → Bool} {text s : List Char} (h : Escaped more text s) {d : Char}
    (hd : d ∈ s) :
    d ∈ ['&', ';', '#'] ∨ isPlain d = true ∨ isSpecial d = false ∧ more d = false := by
  induction h with
  | nil => contradiction
  | plain special free _ ih =>
    rcases List.mem_cons.mp hd with rfl | hd
    · exact .inr (.inr ⟨special, free⟩)
    · exact ih hd
  | @entity c r text s reference _ ih =>
    rcases List.mem_cons.mp hd with rfl | hd
    · exact .inl (by decide)
    · rcases List.mem_append.mp hd with hd | hd
      · rcases reference.plain d hd with rfl | plain
        · exact .inl (by decide)
        · exact .inr (.inl plain)
      · rcases List.mem_cons.mp hd with rfl | hd
        · exact .inl (by decide)
        · exact ih hd

/-- A character that needs an entity does not stand in the text, unless entities are made of it. -/
theorem Escaped.not_mem {more : Char → Bool} {text s : List Char} (h : Escaped more text s)
    {d : Char} (free : d ∉ ['&', ';', '#']) (plain : isPlain d = false)
    (needed : isSpecial d = true ∨ more d = true) : d ∉ s := by
  intro hd
  rcases h.mem hd with mark | name | ⟨special, kept⟩
  · exact free mark
  · rw [plain] at name
    contradiction
  · rcases needed with needed | needed
    · rw [special] at needed
      contradiction
    · rw [kept] at needed
      contradiction

theorem Escaped.not_mem_less {more : Char → Bool} {text s : List Char}
    (h : Escaped more text s) : '<' ∉ s :=
  h.not_mem (by decide) rfl (.inl rfl)

/-! ## White space at the ends of an escaped text -/

/-- An escaped text is still one without the white space at its front. -/
theorem Escaped.trimStart {more : Char → Bool} {text s : List Char} (h : Escaped more text s) :
    ∃ text', Escaped more text' (Text.trimStart isSpace s) := by
  induction h with
  | nil => exact ⟨[], .nil⟩
  | @plain c text s special free rest ih =>
    cases space : isSpace c with
    | true =>
      rw [Text.trimStart, List.dropWhile_cons_of_pos space]
      exact ih
    | false =>
      rw [Text.trimStart_cons_of_not space]
      exact ⟨c :: text, .plain special free rest⟩
  | @entity c r text s reference rest _ =>
    rw [Text.trimStart_cons_of_not rfl]
    exact ⟨c :: text, .entity reference rest⟩

/-- An escaped text is still one without the white space at its back. -/
theorem Escaped.trimEnd {more : Char → Bool} {text s : List Char} (h : Escaped more text s) :
    ∃ text', Escaped more text' (Text.trimEnd isSpace s) := by
  induction h with
  | nil => exact ⟨[], .nil⟩
  | @plain c text s special free _ ih =>
    rcases Text.trimEnd_cons (p := isSpace) (c := c) (s := s) with nothing | kept
    · rw [nothing]
      exact ⟨[], .nil⟩
    · obtain ⟨text', rest⟩ := ih
      rw [kept]
      exact ⟨c :: text', .plain special free rest⟩
  | @entity c r text s reference _ ih =>
    obtain ⟨text', rest⟩ := ih
    refine ⟨c :: text', ?_⟩
    rw [← List.cons_append, Text.trimEnd_append_cons rfl]
    exact .entity reference rest

/-! ## Resolving entities -/

namespace Entity

theorem readCode_of_numeralFrom {base n m : Nat} {digit : Char → Option Nat}
    {invalid : UInt8 → EntityFault} {s : List Char}
    (h : Text.numeralFrom? base digit n s = some m) :
    readCode base digit invalid n s = .ok m := by
  induction s generalizing n with
  | nil =>
    cases h
    rfl
  | cons c rest ih =>
    obtain ⟨d, found, h⟩ := Option.bind_eq_some_iff.mp h
    rw [readCode, found]
    exact ih h

/-- The number of a character stands for the character. -/
theorem character_of_code {start stop : Nat} {c : Char} {written : List Char}
    (h : code written = .ok c.toNat) (nonzero : c.toNat ≠ 0) :
    character start stop ('#' :: written) = .ok c := by
  rw [character, h]
  split
  · contradiction
  · next zero => exact absurd (Except.ok.inj zero) nonzero
  · next n _ same =>
    cases same
    have valid : c.toNat.isValidChar := c.valid
    rw [if_pos valid, Char.ofNat_toNat]

theorem character_of_reference {c : Char} {r : List Char} (h : Reference c r)
    (start stop : Nat) : character start stop r = .ok c := by
  cases h with
  | less | greater | ampersand | apostrophe | quotation => rfl
  | @decimal c digits nonzero short written =>
    obtain ⟨nonempty, row⟩ := Text.numeral?_eq_some_iff.mp written
    have digits_plain : ∀ d ∈ digits, isPlain d = true := fun d hd =>
      plain_of_digit (Text.digit_of_numeralFrom? row d hd)
    refine character_of_code ?_ nonzero
    -- no decimal number begins with the mark of a hexadecimal one
    rw [code]
    · rw [byteLength_of_isPlain digits_plain, if_neg (by omega), readCode_of_numeralFrom row]
    · rintro rest rfl
      have digit := Text.digit_of_numeralFrom? row 'x' List.mem_cons_self
      contradiction
  | @hexadecimal c digits nonzero short written =>
    obtain ⟨nonempty, row⟩ := Text.numeral?_eq_some_iff.mp written
    have digits_plain : ∀ d ∈ digits, isPlain d = true := fun d hd =>
      plain_of_hexDigit (Text.digit_of_numeralFrom? row d hd)
    refine character_of_code ?_ nonzero
    rw [code, byteLength_of_isPlain digits_plain, if_neg (by omega), readCode_of_numeralFrom row]

/-- The name of an entity ends at its `;`. -/
theorem cut_reference {c : Char} {r : List Char} (h : Reference c r) (rest : List Char) :
    (r ++ ';' :: rest).takeWhile isNameChar = r ∧
      (r ++ ';' :: rest).dropWhile isNameChar = ';' :: rest := by
  have inName : ∀ d ∈ r, isNameChar d = true := by
    intro d hd
    rcases h.plain d hd with rfl | plain
    · rfl
    · have ampersand : d ≠ '&' := ne_of_isPlain plain rfl
      have semicolon : d ≠ ';' := ne_of_isPlain plain rfl
      simp [isNameChar, ampersand, semicolon]
  refine cut_append inName ?_
  rintro d ⟨⟩
  rfl

theorem resolveFrom_of_escaped {more : Char → Bool} {text s : List Char}
    (h : Escaped more text s) (position : Nat) : resolveFrom position s = .ok text := by
  induction h generalizing position with
  | nil => rw [resolveFrom]
  | @plain c text s special free _ ih =>
    have ampersand : c ≠ '&' := by
      rintro rfl
      contradiction
    rw [resolveFrom, if_neg ampersand, ih]
    rfl
  | @entity c r text s reference _ ih =>
    obtain ⟨taken, dropped⟩ := cut_reference reference s
    rw [resolveFrom, if_pos rfl, taken]
    split
    · next behind found =>
      rw [dropped] at found
      cases found
      simp only [character_of_reference reference, ih]
      rfl
    · next other => exact absurd dropped (other s)

end Entity

/-- An escaped text is resolved to the text that was meant. -/
theorem Escaped.resolve_eq {more : Char → Bool} {text s : List Char} (h : Escaped more text s) :
    Entity.resolve s = .ok text :=
  Entity.resolveFrom_of_escaped h 0

/-- A text that stands for another one, and has neither markup nor white space in it. -/
structure Resolves (s t : List Char) : Prop where
  resolve : Entity.resolve s = .ok t
  plain : '<' ∉ s
  solid : ∀ c ∈ s, isSpace c = false

theorem Escaped.resolves {t s : List Char} (h : Escaped isSpace t s) : Resolves s t where
  resolve := h.resolve_eq
  plain := h.not_mem_less
  solid c hc := by
    by_contra space
    rw [Bool.not_eq_false] at space
    refine h.not_mem ?_ ?_ (.inr space) hc
    · rintro mark
      simp only [List.mem_cons, List.not_mem_nil, or_false] at mark
      rcases mark with rfl | rfl | rfl <;> contradiction
    · by_contra name
      rw [Bool.not_eq_false] at name
      rw [isSpace_of_isPlain name] at space
      contradiction

/-- A text of plain characters stands for itself. -/
theorem resolves_of_isPlain {s : List Char} (h : s.all isPlain = true) : Resolves s s where
  resolve := Entity.resolve_of_plain fun mem =>
    ne_of_isPlain (List.all_eq_true.mp h _ mem) rfl rfl
  plain mem := ne_of_isPlain (List.all_eq_true.mp h _ mem) rfl rfl
  solid c hc := isSpace_of_isPlain (List.all_eq_true.mp h c hc)

end StreamRemote.Xml
