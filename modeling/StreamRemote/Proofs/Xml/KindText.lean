import StreamRemote.Proofs.Xml.AttributeText
import StreamRemote.Proofs.Xml.RecordText

/-!
# Writing plain values

How the values of each kind are written, as the text of an element or between the quotes of an
attribute. In an element white space may stand around a value, so white space inside a string needs
entities there; in an attribute only the quotes do, besides the characters of markup.

Results:
1. `Kind.exists_leaf`, `Kind.LeafText.readsAs`: an element with a written value in it is read as
   this value.
2. `Kind.read_of_writtenInQuotes`: an attribute with a written value is read as this value.
-/

namespace StreamRemote.Xml

/-! ## In elements -/

/-- The text is how the value is written: characters of a string that are special or white space
need an entity, truth values are words, and numbers are in decimal. -/
def Kind.Written : (kind : Kind) → kind.Value → List Char → Prop
  | .text, value, s => Escaped isSpace (String.toList value) s
  | .flag, value, s => s = bif value then "true".toList else "false".toList
  | .count, value, s => Text.numeral? 10 Text.digit? s = some (UInt64.toNat value)

/-- Each value can be written. -/
theorem Kind.exists_written {kind : Kind} (value : kind.Value) : ∃ s, kind.Written value s := by
  cases kind with
  | text => exact exists_escaped (fun _ => exists_reference_of_isSpace) (String.toList value)
  | flag => exact ⟨_, rfl⟩
  | count => exact Text.exists_numeral (UInt64.toNat value)

theorem Source.word_of_leafText {inner : Content} {t : List Char} (h : inner.leafText = .ok t)
    (tag : Tag) : Source.word (.element tag inner) = .ok (String.ofList t) := by
  show inner.leafText.map String.ofList = _
  rw [h]
  rfl

/-- A value that is no string is read from its word, wherever this word stands. -/
theorem Kind.read_of_word {kind : Kind} {value : kind.Value} {s : List Char} {source : Source}
    (other : kind ≠ .text) (h : kind.Written value s)
    (word : source.word = .ok (String.ofList s)) : kind.read source = .ok value := by
  cases kind with
  | text => contradiction
  | flag =>
    show (source.word >>= Source.readBoolean) = .ok value
    rw [word, show s = _ from h]
    cases (value : Bool) <;> rfl
  | count =>
    have number : Text.readWord64 (String.ofList s) = .ok value :=
      Text.readWord64_of_numeral (by rw [String.toList_ofList]; exact h)
    show (source.word >>=
      fun word => (Text.readWord64 word).mapError ReadError.invalidNumber) = .ok value
    rw [word]
    show (Text.readWord64 (String.ofList s)).mapError ReadError.invalidNumber = _
    rw [number]
    rfl

/-- A written value is read from the text that it stands for. -/
theorem Kind.read_of_written {kind : Kind} {value : kind.Value} {s : List Char}
    (h : kind.Written value s) :
    ∃ t, Resolves s t ∧
      ∀ tag inner, inner.leafText = .ok t → kind.read (.element tag inner) = .ok value := by
  cases kind with
  | text =>
    refine ⟨String.toList value, Escaped.resolves h, fun tag inner text => ?_⟩
    show inner.leafText.map String.ofList = .ok value
    rw [text]
    exact congrArg Except.ok (String.ofList_toList)
  | flag =>
    refine ⟨s, resolves_of_isPlain ?_, fun tag inner text =>
      read_of_word (by decide) h (Source.word_of_leafText text tag)⟩
    cases (show s = _ from h)
    cases (value : Bool) <;> decide
  | count =>
    obtain ⟨-, digits⟩ := Text.numeral?_eq_some_iff.mp h
    refine ⟨s, resolves_of_isPlain (List.all_eq_true.mpr fun c hc => ?_), fun tag inner text =>
      read_of_word (by decide) h (Source.word_of_leafText text tag)⟩
    exact EscapeLemmas.plain_of_digit (Text.digit_of_numeralFrom? digits c hc)

/-- An element with a written value in it is read as this value; white space may stand around the
value. -/
theorem Kind.exists_leaf {kind : Kind} {value : kind.Value} {p s q : List Char}
    (before : p.all isSpace = true) (h : kind.Written value s) (behind : q.all isSpace = true)
    (tag : Tag) :
    ∃ inner, Spells (p ++ (s ++ q)) inner ∧ kind.read (.element tag inner) = .ok value := by
  obtain ⟨t, resolves, read⟩ := read_of_written h
  have plain : '<' ∉ p ++ (s ++ q) := by
    intro mem
    rcases List.mem_append.mp mem with mem | mem
    · exact absurd (List.all_eq_true.mp before _ mem) (by decide)
    · rcases List.mem_append.mp mem with mem | mem
      · exact resolves.plain mem
      · exact absurd (List.all_eq_true.mp behind _ mem) (by decide)
  exact ⟨.ofText _, .ofText plain, read _ _ (Content.leafText_ofText before behind resolves)⟩

/-- The two texts are an element with nothing but the value in it: there are no attributes, and
white space may stand around the value. -/
inductive Kind.LeafText (kind : Kind) (value : kind.Value) : List Char → List Char → Prop
  | leaf {w p s q : List Char} : w.all isSpace = true → p.all isSpace = true →
      kind.Written value s → q.all isSpace = true → LeafText kind value w (p ++ (s ++ q))

theorem Kind.exists_leafText {kind : Kind} (value : kind.Value) :
    ∃ tail inside, kind.LeafText value tail inside := by
  obtain ⟨s, written⟩ := exists_written value
  exact ⟨[], _, .leaf (p := []) (q := []) rfl rfl written rfl⟩

theorem Kind.LeafText.readsAs {kind : Kind} {value : kind.Value} {tail inside name : List Char}
    (h : kind.LeafText value tail inside) (plain : PlainName name) :
    ReadsAs ⟨name, tail⟩ inside (fun tag inner => kind.read (.element tag inner)) value := by
  cases h with | leaf spaces before written behind
  exact ⟨(AttributesText.done spaces).plain plain, exists_leaf before written behind _⟩

/-! ## In attributes -/

/-- The text is how the value is written between the quotes of an attribute: quotes of a string
need an entity too, and truth values and numbers are as in elements. -/
def Kind.WrittenInQuotes : (kind : Kind) → kind.Value → List Char → Prop
  | .text, value, s => Escaped (· == '"') (String.toList value) s
  | .flag, value, s => Kind.Written .flag value s
  | .count, value, s => Kind.Written .count value s

/-- Each value can be written in an attribute, and no quote is left in its text. -/
theorem Kind.exists_writtenInQuotes {kind : Kind} (value : kind.Value) :
    ∃ s, kind.WrittenInQuotes value s ∧ '"' ∉ s := by
  cases kind with
  | text =>
    have quote : ∀ c : Char, (c == '"') = true → ∃ r, Reference c r := by
      intro c same
      rw [beq_iff_eq.mp same]
      exact ⟨_, .quotation⟩
    obtain ⟨s, escaped⟩ := exists_escaped quote (String.toList value)
    exact ⟨s, escaped, escaped.not_mem (by decide) rfl (.inr rfl)⟩
  | flag =>
    refine ⟨_, rfl, ?_⟩
    cases (value : Bool) <;> decide
  | count =>
    obtain ⟨s, written⟩ := Text.exists_numeral (UInt64.toNat value)
    refine ⟨s, written, fun quote => ?_⟩
    have digit := Text.digit_of_numeralFrom? (Text.numeral?_eq_some_iff.mp written).2 _ quote
    contradiction

/-- An attribute with a written value is read as this value. -/
theorem Kind.read_of_writtenInQuotes {kind : Kind} {value : kind.Value} {s : List Char}
    (h : kind.WrittenInQuotes value s) : kind.read (.attributeValue s) = .ok value := by
  cases kind with
  | text =>
    show (Content.plainText s).map String.ofList = .ok value
    rw [Content.plainText, Escaped.resolve_eq h]
    exact congrArg Except.ok String.ofList_toList
  | flag => exact read_of_word (by decide) (show Kind.Written .flag value s from h) rfl
  | count => exact read_of_word (by decide) (show Kind.Written .count value s from h) rfl

end StreamRemote.Xml
