import Mathlib.Data.List.Forall2
import StreamRemote.Proofs.Xml.Nesting
import StreamRemote.Xml.Event

/-!
# Writing elements

How elements with plain names are written: a start tag with what stands behind the name, the
content, and an end tag; or a single tag for an element without content. Elements are written in a
row when nothing but white space and comments stands between them.

Results:
1. `ElementText.spells`: what is written so spells the element.
2. `RowText.exists_row`: what is written in a row is read one element after the other, whatever
   stands between them.
-/

namespace StreamRemote.Xml

/-- A character of a plain name: an ASCII letter or digit, `-` or `_`. -/
def isPlain (c : Char) : Bool :=
  ('0' ≤ c && c ≤ '9') || ('A' ≤ c && c ≤ 'Z') || ('a' ≤ c && c ≤ 'z') || c == '-' || c == '_'

/-- A name of plain characters. -/
def PlainName (name : List Char) : Prop :=
  name ≠ [] ∧ name.all isPlain = true

theorem ne_of_isPlain {c d : Char} (hc : isPlain c = true) (hd : isPlain d = false) : c ≠ d := by
  rintro rfl
  rw [hc] at hd
  contradiction

theorem isSpace_of_isPlain {c : Char} (h : isPlain c = true) : isSpace c = false := by
  have blank := ne_of_isPlain h (d := ' ') rfl
  have tab := ne_of_isPlain h (d := '\t') rfl
  have line := ne_of_isPlain h (d := '\r') rfl
  have feed := ne_of_isPlain h (d := '\n') rfl
  simp [isSpace, blank, tab, line, feed]

/-- The other characters do not stand in a plain name. -/
theorem PlainName.ne {name : List Char} (h : PlainName name) {c d : Char} (hc : c ∈ name)
    (hd : isPlain d = false) : c ≠ d :=
  ne_of_isPlain (List.all_eq_true.mp h.2 c hc) hd

theorem PlainName.not_mem {name : List Char} (h : PlainName name) {d : Char}
    (hd : isPlain d = false) : d ∉ name :=
  fun hc => h.ne hc hd rfl

theorem PlainName.isSpace_eq {name : List Char} (h : PlainName name) {c : Char}
    (hc : c ∈ name) : isSpace c = false :=
  isSpace_of_isPlain (List.all_eq_true.mp h.2 c hc)

theorem PlainName.quotesClosed {name : List Char} (h : PlainName name) : QuotesClosed name :=
  quotesClosed_of_plain fun _ hc => ⟨h.ne hc rfl, h.ne hc rfl, h.ne hc rfl⟩

/-- A plain name is its own local name. -/
theorem PlainName.localName_eq {name : List Char} (h : PlainName name) :
    localName name = name := by
  have none := (cut_ne_append (s := []) (h.not_mem (d := ':') rfl) nofun).2
  rw [List.append_nil] at none
  rw [localName, none]

namespace Tag

/-- How the start tag of an element is written. -/
def openingText (tag : Tag) : List Char := '<' :: (tag.inside ++ ['>'])

/-- How the tag of an element without content is written. -/
def singleText (tag : Tag) : List Char := '<' :: (tag.inside ++ ['/', '>'])

/-- How the end tag of an element is written. -/
def closingText (tag : Tag) : List Char := '<' :: '/' :: (tag.name ++ ['>'])

/-- A tag with a plain name and a tail that is set off from it and leaves no quote open. -/
structure Plain (tag : Tag) : Prop where
  name : PlainName tag.name
  tail : ∀ c ∈ tag.tail.head?, isSpace c = true
  last : tag.tail.getLast? ≠ some '/'
  closed : QuotesClosed tag.tail

/-- The tag of a plain name and nothing else. -/
theorem plain_of_name {name : List Char} (h : PlainName name) : Plain ⟨name, []⟩ :=
  ⟨h, nofun, nofun, quotesClosed_nil⟩

variable {tag : Tag}

theorem Plain.writable (h : tag.Plain) : tag.Writable where
  first c hc := by
    have mem : c ∈ tag.name := List.mem_of_mem_head? hc
    exact ⟨h.name.ne mem rfl, h.name.ne mem rfl, h.name.ne mem rfl⟩
  named := h.name.1
  name _ hc := h.name.isSpace_eq hc
  tail := h.tail
  closed := h.name.quotesClosed.append h.closed

theorem Plain.writtenAs_opening (h : tag.Plain) :
    (Markup.opening tag).WrittenAs tag.openingText := by
  refine Markup.writtenAs_opening h.writable fun slash => ?_
  rw [inside, List.getLast?_append] at slash
  cases last : tag.tail.getLast? with
  | none =>
    rw [last, Option.none_or] at slash
    exact h.name.not_mem rfl (List.mem_of_getLast? slash)
  | some c =>
    rw [last, Option.some_or] at slash
    exact h.last (last.trans slash)

theorem Plain.writtenAs_single (h : tag.Plain) :
    (Markup.single tag).WrittenAs tag.singleText :=
  Markup.writtenAs_single h.writable

theorem Plain.writtenAs_closing (h : tag.Plain) :
    (Markup.closing tag.name).WrittenAs tag.closingText :=
  Markup.writtenAs_closing (h.name.not_mem rfl)

theorem Plain.endName_eq (h : tag.Plain) : endName tag.name = tag.name := by
  unfold endName
  split
  · rfl
  · obtain ⟨front, c, same⟩ : ∃ front c, tag.name = front ++ [c] :=
      ⟨_, _, (List.dropLast_concat_getLast h.name.1).symm⟩
    have solid : isSpace c = false := h.name.isSpace_eq (by rw [same]; simp)
    rw [same, Text.trimEnd_append_of_not solid]

end Tag

/-- An element is written with a start tag and an end tag, or with a single tag if it is empty. -/
inductive ElementText (tag : Tag) : List Char → List Char → Prop
  | full (inside : List Char) :
      ElementText tag inside (tag.openingText ++ (inside ++ tag.closingText))
  | single : ElementText tag [] tag.singleText

/-- An element with its content stands in front of what follows it. -/
theorem Spells.of_element {tag : Tag} {s t : List Char} {inner c : Content} (h : tag.Plain)
    (hs : Spells s inner) (ht : Spells t c) :
    Spells (tag.openingText ++ (s ++ (tag.closingText ++ t))) (.element tag inner c) :=
  .element h.writtenAs_opening hs h.writtenAs_closing h.endName_eq ht

/-- An element with nothing in it ends at once. -/
theorem Spells.eq_close {c : Content} (h : Spells [] c) : c = .close := by
  generalize whole : ([] : List Char) = s at h
  cases h with
  | close => rfl
  | text nonempty => exact absurd (List.append_eq_nil_iff.mp whole.symm).1 nonempty
  | piece _ written | element written =>
    obtain ⟨d, inside, rfl, -⟩ := written
    cases whole

/-- Both texts of an element are read as this element. -/
theorem ElementText.spells {tag : Tag} {inside s t : List Char} {inner c : Content}
    (h : ElementText tag inside s) (plain : tag.Plain) (spelled : Spells inside inner)
    (ht : Spells t c) : Spells (s ++ t) (.element tag inner c) := by
  cases h with
  | full =>
    rw [List.append_assoc, List.append_assoc]
    exact .of_element plain spelled ht
  | single =>
    rw [spelled.eq_close]
    exact .piece rfl plain.writtenAs_single ht

theorem ElementText.atMarkup {tag : Tag} {inside s : List Char} (h : ElementText tag inside s)
    (t : List Char) : AtMarkup (s ++ t) := by
  cases h <;> exact atMarkup_cons _

/-- How a comment is written. -/
def commentText (content : List Char) : List Char :=
  "<!--".toList ++ content ++ "-->".toList

/-- How character data are written. -/
def characterDataText (content : List Char) : List Char :=
  "<![CDATA[".toList ++ content ++ "]]>".toList

/-- How an instruction is written. -/
def instructionText (content : List Char) : List Char :=
  '<' :: '?' :: (content ++ ['?', '>'])

theorem Spells.of_instruction {content t : List Char} {c : Content} (nonempty : content ≠ [])
    (h : '>' ∉ content) (ht : Spells t c) : Spells (instructionText content ++ t) (.aside c) :=
  .piece rfl (Markup.writtenAs_instruction nonempty h) ht

theorem Spells.of_comment {content t : List Char} {c : Content}
    (h : ¬ ['-', '-', '>'] <:+: content) (ht : Spells t c) :
    Spells (commentText content ++ t) (.aside c) :=
  .piece rfl (Markup.writtenAs_comment h) ht

theorem Spells.of_characterData {content t : List Char} {c : Content}
    (h : ¬ [']', ']', '>'] <:+: content) (ht : Spells t c) :
    Spells (characterDataText content ++ t) (.characterData content c) :=
  .piece rfl (Markup.writtenAs_characterData h) ht

/-! ## Elements in a row -/

/-- The text has the items one after the other, each as `item` says; white space and comments
stand anywhere between them. -/
inductive RowText {α : Type} (item : α → List Char → Prop) : List α → List Char → Prop
  | done : RowText item [] []
  | space {c : Char} {items : List α} {s : List Char} :
      isSpace c = true → RowText item items s → RowText item items (c :: s)
  | comment {content : List Char} {items : List α} {s : List Char} :
      ¬ ['-', '-', '>'] <:+: content → RowText item items s →
      RowText item items (commentText content ++ s)
  | item {a : α} {m : List Char} {items : List α} {s : List Char} :
      item a m → RowText item items s → RowText item (a :: items) (m ++ s)

/-- Reading the content meets the elements one after the other, and then the end. -/
def Content.IsRow : Content → List (Tag × Content) → Prop
  | c, [] => c.next true = .ok .close
  | c, (tag, inner) :: others =>
    ∃ after, c.next true = .ok (.element tag inner after) ∧ after.IsRow others

theorem Content.IsRow.of_next {c d : Content} {elements : List (Tag × Content)}
    (h : c.IsRow elements) (same : d.next true = c.next true) : d.IsRow elements := by
  cases elements with
  | nil => exact same.trans h
  | cons e others =>
    obtain ⟨after, next, row⟩ := h
    exact ⟨after, same.trans next, row⟩

/-- White space holds no markup. -/
theorem not_mem_of_spaces {w : List Char} (spaces : w.all isSpace = true) : '<' ∉ w := by
  intro bracket
  have space := List.all_eq_true.mp spaces _ bracket
  contradiction

/-- White space in front of a text does not count. -/
theorem Content.firstPart_of_spaces {w : List Char} (spaces : w.all isSpace = true) (t : List Char)
    (rest : Content) : firstPart true (w ++ t) rest = firstPart true t rest := by
  have trimmed : Text.trimStart isSpace (w ++ t) = Text.trimStart isSpace t := by
    unfold Text.trimStart
    exact List.dropWhile_append_of_pos (List.all_eq_true.mp spaces)
  rw [firstPart, firstPart, if_pos rfl, if_pos rfl, trimmed]

/-- White space alone is no text. -/
theorem Content.next_of_spaces {w : List Char} (spaces : w.all isSpace = true) (c : Content) :
    (text w c).next true = c.next true := by
  have none : firstPart true w c = [] := by
    have same := firstPart_of_spaces spaces [] c
    rw [List.append_nil] at same
    rw [same, firstPart, if_pos rfl, textPart]
    split <;> rfl
  rw [next, if_pos none]

/-- White space in front of markup is read as if it was not there. -/
theorem Spells.exists_of_spaces {w s : List Char} {c : Content} (h : Spells s c)
    (spaces : w.all isSpace = true) (start : AtMarkup s) :
    ∃ d, Spells (w ++ s) d ∧ d.next true = c.next true := by
  cases w with
  | nil => exact ⟨c, h, rfl⟩
  | cons b w =>
    exact ⟨.text (b :: w) c, .text (List.cons_ne_nil _ _) (not_mem_of_spaces spaces) start h,
      Content.next_of_spaces spaces c⟩

/-- Elements written in a row are read in a row, if each of the texts is an element that stands in
the relation `reads` to its item. -/
theorem RowText.exists_row {α : Type} {item : α → List Char → Prop}
    {reads : α → Tag × Content → Prop} {items : List α} {s : List Char}
    (h : RowText item items s)
    (each : ∀ a m, item a m → ∃ tag inside inner, reads a (tag, inner) ∧ tag.Plain ∧
      Spells inside inner ∧ ElementText tag inside m) :
    ∃ c elements, Spells s c ∧ c.IsRow elements ∧ List.Forall₂ reads items elements := by
  -- text is cut at markup only, so the white space that was passed comes with the next piece
  suffices behind : ∀ w : List Char, w.all isSpace = true → ∃ c elements, Spells (w ++ s) c ∧
      c.IsRow elements ∧ List.Forall₂ reads items elements from behind [] rfl
  induction h with
  | done =>
    intro w spaces
    obtain ⟨c, spelled, next⟩ := Spells.close.exists_of_spaces spaces atMarkup_nil
    exact ⟨c, [], spelled, next, .nil⟩
  | @space b items s space _ ih =>
    intro w spaces
    obtain ⟨c, elements, spelled, row, read⟩ := ih (w ++ [b]) (by simp_all)
    exact ⟨c, elements, by simpa using spelled, row, read⟩
  | @comment content items s free _ ih =>
    intro w spaces
    obtain ⟨c, elements, spelled, row, read⟩ := ih [] rfl
    obtain ⟨d, spelled', next⟩ :=
      (Spells.of_comment free spelled).exists_of_spaces spaces (atMarkup_cons _)
    exact ⟨d, elements, spelled', row.of_next next, read⟩
  | @item a m items s written _ ih =>
    intro w spaces
    obtain ⟨c, elements, spelled, row, read⟩ := ih [] rfl
    obtain ⟨tag, inside, inner, reads, plain, content, text⟩ := each a m written
    obtain ⟨d, spelled', next⟩ :=
      (text.spells plain content spelled).exists_of_spaces spaces (text.atMarkup s)
    exact ⟨d, (tag, inner) :: elements, spelled', ⟨c, next, row⟩, .cons reads read⟩

end StreamRemote.Xml
