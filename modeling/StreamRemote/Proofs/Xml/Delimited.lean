import StreamRemote.Xml.Markup
import StreamRemote.Proofs.Text.Cut

/-!
# Pieces of markup delimit themselves

A piece of markup says by itself where it ends, so it is read in the same way whatever stands
behind it. `Markup.WrittenAs` is this: a text that is a piece of markup in full.

Results:
1. `Markup.writtenAs_of_read`: each piece that is read is one in full, unless the text came to
   its end with it. Only then can an end tag or an instruction be read that is cut off, and no other
   piece can (`Markup.writtenAs_or_cut_of_read`).
2. `Markup.writtenAs_opening`, `writtenAs_single`, `writtenAs_closing`, `writtenAs_comment`,
   `writtenAs_characterData`: how pieces are written.
-/

namespace StreamRemote.Xml

/-- The text `source` is the piece in full: whatever stands behind it, it is read as this piece,
and reading stops right behind it. -/
def Markup.WrittenAs (piece : Markup) (source : List Char) : Prop :=
  ∃ c inside, source = '<' :: c :: inside ∧
    ∀ rest, Markup.read c (inside ++ rest) = .ok (piece, rest)

/-! ## Where a piece ends -/

namespace DelimitedLemmas

/-- A mark whose last character stands nowhere else in it does not overlap with itself. -/
theorem prefix_of_prefix_append {m i rest : List Char} {last : Char} (fresh : last ∉ m)
    (nonempty : i ≠ []) (h : m ++ [last] <+: i ++ (m ++ [last] ++ rest)) :
    m ++ [last] <+: i := by
  have positive : 0 < i.length := List.length_pos_iff.mpr nonempty
  by_cases fits : m.length < i.length
  · exact List.prefix_of_prefix_length_le h ⟨m ++ [last] ++ rest, rfl⟩ (by simp; omega)
  · obtain ⟨behind, same⟩ := h
    -- otherwise the last character would stand within the first part of the mark
    have place : (i ++ (m ++ [last] ++ rest))[m.length]? = some last := by
      rw [← same]
      simp
    rw [List.getElem?_append_right (by omega), List.append_assoc,
      List.getElem?_append_left (by omega)] at place
    exact absurd (List.mem_of_getElem? place) fresh

end DelimitedLemmas

open DelimitedLemmas

/-- A text is split at the first place where a mark stands. -/
theorem splitAt?_eq_some_iff {m s inside rest : List Char} {last : Char} (fresh : last ∉ m) :
    splitAt? (m ++ [last]) s = some (inside, rest) ↔
      s = inside ++ (m ++ [last] ++ rest) ∧ ¬ m ++ [last] <:+: inside := by
  induction s generalizing inside with
  | nil => simp [splitAt?]
  | cons c s ih =>
    rw [splitAt?]
    split
    · next found =>
      rw [List.isPrefixOf_iff_prefix] at found
      constructor
      · intro h
        cases h
        obtain ⟨behind, whole⟩ := found
        refine ⟨by rw [← whole, List.drop_left]; rfl, fun early => ?_⟩
        simpa using early.length_le
      · rintro ⟨same, first⟩
        cases inside with
        | nil =>
          rw [same, List.nil_append, List.drop_left]
        | cons d inside =>
          -- the mark found at the front would overlap with the one that ends the text
          rw [same] at found
          exact absurd (prefix_of_prefix_append fresh (by simp) found).isInfix first
    · next missing =>
      rw [List.isPrefixOf_iff_prefix] at missing
      constructor
      · intro h
        obtain ⟨⟨i, b⟩, found, same⟩ := Option.map_eq_some_iff.mp h
        cases same
        obtain ⟨whole, first⟩ := ih.mp found
        refine ⟨by rw [whole]; rfl, fun early => ?_⟩
        -- a mark within the part in front begins at its first character or behind it
        rcases List.infix_cons_iff.mp early with front | later
        · refine missing (front.trans ⟨m ++ [last] ++ rest, ?_⟩)
          rw [whole]
          rfl
        · exact first later
      · rintro ⟨same, first⟩
        cases inside with
        | nil => exact absurd ⟨rest, same.symm⟩ missing
        | cons d inside =>
          rw [List.cons_append, List.cons.injEq] at same
          obtain ⟨rfl, same⟩ := same
          have later : ¬ m ++ [last] <:+: inside := fun early =>
            first (List.infix_cons_iff.mpr (.inr early))
          rw [ih.mpr ⟨same, later⟩]
          rfl

/-- What is split off in front of a `>` that has no `<` is split off whatever stands behind. -/
theorem splitBalanced?_append {depth : Nat} {s inside rest : List Char}
    (h : splitBalanced? depth s = some (inside, rest)) :
    s = inside ++ '>' :: rest ∧
      ∀ rest', splitBalanced? depth (inside ++ '>' :: rest') = some (inside, rest') := by
  fun_induction splitBalanced? depth s generalizing inside rest with
  | case1 => contradiction
  | case2 s =>
    cases h
    exact ⟨rfl, fun rest' => by rw [List.nil_append, splitBalanced?]⟩
  | case3 depth s ih | case4 depth s ih =>
    obtain ⟨⟨i, b⟩, found, same⟩ := Option.map_eq_some_iff.mp h
    cases same
    obtain ⟨whole, again⟩ := ih found
    refine ⟨by rw [whole]; rfl, fun rest' => ?_⟩
    rw [List.cons_append, splitBalanced?, again]
    rfl
  | case5 depth c s zero succ less ih =>
    obtain ⟨⟨i, b⟩, found, same⟩ := Option.map_eq_some_iff.mp h
    cases same
    obtain ⟨whole, again⟩ := ih found
    refine ⟨by rw [whole]; rfl, fun rest' => ?_⟩
    rw [List.cons_append, splitBalanced?, again]
    · rfl
    · exact less
    · exact zero
    · exact succ

/-- What is split off in front of a `>` outside quotes is split off whatever stands behind. -/
theorem splitTag?_append {quote : Option Char} {s inside rest : List Char}
    (h : splitTag? quote s = some (inside, rest)) :
    s = inside ++ '>' :: rest ∧
      ∀ rest', splitTag? quote (inside ++ '>' :: rest') = some (inside, rest') := by
  fun_induction splitTag? quote s generalizing inside rest with
  | case1 => contradiction
  | case3 s =>
    cases h
    exact ⟨rfl, fun rest' => by rw [List.nil_append, splitTag?, if_pos rfl]⟩
  | case2 q c s ih =>
    obtain ⟨⟨i, b⟩, found, same⟩ := Option.map_eq_some_iff.mp h
    cases same
    obtain ⟨whole, again⟩ := ih found
    refine ⟨by rw [whole]; rfl, fun rest' => ?_⟩
    rw [List.cons_append, splitTag?, again]
    rfl
  | case4 c s other ih =>
    obtain ⟨⟨i, b⟩, found, same⟩ := Option.map_eq_some_iff.mp h
    cases same
    obtain ⟨whole, again⟩ := ih found
    refine ⟨by rw [whole]; rfl, fun rest' => ?_⟩
    rw [List.cons_append, splitTag?, if_neg other, again]
    rfl

/-- A text without `>` is split in front of the one that follows it. -/
theorem splitAngle_append {inside : List Char} (h : '>' ∉ inside) (rest : List Char) :
    splitAngle (inside ++ '>' :: rest) = (inside, rest) := by
  obtain ⟨taken, dropped⟩ := cut_ne_append (s := '>' :: rest) h (by simp)
  rw [splitAngle, taken, dropped]
  rfl

/-- A text without `>` is split at its end. -/
theorem splitAngle_of_not_mem {s : List Char} (h : '>' ∉ s) : splitAngle s = (s, []) := by
  obtain ⟨taken, dropped⟩ := cut_ne_append (s := []) h nofun
  rw [List.append_nil] at taken dropped
  rw [splitAngle, taken, dropped]
  rfl

/-- A text is split at its first `>`, or at its end. -/
theorem splitAngle_cases (s : List Char) :
    (∃ inside rest, s = inside ++ '>' :: rest ∧ '>' ∉ inside) ∨ splitAngle s = (s, []) := by
  by_cases h : '>' ∈ s
  · exact .inl (List.eq_append_cons_of_mem h)
  · exact .inr (splitAngle_of_not_mem h)

/-- A keyword is in front of whatever stands behind it. -/
theorem afterKeyword?_append {keyword s behind : List Char}
    (h : afterKeyword? keyword s = some behind) :
    ∃ word, s = word ++ behind ∧ word.length = keyword.length ∧
      ∀ behind', afterKeyword? keyword (word ++ behind') = some behind' := by
  unfold afterKeyword? at h
  split at h
  · next found =>
    cases h
    have long : (s.take keyword.length).length = keyword.length := by
      simpa using congrArg List.length found
    refine ⟨s.take keyword.length, (List.take_append_drop ..).symm, long, fun behind' => ?_⟩
    rw [afterKeyword?, List.take_left' long, if_pos found, List.drop_left' long]
  · contradiction

/-- A keyword in capitals is found where it stands. -/
theorem afterKeyword?_self {keyword : List Char} (capitals : keyword.map Char.toUpper = keyword)
    (rest : List Char) : afterKeyword? keyword (keyword ++ rest) = some rest := by
  rw [afterKeyword?, List.take_left, if_pos capitals, List.drop_left]

/-- A text between a keyword and a mark is found whatever stands behind the mark. -/
theorem afterKeyword?_bind_splitAt?_append {keyword m s inside rest : List Char} {last : Char}
    (fresh : last ∉ m)
    (h : (afterKeyword? keyword s).bind (splitAt? (m ++ [last])) = some (inside, rest)) :
    ∃ taken, s = taken ++ rest ∧ ∀ rest',
      (afterKeyword? keyword (taken ++ rest')).bind (splitAt? (m ++ [last])) =
        some (inside, rest') := by
  obtain ⟨t, found, split⟩ := Option.bind_eq_some_iff.mp h
  obtain ⟨word, rfl, -, again⟩ := afterKeyword?_append found
  obtain ⟨rfl, first⟩ := (splitAt?_eq_some_iff fresh).mp split
  refine ⟨word ++ (inside ++ (m ++ [last])), by simp, fun rest' => ?_⟩
  have later : splitAt? (m ++ [last]) (inside ++ (m ++ [last] ++ rest')) = some (inside, rest') :=
    (splitAt?_eq_some_iff fresh).mpr ⟨rfl, first⟩
  rw [List.append_assoc, List.append_assoc, again, Option.bind_some, later]

/-! ## What is read is delimited -/

/-- The reader takes the part of a text in front of `rest`, and takes the same part whatever
stands there instead. -/
def Delimits (read : List Char → Except Fault (Markup × List Char)) (s : List Char)
    (piece : Markup) (rest : List Char) : Prop :=
  ∃ inside, s = inside ++ rest ∧ ∀ rest', read (inside ++ rest') = .ok (piece, rest')

/-- A reader that reads nothing from nothing takes the first character at least. -/
theorem Delimits.behind_first {read : List Char → Except Fault (Markup × List Char)} {c : Char}
    {s rest : List Char} {piece : Markup} (h : Delimits read (c :: s) piece rest)
    (nothing : ∀ result, read [] ≠ .ok result) :
    Delimits (fun t => read (c :: t)) s piece rest := by
  obtain ⟨inside, same, again⟩ := h
  cases inside with
  | nil => exact absurd (again []) (nothing _)
  | cons d inside =>
    rw [List.cons_append, List.cons.injEq] at same
    obtain ⟨rfl, same⟩ := same
    exact ⟨inside, same, again⟩

theorem delimits_readComment {s rest : List Char} {piece : Markup}
    (h : readComment s = .ok (piece, rest)) : Delimits readComment s piece rest := by
  unfold readComment at h
  split at h
  · next inside behind found =>
    cases h
    obtain ⟨taken, whole, again⟩ :=
      afterKeyword?_bind_splitAt?_append (m := ['-', '-']) (by decide) found
    refine ⟨taken, whole, fun rest' => ?_⟩
    unfold readComment
    simp only [List.cons_append, List.nil_append] at again
    rw [again]
  · contradiction

theorem delimits_readCharacterData {s rest : List Char} {piece : Markup}
    (h : readCharacterData s = .ok (piece, rest)) :
    Delimits readCharacterData s piece rest := by
  unfold readCharacterData at h
  split at h
  · next inside behind found =>
    cases h
    obtain ⟨taken, whole, again⟩ :=
      afterKeyword?_bind_splitAt?_append (m := [']', ']']) (by decide) found
    refine ⟨taken, whole, fun rest' => ?_⟩
    unfold readCharacterData
    simp only [List.cons_append, List.nil_append] at again
    rw [again]
  · contradiction

theorem delimits_readDoctype {s rest : List Char} {piece : Markup}
    (h : readDoctype s = .ok (piece, rest)) : Delimits readDoctype s piece rest := by
  unfold readDoctype at h
  split at h
  · contradiction
  · next inside behind found =>
    obtain ⟨rfl, again⟩ := splitBalanced?_append found
    split at h
    · contradiction
    · next declared keyword =>
      split at h
      · contradiction
      · next content =>
        cases h
        refine ⟨inside ++ ['>'], by simp, fun rest' => ?_⟩
        rw [readDoctype, List.append_assoc, List.singleton_append, again]
        simp only [keyword]
        rw [if_neg content]

theorem delimits_readDeclaration {s rest : List Char} {piece : Markup}
    (h : readDeclaration s = .ok (piece, rest)) : Delimits readDeclaration s piece rest := by
  cases s with
  | nil => contradiction
  | cons c s =>
    suffices taken : Delimits (fun t => readDeclaration (c :: t)) s piece rest by
      obtain ⟨inside, whole, again⟩ := taken
      exact ⟨c :: inside, by rw [whole]; rfl, again⟩
    simp only [readDeclaration] at h ⊢
    split at h
    · next dash =>
      simp only [if_pos dash]
      exact (delimits_readComment h).behind_first (by simp [readComment, afterKeyword?])
    · next dash =>
      simp only [if_neg dash]
      split at h
      · next bracket =>
        simp only [if_pos bracket]
        exact (delimits_readCharacterData h).behind_first
          (by simp [readCharacterData, afterKeyword?])
      · next bracket =>
        simp only [if_neg bracket]
        split at h
        · next letter =>
          simp only [if_pos letter]
          exact (delimits_readDoctype h).behind_first (by simp [readDoctype, splitBalanced?])
        · contradiction

theorem delimits_readInstruction {s rest : List Char} {piece : Markup}
    (h : readInstruction s = .ok (piece, rest)) :
    Delimits readInstruction s piece rest ∨ rest = [] ∧ piece = .instruction := by
  simp only [readInstruction] at h
  rcases splitAngle_cases s with ⟨inside, behind, rfl, first⟩ | ended
  · rw [splitAngle_append first] at h
    split at h
    · next finished =>
      cases h
      refine .inl ⟨inside ++ ['>'], by simp, fun rest' => ?_⟩
      rw [List.append_assoc, List.singleton_append, readInstruction, splitAngle_append first]
      simp only [if_pos finished]
    · contradiction
  · rw [ended] at h
    split at h
    · cases h
      exact .inr ⟨rfl, rfl⟩
    · contradiction

theorem delimits_readStartTag {s rest : List Char} {piece : Markup}
    (h : readStartTag s = .ok (piece, rest)) : Delimits readStartTag s piece rest := by
  unfold readStartTag at h
  split at h
  · contradiction
  · next inside behind found =>
    obtain ⟨rfl, again⟩ := splitTag?_append found
    split at h
    · next slash =>
      cases h
      refine ⟨inside ++ ['>'], by simp, fun rest' => ?_⟩
      rw [readStartTag, List.append_assoc, List.singleton_append, again]
      simp only [if_pos slash]
    · next slash =>
      cases h
      refine ⟨inside ++ ['>'], by simp, fun rest' => ?_⟩
      rw [readStartTag, List.append_assoc, List.singleton_append, again]
      simp only [if_neg slash]

/-- The piece behind a slash is an end tag. -/
theorem Markup.read_slash (s : List Char) :
    Markup.read '/' s = .ok (.closing (splitAngle s).1, (splitAngle s).2) := rfl

/-- A piece that is read is a piece in full, unless it is an instruction or an end tag that the text
ends with. -/
theorem Markup.writtenAs_or_cut_of_read {c : Char} {s rest : List Char} {piece : Markup}
    (h : Markup.read c s = .ok (piece, rest)) :
    ∃ inside, s = inside ++ rest ∧
      (piece.WrittenAs ('<' :: c :: inside) ∨ rest = [] ∧ (piece = .instruction ∨ c = '/')) := by
  suffices taken : Delimits (Markup.read c) s piece rest ∨
      rest = [] ∧ (piece = .instruction ∨ c = '/') by
    rcases taken with ⟨inside, whole, again⟩ | ⟨ended, cut⟩
    · exact ⟨inside, whole, .inl ⟨c, inside, rfl, again⟩⟩
    · exact ⟨s, by rw [ended, List.append_nil], .inr ⟨ended, cut⟩⟩
  simp only [Markup.read] at h
  unfold Markup.read
  split at h
  · next bang =>
    simp only [if_pos bang]
    exact .inl (delimits_readDeclaration h)
  · next bang =>
    simp only [if_neg bang]
    split at h
    · next question =>
      simp only [if_pos question]
      exact (delimits_readInstruction h).imp_right (And.imp_right Or.inl)
    · next question =>
      simp only [if_neg question]
      split at h
      · next slash =>
        simp only [if_pos slash]
        cases h
        rcases splitAngle_cases s with ⟨inside, behind, rfl, first⟩ | ended
        · refine .inl ⟨inside ++ ['>'], ?_, fun rest' => ?_⟩
          · rw [splitAngle_append first]
            simp
          · simp only [List.append_assoc, List.singleton_append, splitAngle_append first]
        · exact .inr ⟨by rw [ended], .inr slash⟩
      · next slash =>
        simp only [if_neg slash]
        exact .inl ((delimits_readStartTag h).behind_first (by simp [readStartTag, splitTag?]))

/-- A piece that is read is a piece in full, unless the text ends with it. -/
theorem Markup.writtenAs_of_read {c : Char} {s rest : List Char} {piece : Markup}
    (h : Markup.read c s = .ok (piece, rest)) :
    ∃ inside, s = inside ++ rest ∧ (piece.WrittenAs ('<' :: c :: inside) ∨ rest = []) := by
  obtain ⟨inside, whole, written⟩ := writtenAs_or_cut_of_read h
  exact ⟨inside, whole, written.imp_right And.left⟩

/-! ## How pieces are written -/

/-- Reading a tag goes through the text and on behind it: it has no `>` outside quotes, and each
quote in it is closed in it. -/
def QuotesClosed (t : List Char) : Prop :=
  ∀ s, splitTag? none (t ++ s) = (splitTag? none s).map fun (i, b) => (t ++ i, b)

theorem quotesClosed_nil : QuotesClosed [] := fun s => by simp

theorem QuotesClosed.append {s t : List Char} (hs : QuotesClosed s) (ht : QuotesClosed t) :
    QuotesClosed (s ++ t) := by
  intro rest
  rw [List.append_assoc, hs, ht, Option.map_map]
  exact congrFun (congrArg _ (funext fun ⟨i, b⟩ => by simp)) _

theorem quotesClosed_of_plain {t : List Char}
    (plain : ∀ c ∈ t, c ≠ '>' ∧ c ≠ '"' ∧ c ≠ '\'') : QuotesClosed t := by
  induction t with
  | nil => exact quotesClosed_nil
  | cons c t ih =>
    intro s
    obtain ⟨angle, double, single⟩ := plain c List.mem_cons_self
    rw [List.cons_append, splitTag?, if_neg angle, if_neg (by simp [double, single]),
      ih fun d hd => plain d (List.mem_cons_of_mem _ hd), Option.map_map]
    rfl

/-- A value in quotes goes up to the next quote of the same kind. -/
theorem splitTag?_quoted {q : Char} {v : List Char} (closed : q ∉ v) (s : List Char) :
    splitTag? (some q) (v ++ q :: s) = (splitTag? none s).map fun (i, b) => (v ++ q :: i, b) := by
  induction v with
  | nil => rw [List.nil_append, splitTag?, if_pos rfl]; rfl
  | cons c v ih =>
    rw [List.mem_cons, not_or] at closed
    rw [List.cons_append, splitTag?, if_neg (Ne.symm closed.1), ih closed.2, Option.map_map]
    rfl

theorem quotesClosed_quoted {v : List Char} (closed : '"' ∉ v) :
    QuotesClosed ('"' :: (v ++ ['"'])) := by
  intro s
  rw [List.cons_append, List.append_assoc, List.singleton_append, splitTag?,
    if_neg (by decide), if_pos (by decide), splitTag?_quoted closed, Option.map_map]
  exact congrFun (congrArg _ (funext fun ⟨i, b⟩ => by simp)) _

/-- A tag of which the text tells name and tail apart, and of which no quote is left open. -/
structure Tag.Writable (tag : Tag) : Prop where
  first : ∀ c ∈ tag.name.head?, c ≠ '!' ∧ c ≠ '?' ∧ c ≠ '/'
  named : tag.name ≠ []
  name : ∀ c ∈ tag.name, isSpace c = false
  tail : ∀ c ∈ tag.tail.head?, isSpace c = true
  closed : QuotesClosed (tag.name ++ tag.tail)

namespace Tag

variable {tag : Tag}

/-- The text of a tag between its angles, but for the slash of an element without content. -/
def inside (tag : Tag) : List Char := tag.name ++ tag.tail

theorem Writable.ofInside (h : tag.Writable) : Tag.ofInside tag.inside = tag := by
  have inName : ∀ c ∈ tag.name, (!isSpace c) = true := by
    intro c hc
    rw [h.name c hc]
    rfl
  have behind : ∀ c ∈ tag.tail.head?, (!isSpace c) = false := by
    intro c hc
    rw [h.tail c hc]
    rfl
  obtain ⟨taken, dropped⟩ := cut_append inName behind
  rw [Tag.ofInside, inside, taken, dropped]

theorem Writable.read (h : tag.Writable) {piece : Markup} {s : List Char}
    (start : ∀ rest, readStartTag (tag.inside ++ (s ++ rest)) = .ok (piece, rest)) :
    piece.WrittenAs ('<' :: (tag.inside ++ s)) := by
  obtain ⟨name, tail⟩ := tag
  cases name with
  | nil => exact absurd rfl h.named
  | cons c name =>
    obtain ⟨bang, question, slash⟩ := h.first c rfl
    refine ⟨c, name ++ tail ++ s, by simp [inside], fun rest => ?_⟩
    rw [Markup.read, if_neg bang, if_neg question, if_neg slash]
    simpa [inside] using start rest

end Tag

theorem Markup.writtenAs_opening {tag : Tag} (h : tag.Writable)
    (full : tag.inside.getLast? ≠ some '/') :
    (Markup.opening tag).WrittenAs ('<' :: (tag.inside ++ ['>'])) := by
  refine h.read fun rest => ?_
  have split : splitTag? none (tag.inside ++ '>' :: rest) = some (tag.inside, rest) := by
    rw [Tag.inside, h.closed, splitTag?, if_pos rfl]
    simp
  rw [readStartTag, List.singleton_append, split]
  simp only [if_neg full, h.ofInside]

theorem Markup.writtenAs_single {tag : Tag} (h : tag.Writable) :
    (Markup.single tag).WrittenAs ('<' :: (tag.inside ++ ['/', '>'])) := by
  refine h.read fun rest => ?_
  have split : splitTag? none (tag.inside ++ '/' :: '>' :: rest) =
      some (tag.inside ++ ['/'], rest) := by
    rw [Tag.inside, h.closed, splitTag?, if_neg (by decide), if_neg (by decide), splitTag?,
      if_pos rfl]
    rfl
  rw [readStartTag, List.cons_append, List.singleton_append, split]
  simp [h.ofInside]

theorem Markup.writtenAs_closing {inside : List Char} (h : '>' ∉ inside) :
    (Markup.closing inside).WrittenAs ('<' :: '/' :: (inside ++ ['>'])) := by
  refine ⟨'/', inside ++ ['>'], rfl, fun rest => ?_⟩
  rw [List.append_assoc, List.singleton_append, Markup.read, if_neg (by decide),
    if_neg (by decide), if_pos rfl, splitAngle_append h]

/-- An instruction holds anything but the mark that ends it, and is not empty. -/
theorem Markup.writtenAs_instruction {content : List Char} (nonempty : content ≠ [])
    (h : '>' ∉ content) :
    Markup.instruction.WrittenAs ('<' :: '?' :: (content ++ ['?', '>'])) := by
  refine ⟨'?', content ++ ['?', '>'], rfl, fun rest => ?_⟩
  have split : splitAngle ((content ++ ['?']) ++ '>' :: rest) = (content ++ ['?'], rest) :=
    splitAngle_append (by simp [h]) rest
  have long : 2 ≤ (content ++ ['?']).length ∧ (content ++ ['?']).getLast? = some '?' := by
    have positive := List.length_pos_iff.mpr nonempty
    simp
    omega
  have same : content ++ ['?', '>'] ++ rest = (content ++ ['?']) ++ '>' :: rest := by simp
  rw [same, Markup.read, if_neg (by decide), if_pos rfl, readInstruction, split]
  simp only [if_pos long]

/-- A comment holds anything but the mark that ends it. -/
theorem Markup.writtenAs_comment {content : List Char} (h : ¬ ['-', '-', '>'] <:+: content) :
    Markup.comment.WrittenAs ("<!--".toList ++ content ++ "-->".toList) := by
  refine ⟨'!', ['-', '-'] ++ (content ++ "-->".toList), rfl, fun rest => ?_⟩
  have split : splitAt? ['-', '-', '>'] (content ++ ("-->".toList ++ rest)) =
      some (content, rest) :=
    (splitAt?_eq_some_iff (m := ['-', '-']) (by decide)).mpr ⟨rfl, h⟩
  have found : readComment (['-', '-'] ++ (content ++ ("-->".toList ++ rest))) =
      .ok (.comment, rest) := by
    rw [readComment, afterKeyword?_self rfl, Option.bind_some, split]
  rw [Markup.read, if_pos rfl, List.append_assoc, List.append_assoc]
  exact found

/-- Character data holds anything but the mark that ends it. -/
theorem Markup.writtenAs_characterData {content : List Char}
    (h : ¬ [']', ']', '>'] <:+: content) :
    (Markup.characterData content).WrittenAs
      ("<![CDATA[".toList ++ content ++ "]]>".toList) := by
  refine ⟨'!', "[CDATA[".toList ++ (content ++ "]]>".toList), rfl, fun rest => ?_⟩
  have split : splitAt? [']', ']', '>'] (content ++ ("]]>".toList ++ rest)) =
      some (content, rest) :=
    (splitAt?_eq_some_iff (m := [']', ']']) (by decide)).mpr ⟨rfl, h⟩
  have found : readCharacterData ("[CDATA[".toList ++ (content ++ ("]]>".toList ++ rest))) =
      .ok (.characterData content, rest) := by
    rw [readCharacterData, afterKeyword?_self rfl, Option.bind_some, split]
  rw [Markup.read, if_pos rfl, List.append_assoc, List.append_assoc]
  exact found

end StreamRemote.Xml
