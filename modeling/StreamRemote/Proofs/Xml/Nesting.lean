import StreamRemote.Xml.Content
import StreamRemote.Proofs.Xml.Delimited

/-!
# What stands inside an element

`Spells s c` relates a text to the content that it is: the text `s` is what stands inside an
element, up to its end tag, and `c` the content read from it.

Results:
1. `scanStep`: all that reading on in a text can do.
2. `Spells.nest_scan`: a text that spells a content is read as this content, whatever elements
   are open around it and whatever stands behind it.
3. `endsElement_of_closes`: conversely, a content that comes to its end is spelled by the text up
   to the end tag.
-/

namespace StreamRemote.Xml

/-! ## Contents -/

/-- The content comes to the end of its element. -/
def Content.closes : Content → Bool
  | close => true
  | eof | fault _ => false
  | text _ rest | characterData _ rest | doctype rest | aside rest | element _ _ rest =>
    rest.closes

/-- Goes on with another content at the end of the first. -/
def Content.append : Content → Content → Content
  | close, d => d
  | eof, _ => eof
  | fault cause, _ => fault cause
  | text s rest, d => text s (rest.append d)
  | characterData s rest, d => characterData s (rest.append d)
  | doctype rest, d => doctype (rest.append d)
  | aside rest, d => aside (rest.append d)
  | element tag inner rest, d => element tag inner (rest.append d)

@[simp] theorem Content.append_close (c : Content) : c.append .close = c := by
  induction c <;> simp_all [append]

/-- What a piece of markup that neither opens nor closes an element puts in front of a content. -/
def Markup.alone? : Markup → Option (Content → Content)
  | comment | instruction => some .aside
  | characterData t => some (.characterData t)
  | doctype => some .doctype
  | single tag => some (.element tag .close)
  | opening _ | closing _ => none

theorem Markup.closes_alone {piece : Markup} {put : Content → Content}
    (h : piece.alone? = some put) (c : Content) : (put c).closes = c.closes := by
  cases piece <;> cases h <;> rfl

theorem Markup.append_alone {piece : Markup} {put : Content → Content}
    (h : piece.alone? = some put) (c d : Content) : (put c).append d = put (c.append d) := by
  cases piece <;> cases h <;> rfl

/-- A text that begins with a piece of markup, or is empty. -/
def AtMarkup (s : List Char) : Prop :=
  ∀ c ∈ s.head?, c = '<'

theorem atMarkup_nil : AtMarkup [] := nofun

theorem atMarkup_cons (s : List Char) : AtMarkup ('<' :: s) := by
  rintro c ⟨⟩
  rfl

theorem AtMarkup.of_append {s t : List Char} (h : AtMarkup (s ++ t)) : AtMarkup s := by
  cases s with
  | nil => exact atMarkup_nil
  | cons c s => exact fun d hd => h d hd

theorem AtMarkup.append {s t : List Char} (hs : AtMarkup s) (ht : AtMarkup t) :
    AtMarkup (s ++ t) := by
  cases s with
  | nil => exact ht
  | cons c s => exact fun d hd => hs d hd

theorem Markup.WrittenAs.atMarkup {piece : Markup} {m : List Char} (h : piece.WrittenAs m)
    (s : List Char) : AtMarkup (m ++ s) := by
  obtain ⟨c, inside, rfl, -⟩ := h
  exact atMarkup_cons _

/-- The text is what stands inside an element, and the content what it is read as. -/
inductive Spells : List Char → Content → Prop
  | close : Spells [] .close
  | text {t s : List Char} {c : Content} : t ≠ [] → '<' ∉ t → AtMarkup s → Spells s c →
      Spells (t ++ s) (.text t c)
  | piece {piece : Markup} {put : Content → Content} {m s : List Char} {c : Content} :
      piece.alone? = some put → piece.WrittenAs m → Spells s c → Spells (m ++ s) (put c)
  | element {tag : Tag} {m s k x t : List Char} {inner c : Content} :
      (Markup.opening tag).WrittenAs m → Spells s inner → (Markup.closing x).WrittenAs k →
      endName x = tag.name → Spells t c → Spells (m ++ (s ++ (k ++ t))) (.element tag inner c)

/-! ## What a text is scanned as -/

namespace NestingLemmas

theorem scan_text (names : List (List Char)) {t s : List Char} (nonempty : t ≠ [])
    (plain : '<' ∉ t) (next : AtMarkup s) :
    Stream.scan names (t ++ s) = .token (.text t) (Stream.scan names s) := by
  cases t with
  | nil => contradiction
  | cons c t =>
    rw [List.mem_cons, not_or] at plain
    obtain ⟨taken, dropped⟩ := cut_ne_append plain.2 next
    rw [List.cons_append, Stream.scan, taken, dropped]
    · exact fun same => absurd same.symm plain.1
    · exact fun _ _ same => absurd same.symm plain.1

theorem scan_fault (names : List (List Char)) {c : Char} {s : List Char} {cause : Fault}
    (h : Markup.read c s = .error cause) : Stream.scan names ('<' :: c :: s) = .fault cause := by
  rw [Stream.scan]
  split
  · next failed =>
    rw [h] at failed
    cases failed
    rfl
  · next read => rw [h] at read; contradiction

theorem scan_read (names : List (List Char)) {c : Char} {s rest : List Char} {piece : Markup}
    (h : Markup.read c s = .ok (piece, rest)) :
    Stream.scan names ('<' :: c :: s) =
      match piece.tokens names with
      | .error f => .fault f
      | .ok (tokens, names) => (Stream.scan names rest).prepend tokens := by
  rw [Stream.scan]
  split
  · next failed => rw [h] at failed; contradiction
  · next read =>
    rw [h] at read
    cases read
    rfl

theorem scan_writtenAs (names : List (List Char)) {m : List Char} {piece : Markup}
    (h : piece.WrittenAs m) (rest : List Char) :
    Stream.scan names (m ++ rest) =
      match piece.tokens names with
      | .error f => .fault f
      | .ok (tokens, names) => (Stream.scan names rest).prepend tokens := by
  obtain ⟨c, inside, rfl, read⟩ := h
  exact scan_read names (read rest)

/-- A piece that stands by itself is put in front of the content that follows it. -/
theorem nest_prepend_alone {piece : Markup} {put : Content → Content}
    (h : piece.alone? = some put) (names : List (List Char)) :
    ∃ tokens, piece.tokens names = .ok (tokens, names) ∧
      ∀ (stream : Stream) (here : Content) (outer : List Content),
        stream.nest = here :: outer → (stream.prepend tokens).nest = put here :: outer := by
  cases piece <;> cases h <;> refine ⟨_, rfl, fun stream here outer nested => ?_⟩ <;>
    simp only [Stream.prepend_cons, Stream.prepend_nil, Stream.nest, nested]

theorem nest_scan_alone {piece : Markup} {put : Content → Content}
    (h : piece.alone? = some put) {names : List (List Char)} {c : Char} {s rest : List Char}
    (read : Markup.read c s = .ok (piece, rest)) {here : Content} {outer : List Content}
    (nested : (Stream.scan names rest).nest = here :: outer) :
    (Stream.scan names ('<' :: c :: s)).nest = put here :: outer := by
  obtain ⟨tokens, gives, puts⟩ := nest_prepend_alone h names
  rw [scan_read names read, gives]
  exact puts _ _ _ nested

end NestingLemmas

open NestingLemmas

/-- A text that spells a content is read as this content, and reading goes on behind it. -/
theorem Spells.nest_scan {s : List Char} {c : Content} (h : Spells s c)
    {names : List (List Char)} {rest : List Char} {here : Content} {outer : List Content}
    (next : AtMarkup rest) (behind : (Stream.scan names rest).nest = here :: outer) :
    (Stream.scan names (s ++ rest)).nest = c.append here :: outer := by
  induction h generalizing names rest here outer with
  | close => exact behind
  | @text t s c nonempty plain start _ ih =>
    rw [List.append_assoc, scan_text names nonempty plain (start.append next)]
    simp only [Stream.nest, ih next behind]
    rfl
  | piece alone written _ ih =>
    obtain ⟨d, inside, rfl, read⟩ := written
    rw [Markup.append_alone alone, List.append_assoc]
    exact nest_scan_alone alone (read _) (ih next behind)
  | @element tag m s k x t inner c opening _ closing same _ innerIh ih =>
    have closed : (Stream.scan (tag.name :: names) (k ++ (t ++ rest))).nest =
        .close :: c.append here :: outer := by
      rw [scan_writtenAs _ closing]
      simp only [Markup.tokens, same, if_true, Stream.prepend_cons, Stream.prepend_nil,
        Stream.nest, ih next behind]
    -- what follows the content inside is the end tag, and behind that the content goes on
    have inside := innerIh (closing.atMarkup _) closed
    rw [List.append_assoc, scan_writtenAs names opening]
    simp only [Markup.tokens, Stream.prepend_cons, Stream.prepend_nil, Stream.nest,
      List.append_assoc, inside, Content.append_close]
    rfl

/-! ## What reading on can do -/

/-- Reading on in a text within the elements `names`: what comes first in it decides the content of
the innermost element and the contents that follow around it. -/
inductive ScanStep (names : List (List Char)) : List Char → Content → List Content → Prop
  | eof {s : List Char} : ScanStep names s .eof []
  | fault {s : List Char} {cause : Fault} : ScanStep names s (.fault cause) []
  | text {t rest : List Char} {here : Content} {outer : List Content} :
      t ≠ [] → '<' ∉ t → AtMarkup rest → (Stream.scan names rest).nest = here :: outer →
      ScanStep names (t ++ rest) (.text t here) outer
  | alone {piece : Markup} {put : Content → Content} {d : Char} {s rest : List Char}
      {here : Content} {outer : List Content} :
      piece.alone? = some put → Markup.read d s = .ok (piece, rest) →
      (Stream.scan names rest).nest = here :: outer →
      ScanStep names ('<' :: d :: s) (put here) outer
  | opening {tag : Tag} {d : Char} {s rest : List Char} {inner here : Content}
      {outer : List Content} :
      Markup.read d s = .ok (.opening tag, rest) →
      (Stream.scan (tag.name :: names) rest).nest = inner :: here :: outer →
      ScanStep names ('<' :: d :: s) (.element tag inner here) outer
  | unclosed {tag : Tag} {d : Char} {s rest : List Char} {inner : Content} :
      Markup.read d s = .ok (.opening tag, rest) →
      (Stream.scan (tag.name :: names) rest).nest = [inner] →
      ScanStep names ('<' :: d :: s) (.element tag inner .eof) []
  | closing {found : List Char} {others : List (List Char)} {d : Char} {s rest : List Char}
      {outer : List Content} :
      names = endName found :: others → Markup.read d s = .ok (.closing found, rest) →
      (Stream.scan others rest).nest = outer → ScanStep names ('<' :: d :: s) .close outer

namespace NestingLemmas

/-- A text that does not begin with markup has text in front of its first markup. -/
theorem exists_text {d : Char} (s : List Char) (plain : d ≠ '<') :
    ∃ t rest, d :: s = t ++ rest ∧ t ≠ [] ∧ '<' ∉ t ∧ AtMarkup rest := by
  by_cases h : '<' ∈ d :: s
  · obtain ⟨t, rest, same, first⟩ := List.eq_append_cons_of_mem h
    refine ⟨t, '<' :: rest, same, ?_, first, atMarkup_cons rest⟩
    rintro rfl
    cases same
    contradiction
  · exact ⟨d :: s, [], by simp, by simp, h, atMarkup_nil⟩

/-- There is always a content to go on with. -/
theorem exists_nest (stream : Stream) : ∃ here outer, stream.nest = here :: outer :=
  List.exists_cons_of_ne_nil stream.nest_ne_nil

end NestingLemmas

/-- What a piece of markup in front of a text does to the content. -/
theorem scanStep_of_read {names : List (List Char)} {d : Char} {s rest : List Char}
    {piece : Markup} {c : Content} {outer : List Content}
    (read : Markup.read d s = .ok (piece, rest))
    (h : (Stream.scan names ('<' :: d :: s)).nest = c :: outer) :
    ScanStep names ('<' :: d :: s) c outer := by
  cases alone : piece.alone? with
  | some put =>
    obtain ⟨here, others, nested⟩ := exists_nest (Stream.scan names rest)
    rw [nest_scan_alone alone read nested] at h
    cases h
    exact .alone alone read nested
  | none =>
    rw [scan_read names read] at h
    cases piece with
    | closing found =>
      cases names with
      | nil =>
        cases h
        exact .fault
      | cons name others =>
        by_cases same : endName found = name
        · simp only [Markup.tokens, if_pos same, Stream.prepend_cons, Stream.prepend_nil,
            Stream.nest] at h
          cases h
          exact .closing (by rw [same]) read rfl
        · simp only [Markup.tokens, if_neg same] at h
          cases h
          exact .fault
    | opening tag =>
      simp only [Markup.tokens, Stream.prepend_cons, Stream.prepend_nil] at h
      obtain ⟨inner, others, nested⟩ := exists_nest (Stream.scan (tag.name :: names) rest)
      cases others with
      | nil =>
        simp only [Stream.nest, nested] at h
        cases h
        exact .unclosed read nested
      | cons here others =>
        simp only [Stream.nest, nested] at h
        cases h
        exact .opening read nested
    | _ => contradiction

/-- All that reading on in a text can do. -/
theorem scanStep {names : List (List Char)} {s : List Char} {c : Content}
    {outer : List Content} (h : (Stream.scan names s).nest = c :: outer) :
    ScanStep names s c outer := by
  cases s with
  | nil =>
    rw [Stream.scan] at h
    cases h
    exact .eof
  | cons d s =>
    by_cases bracket : d = '<'
    · subst bracket
      cases s with
      | nil =>
        rw [Stream.scan] at h
        cases h
        exact .eof
      | cons d s =>
        cases read : Markup.read d s with
        | error cause =>
          rw [scan_fault names read] at h
          cases h
          exact .fault
        | ok result => exact scanStep_of_read read h
    · obtain ⟨t, rest, whole, nonempty, plain, start⟩ := exists_text s bracket
      rw [whole] at h ⊢
      rw [scan_text names nonempty plain start] at h
      obtain ⟨here, others, nested⟩ := exists_nest (Stream.scan names rest)
      simp only [Stream.nest, nested] at h
      cases h
      exact .text nonempty plain start nested

/-! ## What a content is spelled by -/

namespace NestingLemmas

/-- Of the contents of the elements that are open, all but that of the outermost one come to
their end. -/
theorem closes_of_mem_dropLast {stream : Stream} {c : Content}
    (h : c ∈ stream.nest.dropLast) : c.closes = true := by
  induction stream generalizing c with
  | done | fault f => simp [Stream.nest] at h
  | token t rest ih =>
    obtain ⟨here, outer, nested⟩ := exists_nest rest
    rw [nested] at ih
    cases t with
    | closing =>
      simp only [Stream.nest, nested, List.dropLast_cons_cons, List.mem_cons] at h
      rcases h with rfl | h
      · rfl
      · exact ih h
    | opening tag =>
      -- the content of the element becomes a part of the content around it
      rcases outer with _ | ⟨here', _ | ⟨next, outer⟩⟩
      · simp [Stream.nest, nested] at h
      · simp [Stream.nest, nested] at h
      · simp only [Stream.nest, nested, List.dropLast_cons_cons, List.mem_cons] at h ih
        rcases h with rfl | h
        · show here'.closes = true
          exact ih (.inr (.inl rfl))
        · exact ih (.inr (.inr h))
    | text s | characterData s | doctype | aside =>
      cases outer with
      | nil => simp [Stream.nest, nested] at h
      | cons next outer =>
        simp only [Stream.nest, nested, List.dropLast_cons_cons, List.mem_cons] at h ih
        rcases h with rfl | h
        · show here.closes = true
          exact ih (.inl rfl)
        · exact ih (.inr h)

/-- An element is open inside another one only until it comes to its end. -/
theorem closes_of_nest {stream : Stream} {inner here : Content} {outer : List Content}
    (h : stream.nest = inner :: here :: outer) : inner.closes = true := by
  have front : inner ∈ stream.nest.dropLast := by
    rw [h]
    simp
  exact closes_of_mem_dropLast front

/-- A content that comes to its end is not read from nothing. -/
theorem ne_nil_of_closes {names : List (List Char)} {s : List Char} {c : Content}
    {outer : List Content} (h : (Stream.scan names s).nest = c :: outer)
    (closes : c.closes = true) : s ≠ [] := by
  rintro rfl
  rw [Stream.scan] at h
  cases h
  contradiction

end NestingLemmas

/-- The text `s`, read within the elements `names`, is the content `c` of the innermost of them,
then its end tag, and then what is left for the elements around it. -/
def EndsElement (names : List (List Char)) (s : List Char) (c : Content)
    (outer : List Content) : Prop :=
  ∃ inside d written behind found others,
    s = inside ++ '<' :: d :: (written ++ behind) ∧ Spells inside c ∧
    Markup.read d (written ++ behind) = .ok (.closing found, behind) ∧
    names = endName found :: others ∧ (Stream.scan others behind).nest = outer

/-- What stands in front of a content that comes to its end is put in front of its spelling. -/
theorem EndsElement.prepend {names : List (List Char)} {m s : List Char} {here c : Content}
    {outer : List Content} (h : EndsElement names s here outer)
    (spelled : ∀ t u, s = t ++ u → Spells t here → Spells (m ++ t) c) :
    EndsElement names (m ++ s) c outer := by
  obtain ⟨inside, d, written, behind, found, others, rfl, spells, rest⟩ := h
  exact ⟨m ++ inside, d, written, behind, found, others, by simp, spelled _ _ rfl spells, rest⟩

/-- A content that comes to its end is spelled by the text in front of the end tag. -/
theorem endsElement_of_closes {names : List (List Char)} {s : List Char} {c : Content}
    {outer : List Content} (h : (Stream.scan names s).nest = c :: outer)
    (closes : c.closes = true) : EndsElement names s c outer := by
  induction size : s.length using Nat.strongRecOn generalizing names s c outer with | ind n ih
  cases scanStep h with
  | eof | fault | unclosed => contradiction
  | @text t rest here _ nonempty plain start nested =>
    have positive := List.length_pos_iff.mpr nonempty
    rw [List.length_append] at size
    exact (ih _ (by omega) nested closes rfl).prepend fun u v same spelled =>
      .text nonempty plain (AtMarkup.of_append (same ▸ start)) spelled
  | @alone piece put d s rest here _ alone read nested =>
    rw [Markup.closes_alone alone] at closes
    obtain ⟨written, rfl, full⟩ := Markup.writtenAs_of_read read
    have full := full.resolve_right (ne_nil_of_closes nested closes)
    simp only [List.length_cons, List.length_append] at size
    exact (ih _ (by omega) nested closes rfl).prepend (m := '<' :: d :: written)
      fun t _ _ spelled => .piece alone full spelled
  | @closing found others d s rest _ same read nested =>
    obtain ⟨written, rfl, -⟩ := Markup.writtenAs_of_read read
    exact ⟨[], d, written, rest, found, others, rfl, .close, read, same, nested⟩
  | @opening tag d s rest inner here _ read nested =>
    obtain ⟨written, rfl, full⟩ := Markup.writtenAs_of_read read
    simp only [List.length_cons, List.length_append] at size
    obtain ⟨inside, e, end', behind, found, others, rfl, spells, readEnd, same, around⟩ :=
      ih _ (by omega) nested (closes_of_nest nested) rfl
    -- the end tag found there is that of this element, so the elements around it stay open
    obtain ⟨named, rfl⟩ := List.cons.inj same
    obtain ⟨taken, whole, closed⟩ := Markup.writtenAs_of_read readEnd
    cases List.append_cancel_right whole
    have opened := full.resolve_right (by simp)
    have ended := closed.resolve_right (ne_nil_of_closes around closes)
    simp only [List.length_cons, List.length_append] at size
    have behindEnds := ih _ (by omega) around closes rfl
    have put := behindEnds.prepend (m := '<' :: d :: written ++ (inside ++ '<' :: e :: end'))
      (c := .element tag inner here) fun t _ _ ht => by
        simpa using Spells.element opened spells ended named.symm ht
    simpa using put

end StreamRemote.Xml
