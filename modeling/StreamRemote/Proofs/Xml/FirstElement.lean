import StreamRemote.Proofs.Xml.Places

/-!
# The first element of a document

A document of which the first element is closed is what stands in front of this element, the
element, and the rest. Its end tag may be cut off in front of the `>`, but only where the document
ends with it.

Results:
1. `rooted_of_nest`, `Rooted.nest_scan`: a first element that is read is there in the document, and
   the other way round.
2. `Rooted.exists_rootText`: where the first element ends, and what may stand behind it.
3. `Rooted.of_missing_angle`: a document that is cut off in front of its last `>`.
4. `Rooted.cut_of_mem_childPlaces`: how a document is cut at a place in its first element, and what
   may be put there.
-/

namespace StreamRemote.Xml

/-! ## Tags -/

/-- No declaration is a tag. -/
theorem isTag_of_readDeclaration {s rest : List Char} {piece : Markup}
    (h : readDeclaration s = .ok (piece, rest)) (source : List Char) :
    Piece.isTag ⟨source, some piece⟩ = false := by
  cases s with
  | nil => contradiction
  | cons c s =>
    simp only [readDeclaration, readComment, readCharacterData, readDoctype] at h
    repeat' split at h
    all_goals first
      | contradiction
      | (cases h; rfl)

/-- A start tag ends at the first `>` outside quotes. -/
theorem readStartTag_ok {s rest : List Char} {piece : Markup}
    (h : readStartTag s = .ok (piece, rest)) :
    ∃ inside tag, splitTag? none s = some (inside, rest) ∧
      (piece = .opening tag ∨ piece = .single tag) := by
  unfold readStartTag at h
  split at h
  · contradiction
  · next inside behind found =>
    split at h
    · cases h
      exact ⟨inside, _, found, .inr rfl⟩
    · cases h
      exact ⟨inside, _, found, .inl rfl⟩

/-- A tag is an end tag or read as a start tag, and its first character tells which. -/
theorem Markup.read_tag_cases {d : Char} {s rest : List Char} {piece : Markup}
    (h : Markup.read d s = .ok (piece, rest)) (tag : Piece.isTag ⟨[], some piece⟩ = true) :
    d = '/' ∧ piece = .closing (splitAngle s).1 ∧ rest = (splitAngle s).2 ∨
      (∀ t, Markup.read d t = readStartTag (d :: t)) ∧
        readStartTag (d :: s) = .ok (piece, rest) := by
  simp only [Markup.read] at h
  split at h
  · rw [isTag_of_readDeclaration h] at tag
    contradiction
  · next bang =>
    split at h
    · simp only [readInstruction] at h
      split at h
      · cases h
        contradiction
      · contradiction
    · next question =>
      split at h
      · next slash =>
        cases h
        exact .inl ⟨slash, rfl, rfl⟩
      · next slash =>
        refine .inr ⟨fun t => ?_, h⟩
        rw [Markup.read, if_neg bang, if_neg question, if_neg slash]

/-- An end tag begins with a slash. -/
theorem Markup.slash_of_closing {d : Char} {s rest found : List Char}
    (h : Markup.read d s = .ok (.closing found, rest)) : d = '/' := by
  rcases read_tag_cases h rfl with ⟨slash, -⟩ | ⟨-, start⟩
  · exact slash
  · obtain ⟨_, tag, -, opening | single⟩ := readStartTag_ok start <;> contradiction

/-- A start tag and a single tag are written in full where they are read. -/
theorem Markup.writtenAs_of_start {d : Char} {s rest : List Char} {piece : Markup} {tag : Tag}
    (h : Markup.read d s = .ok (piece, rest)) (start : piece = .opening tag ∨ piece = .single tag) :
    ∃ inside, s = inside ++ rest ∧ piece.WrittenAs ('<' :: d :: inside) := by
  obtain ⟨inside, whole, written | ⟨-, rfl | rfl⟩⟩ := writtenAs_or_cut_of_read h
  · exact ⟨inside, whole, written⟩
  · rcases start with same | same <;> contradiction
  · cases h
    rcases start with same | same <;> contradiction

/-- A single tag ends with its first `>` outside quotes, so nothing is read of it without that. -/
theorem Markup.single_ends {tag : Tag} {m : List Char} (h : (Markup.single tag).WrittenAs m) :
    ∃ front, m = front ++ ['>'] ∧ pieces front = [] := by
  obtain ⟨d, inside, rfl, read⟩ := h
  have whole := read []
  rw [List.append_nil] at whole
  obtain ⟨-, same, -⟩ | ⟨start, whole⟩ := read_tag_cases whole rfl
  · contradiction
  · obtain ⟨front, _, split, -⟩ := readStartTag_ok whole
    obtain ⟨same, -⟩ := splitTag?_append split
    refine ⟨'<' :: front, by rw [same]; rfl, ?_⟩
    cases front with
    | nil => rw [pieces]
    | cons c front =>
      rw [List.cons_append, List.cons.injEq] at same
      obtain ⟨rfl, rfl⟩ := same
      -- a `>` further in front would have ended the tag
      have unended : splitTag? none (d :: front) = none := by
        by_contra some
        obtain ⟨⟨i, b⟩, early⟩ := Option.ne_none_iff_exists'.mp some
        obtain ⟨shorter, again⟩ := splitTag?_append early
        have both := again (b ++ ['>'])
        have longer : i ++ '>' :: (b ++ ['>']) = d :: (front ++ ['>']) := by
          rw [← List.cons_append, ← List.append_assoc, ← shorter]
          rfl
        rw [longer, split] at both
        have nothing : [] = b ++ ['>'] := (Prod.mk.inj (Option.some.inj both)).2
        simp at nothing
      rw [pieces]
      split
      · rfl
      · next again =>
        rw [start, readStartTag, unended] at again
        contradiction

/-! ## The first element of a document -/

/-- The text is an end tag for an element of this name, with something behind it; or it is one that
is cut off in front of its `>`. -/
inductive EndTag (name : List Char) : List Char → List Char → Prop
  | full {found : List Char} (rest : List Char) : '>' ∉ found → endName found = name →
      EndTag name ('<' :: '/' :: (found ++ ['>'])) rest
  | cut {found : List Char} : '>' ∉ found → endName found = name →
      EndTag name ('<' :: '/' :: found) []

/-- The first element of the text has this tag and this content, with `before` in front of it. -/
inductive Rooted (before : Content) (tag : Tag) : Content → List Char → Prop
  | single {p m rest : List Char} : Spells p before → (Markup.single tag).WrittenAs m →
      Rooted before tag .close (p ++ (m ++ rest))
  | full {p m inside ending rest : List Char} {inner : Content} : Spells p before →
      (Markup.opening tag).WrittenAs m → Spells inside inner → EndTag tag.name ending rest →
      Rooted before tag inner (p ++ (m ++ (inside ++ (ending ++ rest))))

theorem EndTag.atMarkup {name ending rest : List Char} (h : EndTag name ending rest)
    (t : List Char) : AtMarkup (ending ++ t) := by
  cases h <;> exact atMarkup_cons _

/-- Both texts of an end tag are read as one. -/
theorem EndTag.read {name ending rest : List Char} (h : EndTag name ending rest) :
    ∃ found written, ending = '<' :: '/' :: written ∧ endName found = name ∧
      Markup.read '/' (written ++ rest) = .ok (.closing found, rest) := by
  cases h with
  | @full found rest free named =>
    refine ⟨found, _, rfl, named, ?_⟩
    rw [Markup.read_slash, List.append_assoc, List.singleton_append, splitAngle_append free]
  | @cut found free named =>
    refine ⟨found, _, rfl, named, ?_⟩
    rw [List.append_nil, Markup.read_slash, splitAngle_of_not_mem free]

/-- What is read as an end tag is one of its two texts. -/
theorem endTag_of_read {s rest found : List Char}
    (h : Markup.read '/' s = .ok (.closing found, rest)) :
    ∃ written, s = written ++ rest ∧ EndTag (endName found) ('<' :: '/' :: written) rest := by
  rw [Markup.read_slash] at h
  by_cases mem : '>' ∈ s
  · obtain ⟨inside, behind, rfl, free⟩ := List.eq_append_cons_of_mem mem
    rw [splitAngle_append free] at h
    cases h
    exact ⟨inside ++ ['>'], by simp, .full behind free rfl⟩
  · rw [splitAngle_of_not_mem mem] at h
    cases h
    exact ⟨s, by simp, .cut mem rfl⟩

theorem EndTag.pieces_eq {name ending rest : List Char} (h : EndTag name ending rest) :
    ∃ found, pieces (ending ++ rest) = ⟨ending, some (.closing found)⟩ :: pieces rest := by
  obtain ⟨found, written, rfl, -, read⟩ := h.read
  exact ⟨found, pieces_read read⟩

/-- An end tag ends the innermost element of its name. -/
theorem EndTag.nest_scan {name ending rest : List Char} (h : EndTag name ending rest)
    (names : List (List Char)) :
    (Stream.scan (name :: names) (ending ++ rest)).nest =
      .close :: (Stream.scan names rest).nest := by
  obtain ⟨found, written, rfl, named, read⟩ := h.read
  rw [List.cons_append, List.cons_append, NestingLemmas.scan_read _ read]
  simp only [Markup.tokens, named, if_true, Stream.prepend_cons, Stream.prepend_nil, Stream.nest]

variable {before inner : Content} {tag : Tag} {s : List Char}

/-- The first element of a text is read behind what stands in front of it. -/
theorem Rooted.nest_scan (h : Rooted before tag inner s) (names : List (List Char)) :
    ∃ here outer, (Stream.scan names s).nest = before.append (.element tag inner here) :: outer := by
  cases h with
  | @single p m rest spelled written =>
    obtain ⟨here, outer, nested⟩ := NestingLemmas.exists_nest (Stream.scan names rest)
    refine ⟨here, outer, spelled.nest_scan (written.atMarkup _) ?_⟩
    rw [NestingLemmas.scan_writtenAs names written]
    simp only [Markup.tokens, Stream.prepend_cons, Stream.prepend_nil, Stream.nest, nested]
  | @full p m inside ending rest _ spelled written inner ended =>
    obtain ⟨here, outer, nested⟩ := NestingLemmas.exists_nest (Stream.scan names rest)
    have closed := ended.nest_scan names
    rw [nested] at closed
    refine ⟨here, outer, spelled.nest_scan (written.atMarkup _) ?_⟩
    rw [NestingLemmas.scan_writtenAs names written]
    simp only [Markup.tokens, Stream.prepend_cons, Stream.prepend_nil, Stream.nest,
      inner.nest_scan (ended.atMarkup rest) closed, Content.append_close]

theorem Rooted.less_mem (h : Rooted before tag inner s) : '<' ∈ s := by
  cases h with
  | single _ written | full _ written =>
    obtain ⟨c, inside, rfl, -⟩ := written
    simp

/-- What stands in front of a text is put in front of its first element. -/
theorem Rooted.prepend {m : List Char} {before' : Content} (h : Rooted before tag inner s)
    (spelled : ∀ p u, s = p ++ u → Spells p before → Spells (m ++ p) before') :
    Rooted before' tag inner (m ++ s) := by
  cases h with
  | single front written =>
    rw [← List.append_assoc]
    exact .single (spelled _ _ rfl front) written
  | full front written inner ended =>
    rw [← List.append_assoc]
    exact .full (spelled _ _ rfl front) written inner ended

/-- The first element of a text, if it is closed, with what stands in front of it. -/
theorem rooted_of_nest {names : List (List Char)} {c : Content} {outer : List Content}
    {others : List (Tag × Content)} (h : (Stream.scan names s).nest = c :: outer)
    (first : c.elements = (tag, inner) :: others) (closes : inner.closes = true) :
    ∃ before, before.elements = [] ∧ Rooted before tag inner s := by
  induction size : s.length using Nat.strongRecOn generalizing s c outer with | ind n ih
  cases scanStep h with
  | eof | fault | closing => contradiction
  | @text t rest here _ nonempty plain start nested =>
    have positive := List.length_pos_iff.mpr nonempty
    rw [List.length_append] at size
    obtain ⟨before, none, rooted⟩ := ih _ (by omega) nested first rfl
    exact ⟨.text t before, none, rooted.prepend fun _ _ same spelled =>
      .text nonempty plain (AtMarkup.of_append (same ▸ start)) spelled⟩
  | @alone piece put d s rest here _ alone read nested =>
    cases piece with
    | single tag =>
      cases alone
      cases first
      obtain ⟨inside, rfl, written⟩ := Markup.writtenAs_of_start read (.inr rfl)
      exact ⟨.close, rfl, .single (p := []) .close written⟩
    | opening | closing => contradiction
    | _ =>
      -- the element stands behind the piece, so the piece is there in full
      obtain ⟨written, rfl, full⟩ := Markup.writtenAs_of_read read
      simp only [List.length_cons, List.length_append] at size
      cases alone
      have full := full.resolve_right (ne_nil_of_elements nested first)
      obtain ⟨before, none, rooted⟩ := ih _ (by omega) nested first rfl
      refine ⟨_, ?_, rooted.prepend (m := '<' :: d :: written) fun _ _ _ spelled =>
        .piece rfl full spelled⟩
      exact none
  | @unclosed tag d s rest inner read nested =>
    -- the end tag of the element would leave contents for the elements around it
    cases first
    obtain ⟨_, _, _, behind, _, others, -, -, -, -, around⟩ := endsElement_of_closes nested closes
    exact absurd around (Stream.nest_ne_nil _)
  | @opening tag d s rest inner here _ read nested =>
    cases first
    obtain ⟨written, rfl, full⟩ := Markup.writtenAs_of_start read (.inl rfl)
    obtain ⟨inside, e, ending, behind, found, others, rfl, spelled, readEnd, same, -⟩ :=
      endsElement_of_closes nested closes
    obtain ⟨named, rfl⟩ := List.cons.inj same
    cases Markup.slash_of_closing readEnd
    obtain ⟨ending', whole, ended⟩ := endTag_of_read readEnd
    cases List.append_cancel_right whole
    rw [← named] at ended
    exact ⟨.close, rfl, .full (p := []) .close full spelled ended⟩

/-! ## Where the first element ends -/

/-- In front of the first element stands no tag. -/
theorem Spells.exists_places_of_none {p : List Char} (h : Spells p before)
    (none : before.elements = []) {rest : List Char} (next : AtMarkup rest) :
    ∃ front, places [] 0 (pieces (p ++ rest)) = front ++ places p 0 (pieces rest) ∧
      ∀ q ∈ front, q.behindTag = false := by
  obtain ⟨front, same, within⟩ := h.exists_places next [] 0
  refine ⟨front, same, fun q hq => ?_⟩
  by_contra tag
  rw [Bool.not_eq_false] at tag
  exact (within q hq).elements tag none

theorem Place.isBehindTag_of_not {q : Place} (h : q.behindTag = false) (depth : Nat) :
    q.isBehindTag depth = false := by
  rw [isBehindTag, h, Bool.false_and]

/-- The places of a document of which the first element is a single tag. -/
theorem places_single {p m : List Char} (rest : List Char) (spelled : Spells p before)
    (none : before.elements = []) (written : (Markup.single tag).WrittenAs m) :
    ∃ l, places [] 0 (pieces (p ++ (m ++ rest))) =
        l ++ ⟨p ++ m, 0, true⟩ :: places (p ++ m) 0 (pieces rest) ∧
      ∀ q ∈ l, q.behindTag = false := by
  obtain ⟨l, same, noTag⟩ := spelled.exists_places_of_none none (written.atMarkup rest)
  refine ⟨l, ?_, noTag⟩
  rw [same, pieces_writtenAs written]
  rfl

/-- The places of a document of which the first element has a start tag and an end tag. -/
theorem places_full {p m inside ending rest : List Char} (spelled : Spells p before)
    (none : before.elements = []) (written : (Markup.opening tag).WrittenAs m)
    (inner' : Spells inside inner) (ended : EndTag tag.name ending rest) :
    ∃ l, places [] 0 (pieces (p ++ (m ++ (inside ++ (ending ++ rest))))) =
        l ++ ⟨p ++ m ++ inside ++ ending, 0, true⟩ ::
          places (p ++ m ++ inside ++ ending) 0 (pieces rest) ∧
      ∀ q ∈ l, q.isBehindTag 0 = false ∧
        (q.isBehindTag 1 = true → q.front = p ++ m ∨ q.Within (p ++ m) 1 inside inner) := by
  obtain ⟨front, same, noTag⟩ := spelled.exists_places_of_none none (written.atMarkup _)
  obtain ⟨within, same', inWithin⟩ := inner'.exists_places (ended.atMarkup rest) (p ++ m) 1
  obtain ⟨found, ends⟩ := ended.pieces_eq
  refine ⟨front ++ ⟨p ++ m, 1, true⟩ :: within, ?_, fun q hq => ?_⟩
  · rw [same, pieces_writtenAs written, places_cons]
    show front ++ ⟨p ++ m, 1, true⟩ :: places (p ++ m) 1 _ = _
    rw [same', ends]
    exact (List.append_assoc front (_ :: within) _).symm
  · rcases List.mem_append.mp hq with hq | hq
    · have never := Place.isBehindTag_of_not (noTag q hq)
      exact ⟨never 0, fun level => absurd level (by simp [never 1])⟩
    rcases List.mem_cons.mp hq with rfl | hq
    · exact ⟨rfl, fun _ => .inl rfl⟩
    · have deep := (inWithin q hq).deep
      refine ⟨?_, fun _ => .inr (inWithin q hq)⟩
      by_contra ended
      rw [Bool.not_eq_false, Place.isBehindTag_iff] at ended
      omega

section FirstElement

variable {l others : List Place} {q : Place}
  (same : places [] 0 (pieces s) = l ++ q :: others) (ends : q.isBehindTag 0 = true)
  (inside : ∀ r ∈ l, r.isBehindTag 0 = false)

include same ends inside

theorem rootText?_eq : rootText? s = some q.front := by
  have none : l.find? (·.isBehindTag 0) = none :=
    List.find?_eq_none.mpr fun r hr => by simp [inside r hr]
  rw [rootText?, same, List.find?_append, none, Option.none_or, List.find?_cons_of_pos ends]
  rfl

theorem childPlaces_eq : childPlaces s = (l.filter (·.isBehindTag 1)).map Place.front := by
  have taken : (l ++ q :: others).takeWhile (!·.isBehindTag 0) = l := by
    refine (cut_append (fun r hr => ?_) ?_).1
    · rw [inside r hr]
      rfl
    · rintro _ ⟨⟩
      rw [ends]
      rfl
  rw [childPlaces, same, taken]

end FirstElement

/-- The first element of a document ends with a `>`, and the text up to there can be followed by
anything; or the document comes to its end in the end tag, and a `>` is all that is missing. -/
theorem Rooted.exists_rootText (h : Rooted before tag inner s) (none : before.elements = []) :
    ∃ front rest, s = front ++ rest ∧ rootText? s = some front ∧
      (front.getLast? = some '>' ∧ (∀ more, Rooted before tag inner (front ++ more)) ∨
        front.getLast? ≠ some '>' ∧ rest = [] ∧
          ∀ more, Rooted before tag inner (front ++ '>' :: more)) := by
  cases h with
  | @single p m rest spelled written =>
    obtain ⟨l, same, noTag⟩ := places_single rest spelled none written
    have text := rootText?_eq same rfl fun q hq => Place.isBehindTag_of_not (noTag q hq) 0
    refine ⟨p ++ m, rest, by simp, text, .inl ⟨?_, fun more => ?_⟩⟩
    · obtain ⟨taken, rfl, -⟩ := Markup.single_ends written
      simp
    · rw [List.append_assoc]
      exact .single spelled written
  | @full p m inside ending rest _ spelled written inner' ended =>
    obtain ⟨l, same, inL⟩ := places_full spelled none written inner' ended
    have text := rootText?_eq same rfl fun q hq => (inL q hq).1
    refine ⟨p ++ m ++ inside ++ ending, rest, by simp, text, ?_⟩
    cases ended with
    | @full found rest free named =>
      refine .inl ⟨?_, fun more => ?_⟩
      · have last : p ++ m ++ inside ++ '<' :: '/' :: (found ++ ['>']) =
            (p ++ m ++ inside ++ '<' :: '/' :: found) ++ ['>'] := by simp
        rw [last, List.getLast?_concat]
      · simpa using Rooted.full spelled written inner' (.full more free named)
    | @cut found free named =>
      refine .inr ⟨fun angle => ?_, rfl, fun more => ?_⟩
      · -- no character of the end tag is the one that would end it
        have mem : '>' ∈ '<' :: '/' :: found := by
          rw [List.getLast?_append_of_ne_nil _ (List.cons_ne_nil _ _)] at angle
          exact List.mem_of_getLast? angle
        simp [free] at mem
      · simpa using Rooted.full spelled written inner' (.full more free named)

/-- A document of which the last `>` is missing is one with the same first element, if it still has
an end of this element. -/
theorem Rooted.of_missing_angle (h : Rooted before tag inner (s ++ ['>']))
    (none : before.elements = []) (found : rootText? s ≠ .none) : Rooted before tag inner s := by
  generalize whole : s ++ ['>'] = longer at h
  have same : ∀ (t : List Char) (d : Char), longer = t ++ [d] → s = t := fun _ _ ends =>
    (List.append_inj' (whole.trans ends) rfl).1
  cases h with
  | @single p m rest spelled written =>
    rcases rest.eq_nil_or_concat' with rfl | ⟨rest, last, rfl⟩
    · -- the tag is cut off, and without it the text has none
      obtain ⟨cut, rfl, unread⟩ := Markup.single_ends written
      cases same (p ++ cut) '>' (by simp)
      have start : AtMarkup (cut ++ ['>']) := (written.atMarkup []).of_append
      obtain ⟨front, places, noTag⟩ := spelled.exists_places_of_none none start.of_append
      rw [unread] at places
      have others : front.find? (·.isBehindTag 0) = .none :=
        List.find?_eq_none.mpr fun q hq => by simp [Place.isBehindTag, noTag q hq]
      refine absurd ?_ found
      rw [rootText?, places, List.find?_append, others]
      rfl
    · cases same (p ++ (m ++ rest)) last (by simp)
      exact .single spelled written
  | @full p m inside ending rest _ spelled written inner' ended =>
    cases ended with
    | @cut found free named =>
      have angle : (p ++ (m ++ (inside ++ ('<' :: '/' :: found ++ [])))).getLast? = some '>' := by
        rw [← whole, List.getLast?_concat]
      have last : ('<' :: '/' :: found).getLast? = some '>' := by
        simpa [List.getLast?_append] using angle
      simpa [free] using List.mem_of_getLast? last
    | @full found rest free named =>
      rcases rest.eq_nil_or_concat' with rfl | ⟨rest, last, rfl⟩
      · cases same (p ++ (m ++ (inside ++ ('<' :: '/' :: found ++ [])))) '>' (by simp)
        exact .full spelled written inner' (.cut free named)
      · cases same (p ++ (m ++ (inside ++ ('<' :: '/' :: (found ++ ['>']) ++ rest)))) last
          (by simp)
        exact .full spelled written inner' (.full rest free named)

/-! ## Putting an element into the first one -/

/-- The content is empty, or an element comes last in it. -/
inductive Content.Settled : Content → Prop
  | start : Settled .close
  | behind {first inner : Content} {tag : Tag} :
      first.closes = true → Settled (first.append (.element tag inner .close))

/-- Put in front of a text, the text `e` is the element in front of it. -/
structure PutsElement (e : List Char) (tag : Tag) (inner : Content) : Prop where
  atMarkup : ∀ t, AtMarkup (e ++ t)
  spells : ∀ {t c}, Spells t c → Spells (e ++ t) (.element tag inner c)

/-- What stands in front of the first element is passed over when it is looked for. -/
theorem Spells.ofPieces? {p rest : List Char} (h : Spells p before) (none : before.elements = [])
    (next : AtMarkup rest) :
    Root.ofPieces? (pieces (p ++ rest)) = Root.ofPieces? (pieces rest) := by
  induction h with
  | close => rfl
  | text nonempty plain start _ ih =>
    rw [List.append_assoc, pieces_text nonempty plain (start.append next)]
    exact ih none
  | @piece piece put m s c alone written _ ih =>
    rw [List.append_assoc, pieces_writtenAs written]
    cases piece with
    | single tag =>
      cases alone
      contradiction
    | opening | closing => contradiction
    | _ =>
      cases alone
      exact ih none
  | element => contradiction

/-- At a place in the first element its content is cut in two, right at its start or behind an
element in it. -/
theorem exists_cut_of_full {p m inside ending rest front : List Char} (spelled : Spells p before)
    (none : before.elements = []) (written : (Markup.opening tag).WrittenAs m)
    (inner' : Spells inside inner) (ended : EndTag tag.name ending rest)
    (place : front ∈ childPlaces (p ++ (m ++ (inside ++ (ending ++ rest))))) :
    ∃ t u first back, front = p ++ m ++ t ∧ inside = t ++ u ∧ inner = first.append back ∧
      Spells t first ∧ Spells u back ∧ first.Settled := by
  obtain ⟨l, same, inL⟩ := places_full spelled none written inner' ended
  rw [childPlaces_eq same rfl fun q hq => (inL q hq).1] at place
  obtain ⟨q, mem, rfl⟩ := List.mem_map.mp place
  obtain ⟨mem, level⟩ := List.mem_filter.mp mem
  rcases (inL q mem).2 level with start | within
  · exact ⟨[], inside, .close, inner, by rw [start, List.append_nil], rfl, rfl, .close, inner',
      .start⟩
  · obtain ⟨t, u, first, tag', inner'', back, place, cut⟩ := within.cut level
    refine ⟨t, u, _, back, place, cut.text, ?_, cut.spelled, cut.behind, .behind cut.closes⟩
    rw [Content.append_assoc]
    exact cut.content

/-- At a place in the first element the document is cut right behind the start tag of this element
or behind an element in it, and any element may be put there. -/
theorem Rooted.cut_of_mem_childPlaces (h : Rooted before tag inner s)
    (none : before.elements = []) {front : List Char} (place : front ∈ childPlaces s) :
    ∃ (behind : List Char) (first back : Content),
      s = front ++ behind ∧ inner = first.append back ∧ first.Settled ∧
      (∃ es, Root.ofPieces? (pieces front) = some ⟨tag, es⟩ ∧
        List.Forall₂ Excerpt.Shows es first.elements) ∧
      ∀ e tag' inner', PutsElement e tag' inner' →
        Rooted before tag (first.append (.element tag' inner' back)) (front ++ (e ++ behind)) := by
  cases h with
  | @single p m rest spelled written =>
    -- nothing is open in front of the end of the element
    obtain ⟨l, same, noTag⟩ := places_single rest spelled none written
    rw [childPlaces_eq same rfl fun q hq => Place.isBehindTag_of_not (noTag q hq) 0] at place
    obtain ⟨q, mem, -⟩ := List.mem_map.mp place
    obtain ⟨mem, level⟩ := List.mem_filter.mp mem
    rw [Place.isBehindTag_of_not (noTag q mem)] at level
    contradiction
  | @full p m inside ending rest _ spelled written inner' ended =>
    obtain ⟨t, u, first, back, rfl, rfl, rfl, hfirst, hback, settled⟩ :=
      exists_cut_of_full spelled none written inner' ended place
    refine ⟨u ++ (ending ++ rest), first, back, by simp, rfl, settled, ?_,
      fun e tag' inner'' puts => ?_⟩
    · obtain ⟨es, children, shows⟩ := hfirst.sideBySide_none atMarkup_nil
      refine ⟨es, ?_, shows⟩
      rw [List.append_assoc, spelled.ofPieces? none (written.atMarkup t), pieces_writtenAs written]
      rw [List.append_nil] at children
      simp only [Root.ofPieces?]
      rw [children, pieces, sideBySide, List.append_nil]
    · have inside := hfirst.append (puts.atMarkup u) (puts.spells hback)
      simpa using Rooted.full spelled written inside ended

end StreamRemote.Xml
