import StreamRemote.Document.DeviceInfo
import StreamRemote.Document.PlayerStatus
import StreamRemote.Proofs.Document.AppEntries

/-!
# Bodies that are cut off

A body that is cut off is refused, or it is read as the very value of the whole body. Reading asks
for the end of the first element, and what stands in front of this end does not depend on what
follows it. Only the end tag itself may be cut off; the whole body then has this end tag too, or a
fault in its place.

Results:
1. `Markup.read_append`: a piece of markup is the same in a longer text, unless the text ends in it.
2. `first_of_longer`: the first element of a text is that of each longer text, if it is
   closed in both.
3. `Document.eq_of_prefix`: for each type of documents of which the root has to be closed, a body
   and a longer one are read as the same value.
4. `Document.truncation_keeps_value`: the same for the four types of documents.
-/

namespace StreamRemote

open Xml

/-! ## Longer texts -/

namespace Xml

/-- A piece is read in the same way from a longer text, unless it is an instruction or an end tag
that the text ends with. -/
theorem Markup.read_append {d : Char} {s rest : List Char} {piece : Markup}
    (h : Markup.read d s = .ok (piece, rest)) (t : List Char) :
    Markup.read d (s ++ t) = .ok (piece, rest ++ t) ∨
      rest = [] ∧ (piece = .instruction ∨ d = '/' ∧ ∃ found, piece = .closing found) := by
  obtain ⟨inside, rfl, written | ⟨ended, rfl | rfl⟩⟩ := writtenAs_or_cut_of_read h
  · obtain ⟨_, _, same, read⟩ := written
    cases same
    rw [List.append_assoc]
    exact .inl (read _)
  · exact .inr ⟨ended, .inl rfl⟩
  · rw [read_slash] at h
    obtain ⟨closing, -⟩ := Prod.mk.inj (Except.ok.inj h)
    exact .inr ⟨ended, .inr ⟨rfl, _, closing.symm⟩⟩

theorem AtMarkup.append_right {s : List Char} (h : AtMarkup s) (nonempty : s ≠ [])
    (t : List Char) : AtMarkup (s ++ t) := by
  cases s with
  | nil => contradiction
  | cons c s => exact fun d hd => h d hd

namespace Content

/-- A content that goes on behind an end comes to its end if the other one does. -/
theorem closes_append {c : Content} (h : c.closes = true) (d : Content) :
    (c.append d).closes = d.closes := by
  induction c with
  | close => rfl
  | eof | fault => contradiction
  | text _ _ ih | characterData _ _ ih | doctype _ ih | aside _ ih => exact ih h
  | element _ _ _ _ ih => exact ih h

end Content

open NestingLemmas

/-- What begins with an end tag is the end of the element, or cannot be read. -/
theorem close_or_fault_of_slash {names : List (List Char)} {s : List Char} {c : Content}
    {outer : List Content} (h : (Stream.scan names ('<' :: '/' :: s)).nest = c :: outer) :
    c = .close ∨ ∃ cause, c = .fault cause := by
  rw [scan_read names (Markup.read_slash s)] at h
  cases names with
  | nil =>
    cases h
    exact .inr ⟨_, rfl⟩
  | cons name names =>
    by_cases same : endName (splitAngle s).1 = name
    · simp only [Markup.tokens, if_pos same, Stream.prepend_cons, Stream.prepend_nil,
        Stream.nest] at h
      cases h
      exact .inl rfl
    · simp only [Markup.tokens, if_neg same] at h
      cases h
      exact .inr ⟨_, rfl⟩

/-- Where a text has an end tag for the innermost element, each longer text has this end tag or a
fault. -/
theorem close_or_fault_of_longer {found : List Char} {d : Char} {s behind : List Char}
    (read : Markup.read d s = .ok (.closing found, behind)) (others : List (List Char))
    (t : List Char) :
    ∃ c outer, (Stream.scan (endName found :: others) ('<' :: d :: (s ++ t))).nest = c :: outer ∧
      (c = .close ∨ ∃ cause, c = .fault cause) := by
  rcases Markup.read_append read t with again | ⟨-, cut⟩
  · refine ⟨.close, (Stream.scan others (behind ++ t)).nest, ?_, .inl rfl⟩
    rw [scan_read _ again]
    simp only [Markup.tokens, if_true, Stream.prepend_cons, Stream.prepend_nil, Stream.nest]
  · obtain ⟨rfl, -⟩ := cut.resolve_left (by simp)
    obtain ⟨c, outer, nested⟩ :=
      exists_nest (Stream.scan (endName found :: others) ('<' :: '/' :: (s ++ t)))
    exact ⟨c, outer, nested, close_or_fault_of_slash nested⟩

/-- What stands in an element that is closed is the same in a longer text, up to the end tag. -/
theorem inner_of_longer {names : List (List Char)} {s : List Char} {inner : Content}
    {outer : List Content} (h : (Stream.scan names s).nest = inner :: outer)
    (closes : inner.closes = true) (t : List Char) :
    ∃ inner' outer', (Stream.scan names (s ++ t)).nest = inner' :: outer' ∧
      (inner'.closes = true → inner' = inner) := by
  obtain ⟨inside, d, written, behind, found, others, rfl, spelled, read, rfl, -⟩ :=
    endsElement_of_closes h closes
  obtain ⟨c, outer', nested, ending⟩ := close_or_fault_of_longer read others t
  refine ⟨inner.append c, outer', ?_, fun closed => ?_⟩
  · rw [List.append_assoc]
    exact spelled.nest_scan (atMarkup_cons _) nested
  · rcases ending with rfl | ⟨cause, rfl⟩
    · exact inner.append_close
    · rw [Content.closes_append closes] at closed
      contradiction

/-- The first element of a text that is closed is the first one of each longer text too, and has the
same content there if it is closed there. -/
theorem first_of_longer {names : List (List Char)} {s : List Char} {c : Content}
    {outer : List Content} {tag : Tag} {inner : Content} {others : List (Tag × Content)}
    (h : (Stream.scan names s).nest = c :: outer) (first : c.elements = (tag, inner) :: others)
    (closes : inner.closes = true) (t : List Char) :
    ∃ c' outer' inner' others', (Stream.scan names (s ++ t)).nest = c' :: outer' ∧
      c'.elements = (tag, inner') :: others' ∧ (inner'.closes = true → inner' = inner) := by
  induction size : s.length using Nat.strongRecOn generalizing s c outer with | ind n ih
  cases scanStep h with
  | eof | fault | closing => contradiction
  | @text u rest here _ nonempty plain start nested =>
    have positive := List.length_pos_iff.mpr nonempty
    rw [List.length_append] at size
    obtain ⟨c', outer', inner', others', again, first', same⟩ :=
      ih _ (by omega) nested first rfl
    have next := start.append_right (ne_nil_of_elements nested first) t
    refine ⟨.text u c', outer', inner', others', ?_, first', same⟩
    rw [List.append_assoc, scan_text names nonempty plain next]
    simp only [Stream.nest, again]
  | @alone piece put d s rest here _ alone read nested =>
    obtain ⟨here', outer', nested'⟩ := exists_nest (Stream.scan names (rest ++ t))
    cases piece with
    | single tag =>
      cases alone
      cases first
      have again := (Markup.read_append read t).resolve_right (by simp)
      exact ⟨_, outer', .close, _, nest_scan_alone rfl again nested', rfl, fun _ => rfl⟩
    | opening | closing => contradiction
    | _ =>
      cases alone
      -- the element stands behind the piece, so the text does not end with it
      have nonempty := ne_nil_of_elements nested first
      have again := (Markup.read_append read t).resolve_right fun cut => nonempty cut.1
      simp only [List.length_cons] at size
      have shorter := Markup.length_read_le read
      obtain ⟨c', outer', inner', others', nested', first', same⟩ :=
        ih _ (by omega) nested first rfl
      exact ⟨_, outer', inner', others', nest_scan_alone rfl again nested', first', same⟩
  | @unclosed tag d s rest inner read nested =>
    -- the end tag of the element would leave contents for the elements around it
    cases first
    obtain ⟨_, _, _, behind, _, others, -, -, -, -, around⟩ := endsElement_of_closes nested closes
    exact absurd around (Stream.nest_ne_nil _)
  | @opening tag d s rest inner here _ read nested =>
    cases first
    have again := (Markup.read_append read t).resolve_right (by simp)
    obtain ⟨inner', outer', nested', same⟩ := inner_of_longer nested closes t
    rw [List.cons_append, List.cons_append, scan_read names again]
    simp only [Markup.tokens, Stream.prepend_cons, Stream.prepend_nil]
    cases outer' with
    | nil =>
      simp only [Stream.nest, nested']
      exact ⟨_, _, inner', _, rfl, rfl, same⟩
    | cons here' outer' =>
      simp only [Stream.nest, nested']
      exact ⟨_, _, inner', _, rfl, rfl, same⟩

end Xml

/-! ## Documents -/

namespace Document

theorem documentText_append {s : String} (nonempty : s.toList ≠ []) (t : String) :
    documentText (s ++ t) = documentText s ++ t.toList := by
  obtain ⟨c, rest, begins⟩ := List.exists_cons_of_ne_nil nonempty
  rw [documentText, documentText, String.toList_append, begins, List.cons_append]
  split <;> split <;> simp_all

/-- The first element of a body, if it is closed, is that of each longer body, if it is closed
there. -/
theorem first_of_longer {body : String} {tag : Tag} {inner : Content}
    {others : List (Tag × Content)}
    (first : (Content.ofDocument body).elements = (tag, inner) :: others)
    (closes : inner.closes = true) (more : String) :
    ∃ inner' others', (Content.ofDocument (body ++ more)).elements = (tag, inner') :: others' ∧
      (inner'.closes = true → inner' = inner) := by
  obtain ⟨c, outer, nested⟩ := NestingLemmas.exists_nest (Stream.scan [] (documentText body))
  rw [Content.ofDocument, Stream.ofDocument_eq, nested] at first
  have nonempty : body.toList ≠ [] := by
    intro empty
    refine ne_nil_of_elements nested first ?_
    rw [documentText, empty]
  obtain ⟨c', outer', inner', others', nested', first', same⟩ :=
    Xml.first_of_longer nested first closes more.toList
  refine ⟨inner', others', ?_, same⟩
  rw [Content.ofDocument, Stream.ofDocument_eq, documentText_append nonempty, nested']
  exact first'

variable {α : Type} [Document α]

/-- A body that is cut off is not read as another value than the whole body, if the root of such a
document has to be closed. -/
theorem eq_of_prefix (closed : ∀ (tag : Tag) (inner : Content) (a : α),
      Document.read tag inner = .ok a → inner.closes = true)
    {body more : String} {a b : α} (h : parse α body = .ok a)
    (h' : parse α (body ++ more) = .ok b) : a = b := by
  obtain ⟨tag, inner, others, first, -, read⟩ := parse_ok h
  obtain ⟨tag', inner', others', first', -, read'⟩ := parse_ok h'
  obtain ⟨inner'', others'', longer, same⟩ := first_of_longer first (closed _ _ _ read) more
  -- the root of the whole body is closed too, so it is the root of the body that is cut off
  rw [longer] at first'
  cases first'
  rw [same (closed _ _ _ read'), read] at read'
  exact Except.ok.inj read'

/-- A record without a field for its text is read up to the end of its element. -/
theorem closes_of_readElement {F : Type} [DecidableEq F] {schema : Schema F} {tag : Tag}
    {inner : Content} {draft : schema.Draft} (noText : schema.field? textKey = none)
    (h : schema.readElement tag inner = .ok draft) : inner.closes = true := by
  obtain ⟨start, -, content⟩ := bind_ok h
  exact (Schema.Draft.readContent_ok noText content).1

/-- A body that is cut off, at whatever place, is not read as another value than the whole body:
no field and no app of the value is lost with the part that is missing. -/
theorem truncation_keeps_value (body more : String) :
    (∀ part whole, parse DeviceInfo body = .ok part →
      parse DeviceInfo (body ++ more) = .ok whole → part = whole) ∧
    (∀ part whole, parse ActiveApp body = .ok part →
      parse ActiveApp (body ++ more) = .ok whole → part = whole) ∧
    (∀ part whole, parse AppList body = .ok part →
      parse AppList (body ++ more) = .ok whole → part = whole) ∧
    (∀ part whole, parse PlayerStatus body = .ok part →
      parse PlayerStatus (body ++ more) = .ok whole → part = whole) := by
  refine ⟨fun _ _ => eq_of_prefix fun _ _ _ read => ?_,
    fun _ _ => eq_of_prefix fun _ _ _ read => ?_,
    fun _ _ => eq_of_prefix fun _ _ _ read => ?_,
    fun _ _ => eq_of_prefix fun _ _ _ read => ?_⟩
  · obtain ⟨draft, record, -⟩ := bind_ok read
    exact closes_of_readElement rfl record
  · obtain ⟨draft, record, -⟩ := bind_ok read
    exact closes_of_readElement rfl record
  · exact (AppList.read_ok read).1
  · obtain ⟨draft, record, -⟩ := bind_ok read
    exact closes_of_readElement rfl record

/-- A list that is cut off in the end tag of its root, and a player that is cut off behind its
root. -/
theorem truncation_keeps_value_two :
    (∃ part whole, parse AppList "<apps><app id='1'>A</app></apps" = .ok part ∧
      parse AppList ("<apps><app id='1'>A</app></apps" ++ " ><x>") = .ok whole ∧ part = whole) ∧
    ∃ part whole, parse PlayerStatus "<player state='play'/>" = .ok part ∧
      parse PlayerStatus ("<player state='play'/>" ++ "<player>") = .ok whole ∧ part = whole := by
  have partList : parse AppList "<apps><app id='1'>A</app></apps" =
      .ok ⟨[⟨some "1", none, none, "A"⟩]⟩ := by
    decide +kernel
  have wholeList : parse AppList ("<apps><app id='1'>A</app></apps" ++ " ><x>") =
      .ok ⟨[⟨some "1", none, none, "A"⟩]⟩ := by
    decide +kernel
  have partPlayer : parse PlayerStatus "<player state='play'/>" =
      .ok ⟨"play", none, none, none, none, none, none, none, none⟩ := by
    decide +kernel
  have wholePlayer : parse PlayerStatus ("<player state='play'/>" ++ "<player>") =
      .ok ⟨"play", none, none, none, none, none, none, none, none⟩ := by
    decide +kernel
  exact ⟨⟨_, _, partList, wholeList, (truncation_keeps_value _ _).2.2.1 _ _ partList wholeList⟩,
    ⟨_, _, partPlayer, wholePlayer, (truncation_keeps_value _ _).2.2.2 _ _ partPlayer wholePlayer⟩⟩

end Document

end StreamRemote
