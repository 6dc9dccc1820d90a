import Mathlib.Data.List.Forall2
import StreamRemote.Proofs.Xml.Nesting

/-!
# The elements of a document as they are written

A document cut into pieces of markup and the text between them, and from these, by counting how
deep elements are nested, the elements inside its first element. The names of the elements play
no part in this, and nothing of it depends on how the document is read.

Results:
1. `Spells.sideBySide_none`: the elements in a text that spells a content are those of the
   content, each of them written just as it stands there.
2. `root_of_document`: the first element of a document and the elements in it, for every document
   of which the first element is closed.
3. `Excerpt.Shows.inner_eq`, `Excerpt.Shows.isLeaf`: an element that is cut out of a document has
   the content that it has in the document.
-/

namespace StreamRemote.Xml

/-- A piece of a text as it is written: a piece of markup, or text in front of one. -/
structure Piece where
  source : List Char
  markup : Option Markup
deriving DecidableEq, Repr

/-- Cuts a text into its pieces, up to its end or the first fault. -/
def pieces : List Char → List Piece
  | [] => []
  | ['<'] => []
  | '<' :: c :: rest =>
    match _read : Markup.read c rest with
    | .error _ => []
    | .ok (piece, behind) =>
      ⟨'<' :: c :: rest.take (rest.length - behind.length), some piece⟩ :: pieces behind
  | c :: rest => ⟨c :: rest.takeWhile (· ≠ '<'), none⟩ :: pieces (rest.dropWhile (· ≠ '<'))
termination_by text => text.length
decreasing_by
  · have := Markup.length_read_le _read
    simp only [List.length_cons]
    omega
  · exact Nat.lt_succ_of_le (List.dropWhile_sublist _).length_le

/-- An element as it is written, with the tag it begins with. -/
structure Excerpt where
  tag : Tag
  source : List Char
deriving DecidableEq, Repr

/-- An element that goes on for another piece. -/
def Excerpt.extend (e : Excerpt) (source : List Char) : Excerpt :=
  { e with source := e.source ++ source }

/-- The elements that stand side by side in a row of pieces, up to the end of the element around
them. While one of them is open, `current` is what there is of it so far, with the number of
elements that are open within it. -/
def sideBySide : (current : Option (Excerpt × Nat)) → List Piece → List Excerpt
  | _, [] => []
  | none, p :: rest =>
    match p.markup with
    | some (.opening tag) => sideBySide (some (⟨tag, p.source⟩, 0)) rest
    | some (.single tag) => ⟨tag, p.source⟩ :: sideBySide none rest
    | some (.closing _) => []
    | _ => sideBySide none rest
  | some (e, depth), p :: rest =>
    match p.markup, depth with
    | some (.opening _), depth => sideBySide (some (e.extend p.source, depth + 1)) rest
    | some (.closing _), depth + 1 => sideBySide (some (e.extend p.source, depth)) rest
    | some (.closing _), 0 => e.extend p.source :: sideBySide none rest
    | _, depth => sideBySide (some (e.extend p.source, depth)) rest

/-- The first element of a document: its tag, and the elements right inside it. -/
structure Root where
  tag : Tag
  children : List Excerpt
deriving DecidableEq, Repr

/-- The elements right inside the first element that have the name, which counts from behind its
first colon. -/
def Root.named (root : Root) (name : String) : List Excerpt :=
  root.children.filter fun e => localName e.tag.name = name.toList

/-- The first element in a row of pieces. -/
def Root.ofPieces? : List Piece → Option Root
  | [] => none
  | p :: rest =>
    match p.markup with
    | some (.opening tag) => some ⟨tag, sideBySide none rest⟩
    | some (.single tag) => some ⟨tag, []⟩
    | _ => ofPieces? rest

/-- The text of a document. A byte order mark in front of it is not part of it. -/
def documentText (document : String) : List Char :=
  match document.toList with
  | '\uFEFF' :: body => body
  | body => body

/-- The first element of a document. -/
def Root.ofDocument? (document : String) : Option Root :=
  ofPieces? (pieces (documentText document))

/-! ## Cutting a text -/

theorem pieces_text {t s : List Char} (nonempty : t ≠ []) (plain : '<' ∉ t) (next : AtMarkup s) :
    pieces (t ++ s) = ⟨t, none⟩ :: pieces s := by
  cases t with
  | nil => contradiction
  | cons c t =>
    rw [List.mem_cons, not_or] at plain
    obtain ⟨taken, dropped⟩ := cut_ne_append plain.2 next
    rw [List.cons_append, pieces, taken, dropped]
    · exact fun same => absurd same.symm plain.1
    · exact fun _ _ same => absurd same.symm plain.1

theorem pieces_read {c : Char} {s rest : List Char} {piece : Markup}
    (h : Markup.read c (s ++ rest) = .ok (piece, rest)) :
    pieces ('<' :: c :: (s ++ rest)) = ⟨'<' :: c :: s, some piece⟩ :: pieces rest := by
  rw [pieces]
  split
  · next failed => rw [h] at failed; contradiction
  · next read =>
    rw [h] at read
    cases read
    simp

theorem pieces_writtenAs {m : List Char} {piece : Markup} (h : piece.WrittenAs m)
    (rest : List Char) : pieces (m ++ rest) = ⟨m, some piece⟩ :: pieces rest := by
  obtain ⟨c, inside, rfl, read⟩ := h
  exact pieces_read (read rest)

/-! ## The elements in a text -/

/-- The elements of a content on its own level, with their contents. -/
def Content.elements : Content → List (Tag × Content)
  | close | eof | fault _ => []
  | text _ rest | characterData _ rest | doctype rest | aside rest => rest.elements
  | element tag inner rest => (tag, inner) :: rest.elements

/-- Nothing stands in an empty text. -/
theorem ne_nil_of_elements {names : List (List Char)} {s : List Char} {c : Content}
    {outer : List Content} {e : Tag × Content} {others : List (Tag × Content)}
    (h : (Stream.scan names s).nest = c :: outer) (first : c.elements = e :: others) : s ≠ [] := by
  rintro rfl
  rw [Stream.scan] at h
  cases h
  contradiction

/-- The excerpt is the element of that tag and that content. -/
def Excerpt.Shows (e : Excerpt) (element : Tag × Content) : Prop :=
  e.tag = element.1 ∧ Spells e.source (.element element.1 element.2 .close)

/-- The excerpts of a name show the elements of the name. -/
theorem Root.shows_named {tag : Tag} {children : List Excerpt} {elements : List (Tag × Content)}
    (h : List.Forall₂ Excerpt.Shows children elements) (name : String) :
    List.Forall₂ Excerpt.Shows (Root.named ⟨tag, children⟩ name)
      (elements.filter fun e => localName e.1.name = name.toList) := by
  refine List.rel_filter ?_ h
  rintro e ⟨tag, inner⟩ ⟨rfl, -⟩
  exact Iff.rfl

theorem sideBySide_text {current : Option (Excerpt × Nat)} {t : List Char} (rest : List Piece) :
    sideBySide current (⟨t, none⟩ :: rest) =
      sideBySide (current.map fun (e, depth) => (e.extend t, depth)) rest := by
  rcases current with _ | ⟨e, depth⟩ <;> rfl

theorem Excerpt.extend_extend (e : Excerpt) (s t : List Char) :
    (e.extend s).extend t = e.extend (s ++ t) := by
  simp [extend]

/-- Within an element, a text that spells a content only makes the element longer. -/
theorem Spells.sideBySide_some {s : List Char} {c : Content} (h : Spells s c)
    {rest : List Char} (next : AtMarkup rest) (e : Excerpt) (depth : Nat) :
    sideBySide (some (e, depth)) (pieces (s ++ rest)) =
      sideBySide (some (e.extend s, depth)) (pieces rest) := by
  induction h generalizing rest e depth with
  | close => simp [Excerpt.extend]
  | text nonempty plain start _ ih =>
    rw [List.append_assoc, pieces_text nonempty plain (start.append next), sideBySide_text,
      Option.map_some, ih next, Excerpt.extend_extend]
  | piece alone written _ ih =>
    rw [List.append_assoc, pieces_writtenAs written, ← Excerpt.extend_extend, ← ih next]
    rename_i piece _ _ _ _ _
    cases piece <;> cases alone <;> rfl
  | @element tag m s k x t inner c opening _ closing same _ innerIh ih =>
    -- one level deeper up to the end tag, which leads back to the level before
    rw [List.append_assoc, pieces_writtenAs opening]
    simp only [List.append_assoc, sideBySide]
    rw [innerIh (closing.atMarkup _), pieces_writtenAs closing]
    simp only [sideBySide]
    rw [ih next]
    simp only [Excerpt.extend_extend, List.append_assoc]

/-- The elements side by side in a text that spells a content are those of the content. -/
theorem Spells.sideBySide_none {s : List Char} {c : Content} (h : Spells s c)
    {rest : List Char} (next : AtMarkup rest) :
    ∃ es, sideBySide none (pieces (s ++ rest)) = es ++ sideBySide none (pieces rest) ∧
      List.Forall₂ Excerpt.Shows es c.elements := by
  induction h generalizing rest with
  | close => exact ⟨[], rfl, .nil⟩
  | text nonempty plain start _ ih =>
    obtain ⟨es, same, shows⟩ := ih next
    refine ⟨es, ?_, shows⟩
    rw [List.append_assoc, pieces_text nonempty plain (start.append next), sideBySide_text, ← same]
    rfl
  | @piece piece put m s c alone written spelled ih =>
    obtain ⟨es, same, shows⟩ := ih next
    rw [List.append_assoc, pieces_writtenAs written]
    cases piece with
    | single tag =>
      cases alone
      refine ⟨⟨tag, m⟩ :: es, ?_, .cons ⟨rfl, ?_⟩ shows⟩
      · simp only [sideBySide, same, List.cons_append]
      · simpa using Spells.piece rfl written .close
    | opening | closing => contradiction
    | _ =>
      cases alone
      exact ⟨es, same, shows⟩
  | @element tag m s k x t inner c opening spelled closing named _ _ ih =>
    obtain ⟨es, same, shows⟩ := ih next
    refine ⟨⟨tag, m ++ (s ++ k)⟩ :: es, ?_, .cons ⟨rfl, ?_⟩ shows⟩
    · rw [List.append_assoc, pieces_writtenAs opening]
      simp only [List.append_assoc, sideBySide]
      rw [spelled.sideBySide_some (closing.atMarkup _), pieces_writtenAs closing]
      simp only [sideBySide, same, Excerpt.extend, List.append_assoc, List.cons_append]
    · simpa using Spells.element opening spelled closing named .close

/-- The first element of a text that is closed, and the elements in it. -/
theorem root_of_nest {names : List (List Char)} {s : List Char} {c : Content}
    {outer : List Content} {tag : Tag} {inner : Content} {others : List (Tag × Content)}
    (h : (Stream.scan names s).nest = c :: outer)
    (first : c.elements = (tag, inner) :: others) (closes : inner.closes = true) :
    ∃ es, Root.ofPieces? (pieces s) = some ⟨tag, es⟩ ∧
      List.Forall₂ Excerpt.Shows es inner.elements := by
  induction size : s.length using Nat.strongRecOn generalizing s c outer with | ind n ih
  cases scanStep h with
  | eof | fault | closing => contradiction
  | @text t rest here _ nonempty plain start nested =>
    have positive := List.length_pos_iff.mpr nonempty
    rw [List.length_append] at size
    rw [pieces_text nonempty plain start]
    exact ih _ (by omega) nested first rfl
  | @alone piece put d s rest here _ alone read nested =>
    obtain ⟨written, rfl, -⟩ := Markup.writtenAs_of_read read
    simp only [List.length_cons, List.length_append] at size
    rw [pieces_read read]
    cases piece with
    | single tag =>
      cases alone
      cases first
      exact ⟨[], rfl, .nil⟩
    | opening | closing => contradiction
    | _ =>
      cases alone
      exact ih _ (by omega) nested first rfl
  | @unclosed tag d s rest inner read nested =>
    -- the end tag of the element would leave contents for the elements around it
    cases first
    obtain ⟨_, _, _, behind, _, others, -, -, -, -, around⟩ := endsElement_of_closes nested closes
    exact absurd around (Stream.nest_ne_nil _)
  | @opening tag d s rest inner here _ read nested =>
    -- the elements of the root stand in front of its end tag, where their row stops
    cases first
    obtain ⟨written, rfl, -⟩ := Markup.writtenAs_of_read read
    obtain ⟨inside, e, ending, behind, found, others, rfl, spelled, readEnd, -⟩ :=
      endsElement_of_closes nested closes
    obtain ⟨es, same, shows⟩ := spelled.sideBySide_none (atMarkup_cons (e :: (ending ++ behind)))
    refine ⟨es, ?_, shows⟩
    rw [pieces_read read]
    simp only [Root.ofPieces?]
    rw [same, pieces_read readEnd]
    simp [sideBySide]

theorem Stream.ofDocument_eq (document : String) :
    Stream.ofDocument document = Stream.scan [] (documentText document) := by
  unfold Stream.ofDocument
  fun_cases documentText document <;> simp_all

/-- The first element of a document that is closed, and the elements in it. -/
theorem root_of_document {document : String} {tag : Tag} {inner : Content}
    {others : List (Tag × Content)}
    (first : (Content.ofDocument document).elements = (tag, inner) :: others)
    (closes : inner.closes = true) :
    ∃ es, Root.ofDocument? document = some ⟨tag, es⟩ ∧
      List.Forall₂ Excerpt.Shows es inner.elements := by
  obtain ⟨here, outer, nested⟩ :=
    NestingLemmas.exists_nest (Stream.scan [] (documentText document))
  rw [Content.ofDocument, Stream.ofDocument_eq, nested] at first
  exact root_of_nest nested first closes

/-! ## An element by itself -/

/-- A text that spells a content is read as this content when nothing stands around it. -/
theorem Spells.nest_scan_alone {s : List Char} {c : Content} (h : Spells s c) :
    (Stream.scan [] s).nest = [c.append .eof] := by
  have nothing : (Stream.scan [] []).nest = [.eof] := by
    rw [Stream.scan]
    rfl
  have nested := h.nest_scan atMarkup_nil nothing
  rwa [List.append_nil] at nested

/-- The content of an element that stands by itself. -/
def Excerpt.inner (e : Excerpt) : Content :=
  match (Stream.scan [] e.source).nest with
  | .element _ inner _ :: _ => inner
  | _ => .eof

/-- An element has the content by itself that it has in its document. -/
theorem Excerpt.Shows.inner_eq {e : Excerpt} {tag : Tag} {inner : Content}
    (h : e.Shows (tag, inner)) : e.inner = inner := by
  rw [Excerpt.inner, h.2.nest_scan_alone]
  rfl

/-- No element stands inside the element. -/
def Excerpt.IsLeaf (e : Excerpt) : Prop :=
  Root.ofPieces? (pieces e.source) = some ⟨e.tag, []⟩

theorem Excerpt.Shows.isLeaf {e : Excerpt} {tag : Tag} {inner : Content}
    (h : e.Shows (tag, inner)) (closes : inner.closes = true) (leaf : inner.elements = []) :
    e.IsLeaf := by
  obtain ⟨children, found, shows⟩ := root_of_nest h.2.nest_scan_alone rfl closes
  rw [leaf] at shows
  cases shows
  rw [IsLeaf, found, h.1]

end StreamRemote.Xml
