import StreamRemote.Proofs.Xml.Outline

/-!
# Places in a document

Between any two pieces of a document is a place, and a number of elements is open there. Two kinds
of places are told apart by this number: the end of the first element, and the places at which an
element may be put into it, right behind its start tag or right behind an element in it. As in
`Root.ofDocument?`, elements are counted and their names play no part.

Results:
1. `Spells.append`: what is spelled by two texts that stand one behind the other.
2. `Spells.exists_places`: the places in a text that spells a content, and how the content is cut at
   them.
-/

namespace StreamRemote.Xml

/-- A place behind a piece of a document: the text up to it, how many elements are open there, and
whether the piece is a tag. -/
structure Place where
  front : List Char
  depth : Nat
  behindTag : Bool
deriving DecidableEq, Repr

/-- The piece is a tag. -/
def Piece.isTag (p : Piece) : Bool :=
  match p.markup with
  | some (.opening _) | some (.single _) | some (.closing _) => true
  | _ => false

/-- How many elements are open behind a piece. -/
def Piece.depthBehind (depth : Nat) (p : Piece) : Nat :=
  match p.markup with
  | some (.opening _) => depth + 1
  | some (.closing _) => depth - 1
  | _ => depth

/-- The places behind the pieces of a text, behind another text with open elements. -/
def places (front : List Char) (depth : Nat) : List Piece → List Place
  | [] => []
  | p :: rest =>
    ⟨front ++ p.source, p.depthBehind depth, p.isTag⟩ ::
      places (front ++ p.source) (p.depthBehind depth) rest

/-- The place is right behind a tag, with this many elements open. -/
def Place.isBehindTag (depth : Nat) (p : Place) : Bool :=
  p.behindTag && p.depth == depth

theorem Place.isBehindTag_iff {depth : Nat} {p : Place} :
    p.isBehindTag depth = true ↔ p.behindTag = true ∧ p.depth = depth := by
  simp [isBehindTag]

/-- The text up to the end of the first element. -/
def rootText? (document : List Char) : Option (List Char) :=
  ((places [] 0 (pieces document)).find? (·.isBehindTag 0)).map Place.front

/-- The texts up to the places in the first element that are right behind its start tag or right
behind an element in it. -/
def childPlaces (document : List Char) : List (List Char) :=
  (((places [] 0 (pieces document)).takeWhile (!·.isBehindTag 0)).filter (·.isBehindTag 1)).map
    Place.front

/-! ## Texts and contents that go on -/

namespace Content

theorem append_assoc (c d e : Content) : (c.append d).append e = c.append (d.append e) := by
  induction c <;> simp_all [append]

theorem elements_append {c : Content} (h : c.closes = true) (d : Content) :
    (c.append d).elements = c.elements ++ d.elements := by
  induction c with
  | close => rfl
  | eof | fault => contradiction
  | text _ _ ih | characterData _ _ ih | doctype _ ih | aside _ ih => exact ih h
  | element tag inner _ _ ih => exact congrArg ((tag, inner) :: ·) (ih h)

end Content

/-- A text in front of markup and the markup spell the two contents one after the other. -/
theorem Spells.append {s t : List Char} {c d : Content} (h : Spells s c) (next : AtMarkup t)
    (behind : Spells t d) : Spells (s ++ t) (c.append d) := by
  induction h with
  | close => exact behind
  | text nonempty plain start _ ih =>
    rw [List.append_assoc]
    exact .text nonempty plain (start.append next) ih
  | piece alone written _ ih =>
    rw [Markup.append_alone alone, List.append_assoc]
    exact .piece alone written ih
  | element opening inner closing same _ _ ih =>
    have whole := Spells.element opening inner closing same ih
    simpa [Content.append] using whole

/-! ## Places in a text -/

/-- The text is cut in two, and the content that it spells with it, right behind an element. -/
structure Cut (s : List Char) (c : Content) (t u : List Char) (first : Content) (tag : Tag)
    (inner back : Content) : Prop where
  text : s = t ++ u
  content : c = first.append (.element tag inner back)
  closes : first.closes = true
  spelled : Spells t (first.append (.element tag inner .close))
  behind : Spells u back

/-- What is put in front of a text is put in front of its first part. -/
theorem Cut.prepend {m s t u : List Char} {c first inner back : Content} {tag : Tag}
    {put : Content → Content} (h : Cut s c t u first tag inner back)
    (append : ∀ d e, (put d).append e = put (d.append e)) (closes : ∀ d, (put d).closes = d.closes)
    (spelled : ∀ d, Spells t d → Spells (m ++ t) (put d)) :
    Cut (m ++ s) (put c) (m ++ t) u (put first) tag inner back where
  text := by rw [h.text, List.append_assoc]
  content := by rw [h.content, append]
  closes := by rw [closes, h.closes]
  spelled := by
    rw [append]
    exact spelled _ h.spelled
  behind := h.behind

/-- What a place in a text that spells a content can be; the text stands behind `front`, with
`depth` elements open. -/
structure Place.Within (front : List Char) (depth : Nat) (s : List Char) (c : Content)
    (p : Place) : Prop where
  deep : depth ≤ p.depth
  elements : p.behindTag = true → c.elements ≠ []
  cut : p.isBehindTag depth = true → ∃ t u first tag inner back,
    p.front = front ++ t ∧ Cut s c t u first tag inner back

theorem Place.Within.prepend {front m s : List Char} {depth : Nat} {c : Content} {p : Place}
    {put : Content → Content} (h : p.Within (front ++ m) depth s c)
    (append : ∀ d e, (put d).append e = put (d.append e)) (closes : ∀ d, (put d).closes = d.closes)
    (elements : c.elements ≠ [] → (put c).elements ≠ [])
    (spelled : ∀ t u d, s = t ++ u → Spells t d → Spells (m ++ t) (put d)) :
    p.Within front depth (m ++ s) (put c) where
  deep := h.deep
  elements tag := elements (h.elements tag)
  cut tag := by
    obtain ⟨t, u, first, tag, inner, back, place, cut⟩ := h.cut tag
    exact ⟨m ++ t, u, put first, tag, inner, back, by rw [place, List.append_assoc],
      cut.prepend append closes fun d => spelled t u d cut.text⟩

theorem places_cons (front : List Char) (depth : Nat) (p : Piece) (rest : List Piece) :
    places front depth (p :: rest) =
      ⟨front ++ p.source, p.depthBehind depth, p.isTag⟩ ::
        places (front ++ p.source) (p.depthBehind depth) rest := rfl

/-- Between the pieces of a text that spells a content, all elements that are open in front of the
text stay open, and the content is cut where they are all that is open behind a tag. -/
theorem Spells.exists_places {s : List Char} {c : Content} (h : Spells s c) {rest : List Char}
    (next : AtMarkup rest) (front : List Char) (depth : Nat) :
    ∃ inside, places front depth (pieces (s ++ rest)) =
        inside ++ places (front ++ s) depth (pieces rest) ∧
      ∀ p ∈ inside, p.Within front depth s c := by
  induction h generalizing rest front depth with
  | close => exact ⟨[], by simp, by simp⟩
  | @text t s c nonempty plain start _ ih =>
    obtain ⟨inside, same, within⟩ := ih next (front ++ t) depth
    refine ⟨⟨front ++ t, depth, false⟩ :: inside, ?_, List.forall_mem_cons.mpr ⟨?_, ?_⟩⟩
    · rw [List.append_assoc, pieces_text nonempty plain (start.append next), ← List.append_assoc]
      exact congrArg _ same
    · exact ⟨Nat.le_refl _, nofun, nofun⟩
    · intro p hp
      refine (within p hp).prepend (fun _ _ => rfl) (fun _ => rfl) id fun u v d same spelled => ?_
      exact .text nonempty plain (AtMarkup.of_append (same ▸ start)) spelled
  | @piece piece put m s c alone written spelled ih =>
    obtain ⟨inside, same, within⟩ := ih next (front ++ m) depth
    have behind : Piece.depthBehind depth ⟨m, some piece⟩ = depth := by
      cases piece <;> first | rfl | contradiction
    refine ⟨⟨front ++ m, depth, Piece.isTag ⟨m, some piece⟩⟩ :: inside, ?_,
      List.forall_mem_cons.mpr ⟨?_, ?_⟩⟩
    · rw [List.append_assoc, pieces_writtenAs written, ← List.append_assoc]
      show _ :: places (front ++ m) _ _ = _
      rw [behind, same]
      rfl
    · cases piece with
      | single tag =>
        cases alone
        refine ⟨Nat.le_refl _, fun _ => List.cons_ne_nil _ _, fun _ => ?_⟩
        have whole : Spells m (.element tag .close .close) := by
          simpa using Spells.piece rfl written .close
        exact ⟨m, s, .close, tag, .close, c, rfl, rfl, rfl, rfl, whole, spelled⟩
      | opening | closing => contradiction
      | _ => exact ⟨Nat.le_refl _, nofun, nofun⟩
    · intro p hp
      refine (within p hp).prepend (Markup.append_alone alone) (Markup.closes_alone alone) ?_
        fun _ _ _ _ spelled => .piece alone written spelled
      intro some
      cases piece <;> cases alone <;> first | exact some | exact List.cons_ne_nil _ _
  | @element tag m s k x t inner c opening spelled closing named spelled' innerIh ih =>
    -- one level deeper up to the end tag, which leads back to the level before
    obtain ⟨deeper, same, within⟩ :=
      innerIh (closing.atMarkup (t ++ rest)) (front ++ m) (depth + 1)
    obtain ⟨inside, same', within'⟩ := ih next (front ++ (m ++ (s ++ k))) depth
    have whole : Spells (m ++ (s ++ k)) (.element tag inner .close) := by
      simpa using Spells.element opening spelled closing named .close
    refine ⟨⟨front ++ m, depth + 1, true⟩ ::
      (deeper ++ ⟨front ++ (m ++ (s ++ k)), depth, true⟩ :: inside), ?_, ?_⟩
    · simp only [List.append_assoc] at same same' ⊢
      rw [pieces_writtenAs opening, places_cons]
      show _ :: places (front ++ m) (depth + 1) _ = _
      rw [same, pieces_writtenAs closing, places_cons]
      simp only [Piece.depthBehind, Piece.isTag, Nat.add_sub_cancel, List.append_assoc, same',
        List.cons_append]
    · have elements : (Content.element tag inner c).elements ≠ [] := List.cons_ne_nil _ _
      intro p hp
      simp only [List.mem_cons, List.mem_append] at hp
      rcases hp with rfl | hp | rfl | hp
      · exact ⟨Nat.le_succ _, fun _ => elements, fun hit => by simp [Place.isBehindTag_iff] at hit⟩
      · have deep := (within p hp).deep
        refine ⟨by omega, fun _ => elements, fun hit => ?_⟩
        have level := (Place.isBehindTag_iff.mp hit).2
        omega
      · refine ⟨Nat.le_refl _, fun _ => elements, fun _ => ?_⟩
        exact ⟨m ++ (s ++ k), t, .close, tag, inner, c, rfl, by simp, rfl, rfl, whole, spelled'⟩
      · have cut : p.Within front depth (m ++ (s ++ k) ++ t) (.element tag inner c) :=
          (within' p hp).prepend (fun _ _ => rfl) (fun _ => rfl) (fun _ => elements)
            fun _ _ d _ ht => by simpa using Spells.element opening spelled closing named ht
        simpa using cut

end StreamRemote.Xml
