import StreamRemote.Proofs.Document.Truncation
import StreamRemote.Proofs.Xml.Continuing

/-!
# The end of a document

A document ends with its root, and only white space, comments and instructions stand behind that.
Reading does not go that far. It ends in the end tag of the root, so a body is read whatever stands
behind the root, and even where the end tag is cut off in front of its `>`.

Results:
1. `Document.parse_ok_iff_rooted`: a body is read if and only if its first element is closed, has
   the name of the type and can be read.
2. `Document.looseEnd_iff`: for each type of documents of which the root has to be closed, the bodies
   that are read though they are no complete document.
3. `Document.incomplete_iff_looseEnd`: the same for the four types of documents.
-/

namespace StreamRemote

open Xml

/-- The text is nothing but white space, comments and instructions. -/
inductive Xml.MiscText : List Char → Prop
  | done : MiscText []
  | space {c : Char} {s : List Char} : isSpace c = true → MiscText s → MiscText (c :: s)
  | comment {content s : List Char} : ¬ ['-', '-', '>'] <:+: content → MiscText s →
      MiscText (commentText content ++ s)
  | instruction {content s : List Char} : ¬ ['?', '>'] <:+: content → MiscText s →
      MiscText (instructionText content ++ s)

/-- No tag is among such things. -/
theorem Xml.MiscText.declared {s : List Char} (h : MiscText ('<' :: s)) :
    ∀ c ∈ s.head?, c = '!' ∨ c = '?' := by
  generalize whole : '<' :: s = text at h
  cases h with
  | done => contradiction
  | space white =>
    cases whole
    contradiction
  | comment | instruction =>
    cases whole
    rintro c ⟨⟩
    decide

namespace Document

/-- The root of the body is closed up to its last `>`, and nothing but white space, comments and
instructions stands behind it. -/
def Complete (body : String) : Prop :=
  ∃ front rest, documentText body = front ++ rest ∧ rootText? (documentText body) = some front ∧
    front.getLast? = some '>' ∧ MiscText rest

/-- The body has a loose end, and its root is read as the value: it goes on behind a document with
something that does not belong there, or it is a document without its last `>`. -/
inductive LooseEnd {α : Type} [Document α] (a : α) : String → Prop
  | behind {front rest : String} :
      rootText? (documentText (front ++ rest)) = some (documentText front) →
      front.toList.getLast? = some '>' → parse α front = .ok a → ¬ MiscText rest.toList →
      LooseEnd a (front ++ rest)
  | within {body : String} : rootText? (documentText body) = some (documentText body) →
      body.toList.getLast? ≠ some '>' → parse α (body ++ ">") = .ok a → LooseEnd a body

/-! ## The text of a body -/

theorem getLast?_documentText {body : String} (nonempty : documentText body ≠ []) :
    (documentText body).getLast? = body.toList.getLast? := by
  unfold documentText at nonempty ⊢
  split at nonempty
  · next same =>
    rw [same, List.getLast?_cons_of_ne_nil nonempty]
  · rfl

theorem toList_ne_nil_of_documentText {body : String} (h : documentText body ≠ []) :
    body.toList ≠ [] := by
  intro nothing
  rw [documentText, nothing] at h
  exact h rfl

/-- A body can be cut where its text can, but not in front of a byte order mark. -/
theorem exists_cut_of_documentText {body : String} {front rest : List Char}
    (h : documentText body = front ++ rest) (nonempty : front ≠ []) :
    ∃ f r : String, body = f ++ r ∧ documentText f = front ∧ r.toList = rest := by
  obtain ⟨f, whole, some⟩ : ∃ f : String, body = f ++ String.ofList rest ∧ f.toList ≠ [] := by
    unfold documentText at h
    split at h
    · next marked same =>
      refine ⟨String.ofList ('\uFEFF' :: front), String.toList_inj.mp ?_, by simp⟩
      rw [same, h]
      simp
    · exact ⟨String.ofList front, String.toList_inj.mp (by simp [h]), by simpa using nonempty⟩
  refine ⟨f, String.ofList rest, whole, ?_, by simp⟩
  rw [whole, documentText_append some, String.toList_ofList] at h
  exact List.append_cancel_right h

theorem mem_of_mem_documentText {c : Char} {body : String} (h : c ∈ documentText body) :
    c ∈ body.toList := by
  unfold documentText at h
  split at h
  · next same =>
    rw [same]
    exact List.mem_cons_of_mem _ h
  · exact h

/-! ## The first element of a body -/

variable {α : Type} [Document α]

/-- The first element of a body is read, if what stands in front of it comes to nothing. -/
theorem parse_of_rooted {body : String} {before inner : Content} {tag : Tag}
    (rooted : Rooted before tag inner (documentText body))
    (nothing : before.next true = .ok .close) (named : tag.key = (Document.root α).toList) :
    parse α body = (Document.read tag inner).mapError .unreadable := by
  obtain ⟨here, outer, nested⟩ := rooted.nest_scan []
  have content : Content.ofDocument body = before.append (.element tag inner here) := by
    rw [Content.ofDocument, Stream.ofDocument_eq, nested]
    rfl
  have first : (Content.ofDocument body).next true = .ok (.element tag inner here) := by
    rw [content, Content.next_append, nothing]
    rfl
  exact parse_of_next (mem_of_mem_documentText rooted.less_mem) first named

/-- A body is read if and only if its first element is closed, has the name of the type and can be
read, and nothing that counts stands in front of it. -/
theorem parse_ok_iff_rooted (closed : ∀ (tag : Tag) (inner : Content) (a : α),
      Document.read tag inner = .ok a → inner.closes = true) {body : String} {a : α} :
    parse α body = .ok a ↔ ∃ before tag inner, Rooted before tag inner (documentText body) ∧
      before.next true = .ok .close ∧ tag.key = (Document.root α).toList ∧
      Document.read tag inner = .ok a := by
  constructor
  · intro h
    obtain ⟨tag, inner, after, next, named, read⟩ := exists_next_of_parse h
    obtain ⟨c, outer, nested⟩ := NestingLemmas.exists_nest (Stream.scan [] (documentText body))
    have content : Content.ofDocument body = c := by
      rw [Content.ofDocument, Stream.ofDocument_eq, nested]
      rfl
    rw [content] at next
    obtain ⟨before, none, rooted⟩ :=
      rooted_of_nest nested (Content.elements_next next).1 (closed _ _ _ read)
    refine ⟨before, tag, inner, rooted, ?_, named, read⟩
    obtain ⟨here, outer', nested'⟩ := rooted.nest_scan []
    rw [nested] at nested'
    obtain ⟨rfl, -⟩ := List.cons.inj nested'
    -- an element comes first in all, but none stands in front of the first element
    rw [Content.next_append] at next
    obtain ⟨e, first, same⟩ := map_ok next
    cases e with
    | close => exact first
    | eof | text => cases same
    | element =>
      rw [(Content.elements_next first).1] at none
      contradiction
  · rintro ⟨before, tag, inner, rooted, nothing, named, read⟩
    rw [parse_of_rooted rooted nothing named, read]
    rfl

/-! ## What stands behind the root -/

theorem ne_nil_of_rootText {s front : List Char} (h : rootText? s = some front) : s ≠ [] := by
  rintro rfl
  rw [rootText?, pieces] at h
  contradiction

/-- Where the root ends, and what stands behind it, tells whether the body is a complete document. -/
theorem complete_iff {body front rest : String} (whole : body = front ++ rest)
    (nonempty : documentText front ≠ [])
    (root : rootText? (documentText body) = some (documentText front)) :
    Complete body ↔ front.toList.getLast? = some '>' ∧ MiscText rest.toList := by
  have text : documentText body = documentText front ++ rest.toList := by
    rw [whole, documentText_append (toList_ne_nil_of_documentText nonempty)]
  rw [← getLast?_documentText nonempty]
  constructor
  · rintro ⟨front', rest', same, root', angle, misc⟩
    cases root.symm.trans root'
    rw [text] at same
    rw [List.append_cancel_left same]
    exact ⟨angle, misc⟩
  · rintro ⟨angle, misc⟩
    exact ⟨_, _, text, root, angle, misc⟩

section Closed

variable (closed : ∀ (tag : Tag) (inner : Content) (a : α),
  Document.read tag inner = .ok a → inner.closes = true) {a : α}

include closed

/-- A body that ends with a `>` is read whatever stands behind it. -/
theorem parse_append {front : String} (angle : front.toList.getLast? = some '>')
    (h : parse α front = .ok a) (rest : String) : parse α (front ++ rest) = .ok a := by
  obtain ⟨before, tag, inner, rooted, nothing, named, read⟩ := (parse_ok_iff_rooted closed).mp h
  have none := (Content.elements_next nothing).1
  have nonempty := List.ne_nil_of_mem rooted.less_mem
  rw [← getLast?_documentText nonempty] at angle
  refine (parse_ok_iff_rooted closed).mpr ⟨before, tag, inner, ?_, nothing, named, read⟩
  obtain ⟨front', rest', whole, -, ⟨-, more⟩ | ⟨cut, rfl, -⟩⟩ := rooted.exists_rootText none
  · rw [documentText_append (toList_ne_nil_of_documentText nonempty), whole, List.append_assoc]
    exact more _
  · rw [whole, List.append_nil] at angle
    contradiction

/-- A body in which only a `>` is missing is read as if it was there. -/
theorem parse_of_append_angle {body : String}
    (root : rootText? (documentText body) = some (documentText body))
    (h : parse α (body ++ ">") = .ok a) : parse α body = .ok a := by
  obtain ⟨before, tag, inner, rooted, nothing, named, read⟩ := (parse_ok_iff_rooted closed).mp h
  have nonempty := toList_ne_nil_of_documentText (ne_nil_of_rootText root)
  rw [documentText_append nonempty] at rooted
  have cut := rooted.of_missing_angle (Content.elements_next nothing).1
    (by rw [root]; exact Option.some_ne_none _)
  exact (parse_ok_iff_rooted closed).mpr ⟨before, tag, inner, cut, nothing, named, read⟩

/-- A body that is read is a document with something behind it, or one in which only a `>` is
missing. -/
theorem exists_root_of_parse {body : String} (h : parse α body = .ok a) :
    ∃ front rest : String, body = front ++ rest ∧ documentText front ≠ [] ∧
      rootText? (documentText body) = some (documentText front) ∧
      (front.toList.getLast? = some '>' ∧ parse α front = .ok a ∨
        front.toList.getLast? ≠ some '>' ∧ rest = "" ∧ parse α (front ++ ">") = .ok a) := by
  obtain ⟨before, tag, inner, rooted, nothing, named, read⟩ := (parse_ok_iff_rooted closed).mp h
  obtain ⟨front, rest, whole, root, ending⟩ :=
    rooted.exists_rootText (Content.elements_next nothing).1
  have nonempty : front ≠ [] := by
    rintro rfl
    rcases ending with ⟨angle, -⟩ | ⟨-, rfl, -⟩
    · contradiction
    · have less := rooted.less_mem
      rw [whole] at less
      contradiction
  obtain ⟨f, r, rfl, rfl, rfl⟩ := exists_cut_of_documentText whole nonempty
  refine ⟨f, r, rfl, nonempty, root, ?_⟩
  rw [← getLast?_documentText nonempty]
  -- the root is the same in both cases, and nothing is read behind it
  rcases ending with ⟨angle, more⟩ | ⟨angle, ended, more⟩
  · have alone := more []
    rw [List.append_nil] at alone
    exact .inl ⟨angle, (parse_ok_iff_rooted closed).mpr
      ⟨before, tag, inner, alone, nothing, named, read⟩⟩
  · have mended := more []
    rw [← String.toList_singleton,
      ← documentText_append (toList_ne_nil_of_documentText nonempty)] at mended
    exact .inr ⟨angle, String.toList_eq_nil_iff.mp ended, (parse_ok_iff_rooted closed).mpr
      ⟨before, tag, inner, mended, nothing, named, read⟩⟩

/-- The bodies that are read though they are no complete document are those with a loose end. -/
theorem looseEnd_iff {body : String} :
    parse α body = .ok a ∧ ¬ Complete body ↔ LooseEnd a body := by
  constructor
  · rintro ⟨h, incomplete⟩
    obtain ⟨front, rest, whole, nonempty, root, ⟨angle, read⟩ | ⟨angle, rfl, read⟩⟩ :=
      exists_root_of_parse closed h
    · rw [complete_iff whole nonempty root] at incomplete
      subst whole
      exact .behind root angle read fun misc => incomplete ⟨angle, misc⟩
    · rw [String.append_empty] at whole
      subst whole
      exact .within root angle read
  · intro h
    cases h with
    | @behind front rest root angle h foreign =>
      refine ⟨parse_append closed angle h rest, ?_⟩
      have nonempty : documentText front ≠ [] := by
        obtain ⟨_, _, _, rooted, -⟩ := (parse_ok_iff_rooted closed).mp h
        exact List.ne_nil_of_mem rooted.less_mem
      rw [complete_iff rfl nonempty root]
      exact fun complete => foreign complete.2
    | within root angle h =>
      refine ⟨parse_of_append_angle closed root h, ?_⟩
      rw [complete_iff String.append_empty.symm (ne_nil_of_rootText root) root]
      exact fun complete => angle complete.1

end Closed

/-- Of each type of documents, the bodies that are read though they are no complete document are
those with a loose end. -/
theorem incomplete_iff_looseEnd (body : String) :
    (∀ info : DeviceInfo, parse DeviceInfo body = .ok info ∧ ¬ Complete body ↔
      LooseEnd info body) ∧
    (∀ active : ActiveApp, parse ActiveApp body = .ok active ∧ ¬ Complete body ↔
      LooseEnd active body) ∧
    (∀ list : AppList, parse AppList body = .ok list ∧ ¬ Complete body ↔ LooseEnd list body) ∧
    (∀ status : PlayerStatus, parse PlayerStatus body = .ok status ∧ ¬ Complete body ↔
      LooseEnd status body) := by
  refine ⟨fun _ => looseEnd_iff fun _ _ _ read => ?_, fun _ => looseEnd_iff fun _ _ _ read => ?_,
    fun _ => looseEnd_iff fun _ _ _ read => ?_, fun _ => looseEnd_iff fun _ _ _ read => ?_⟩
  · obtain ⟨draft, record, -⟩ := bind_ok read
    exact closes_of_readElement rfl record
  · obtain ⟨draft, record, -⟩ := bind_ok read
    exact closes_of_readElement rfl record
  · exact (AppList.read_ok read).1
  · obtain ⟨draft, record, -⟩ := bind_ok read
    exact closes_of_readElement rfl record

/-- A list of apps with a start tag behind it, and one of which the end tag is cut off: both are
read as the empty list, and neither is a complete document. -/
theorem incomplete_read_two :
    (parse AppList "<apps></apps><x>" = .ok ⟨[]⟩ ∧ ¬ Complete "<apps></apps><x>") ∧
      parse AppList "<apps></apps" = .ok ⟨[]⟩ ∧ ¬ Complete "<apps></apps" := by
  have tagBehind : ¬ MiscText "<x>".toList := fun misc =>
    absurd (misc.declared 'x' rfl) (by decide)
  have behind : "<apps></apps><x>" = "<apps></apps>" ++ "<x>" := rfl
  have within : "<apps></apps" = "<apps></apps" ++ "" := rfl
  refine ⟨⟨by decide +kernel, ?_⟩, by decide +kernel, ?_⟩
  · rw [complete_iff behind (by decide) (by decide +kernel)]
    exact fun complete => tagBehind complete.2
  · rw [complete_iff within (by decide) (by decide +kernel)]
    exact fun complete => absurd complete.1 (by decide)

end Document

end StreamRemote
