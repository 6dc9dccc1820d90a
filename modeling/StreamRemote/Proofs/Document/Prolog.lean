import StreamRemote.Proofs.Document.RootName

/-!
# What stands in front of a document

A prolog is what may stand in front of a body: a byte order mark, and then white space, instructions
such as the declaration of the version, comments, and document type declarations, as many of each
and in any order. What is in them may look like elements and end tags, and nobody looks at it.

The white space at the end of a prolog becomes one text with that at the front of the body. This
text is trimmed at its front, so it makes no difference where the one ends and the other begins.

Results:
1. `Markup.writtenAs_doctype`: how document type declarations are written.
2. `Xml.exists_nest_of_prolog`: with a prolog in front, the same comes next in a text.
3. `Document.parse_of_prolog`: a prolog changes nothing in what is read.
-/

namespace StreamRemote

open Xml

namespace Xml

/-! ## Document type declarations -/

/-- The angles in the text are nested: each `<` has a `>` of its own behind it. -/
inductive AnglesNested : List Char → Prop
  | nil : AnglesNested []
  | cons {c : Char} {s : List Char} : c ≠ '<' → c ≠ '>' → AnglesNested s → AnglesNested (c :: s)
  | pair {s t : List Char} :
      AnglesNested s → AnglesNested t → AnglesNested ('<' :: (s ++ '>' :: t))

/-- A search for the `>` that ends a declaration goes through nested angles and on behind them. -/
theorem AnglesNested.splitBalanced?_append {t : List Char} (h : AnglesNested t) (depth : Nat)
    (s : List Char) :
    splitBalanced? depth (t ++ s) =
      (splitBalanced? depth s).map fun split => (t ++ split.1, split.2) := by
  induction h generalizing depth s with
  | nil => simp
  | @cons c t less greater _ ih =>
    rw [List.cons_append, splitBalanced?, ih, Option.map_map]
    · rfl
    · exact less
    · exact fun _ => greater
    · exact fun _ _ => greater
  | @pair t u _ _ inner outer =>
    have whole : '<' :: (t ++ '>' :: u) ++ s = '<' :: (t ++ '>' :: (u ++ s)) := by simp
    rw [whole, splitBalanced?, inner, splitBalanced?, outer, Option.map_map, Option.map_map,
      Option.map_map]
    congr
    funext split
    simp

theorem AnglesNested.append {s t : List Char} (hs : AnglesNested s) (ht : AnglesNested t) :
    AnglesNested (s ++ t) := by
  induction hs with
  | nil => exact ht
  | cons less greater _ ih => exact .cons less greater ih
  | pair inner _ _ ih =>
    rw [List.cons_append, List.append_assoc]
    exact .pair inner ih

theorem anglesNested_of_not_mem {s : List Char} (less : '<' ∉ s) (greater : '>' ∉ s) :
    AnglesNested s := by
  induction s with
  | nil => exact .nil
  | cons c s ih =>
    rw [List.mem_cons, not_or] at less greater
    exact .cons (Ne.symm less.1) (Ne.symm greater.1) (ih less.2 greater.2)

/-- How a document type declaration is written. -/
def doctypeText (keyword content : List Char) : List Char :=
  '<' :: '!' :: (keyword ++ content ++ ['>'])

/-- The keyword of a document type declaration, in letters of either case. -/
def IsDoctype (keyword : List Char) : Prop :=
  keyword.map Char.toUpper = "DOCTYPE".toList

theorem IsDoctype.exists_cons {keyword : List Char} (h : IsDoctype keyword) :
    ∃ c rest, keyword = c :: rest ∧ (c = 'D' ∨ c = 'd') := by
  cases keyword with
  | nil => contradiction
  | cons c rest =>
    refine ⟨c, rest, rfl, ?_⟩
    have first : c.toUpper = 'D' := (List.cons.inj h).1
    unfold Char.toUpper at first
    split at first
    · have value := congrArg (fun d => d.val - ('A'.val - 'a'.val)) first
      simp only [UInt32.add_sub_cancel] at value
      exact .inr (Char.ext value)
    · exact .inl first

theorem IsDoctype.anglesNested {keyword : List Char} (h : IsDoctype keyword) :
    AnglesNested keyword := by
  have capitals : ∀ c ∈ keyword, c.toUpper ∈ "DOCTYPE".toList := by
    intro c mem
    rw [← show keyword.map Char.toUpper = _ from h]
    exact List.mem_map_of_mem mem
  exact anglesNested_of_not_mem (fun less => absurd (capitals _ less) (by decide))
    fun greater => absurd (capitals _ greater) (by decide)

/-- A document type declaration holds anything in which the angles are nested, and not white space
alone. -/
theorem Markup.writtenAs_doctype {keyword content : List Char} (named : IsDoctype keyword)
    (nested : AnglesNested content) (declares : content.all isSpace = false) :
    Markup.doctype.WrittenAs (doctypeText keyword content) := by
  refine ⟨'!', keyword ++ content ++ ['>'], rfl, fun rest => ?_⟩
  have split : splitBalanced? 0 (keyword ++ content ++ ['>'] ++ rest) =
      some (keyword ++ content, rest) := by
    have inside := named.anglesNested.append nested
    rw [List.append_assoc, inside.splitBalanced?_append, List.singleton_append, splitBalanced?]
    simp
  have capitals : keyword.map Char.toUpper = "DOCTYPE".toList := named
  have long : keyword.length = "DOCTYPE".toList.length := by
    simpa using congrArg List.length capitals
  have declared : afterKeyword? "DOCTYPE".toList (keyword ++ content) = some content := by
    rw [afterKeyword?, List.take_left' long, if_pos capitals, List.drop_left' long]
  have found : readDoctype (keyword ++ content ++ ['>'] ++ rest) = .ok (.doctype, rest) := by
    rw [readDoctype, split]
    simp only [declared, declares, Bool.false_eq_true, if_false]
  obtain ⟨c, more, rfl, letter⟩ := named.exists_cons
  have begins : c ≠ '-' ∧ c ≠ '[' := by
    rcases letter with rfl | rfl <;> decide
  rw [Markup.read, if_pos rfl]
  show readDeclaration (c :: (more ++ content ++ ['>'] ++ rest)) = _
  rw [readDeclaration, if_neg begins.1, if_neg begins.2, if_pos letter]
  exact found

/-! ## Prologs -/

/-- The text is a piece of markup that may stand in a prolog. An instruction names what it is for,
so it is not empty. -/
inductive PrologPiece : Markup → List Char → Prop
  | instruction {content : List Char} : content ≠ [] → '>' ∉ content →
      PrologPiece .instruction (instructionText content)
  | comment {content : List Char} : ¬ ['-', '-', '>'] <:+: content →
      PrologPiece .comment (commentText content)
  | doctype {keyword content : List Char} : IsDoctype keyword → AnglesNested content →
      content.all isSpace = false → PrologPiece .doctype (doctypeText keyword content)

/-- The text is white space and pieces of markup that may stand in a prolog. -/
inductive PrologText : List Char → Prop
  | done : PrologText []
  | space {c : Char} {s : List Char} : isSpace c = true → PrologText s → PrologText (c :: s)
  | piece {piece : Markup} {m s : List Char} :
      PrologPiece piece m → PrologText s → PrologText (m ++ s)

/-- The text is a prolog: a byte order mark, which may be missing, and what follows it. -/
inductive Prolog : List Char → Prop
  | marked {s : List Char} : PrologText s → Prolog ('\uFEFF' :: s)
  | unmarked {s : List Char} : PrologText s → Prolog s

theorem PrologPiece.writtenAs {piece : Markup} {m : List Char} (h : PrologPiece piece m) :
    piece.WrittenAs m := by
  cases h with
  | instruction nonempty closed => exact Markup.writtenAs_instruction nonempty closed
  | comment free => exact Markup.writtenAs_comment free
  | doctype named nested declares => exact Markup.writtenAs_doctype named nested declares

/-- Both readers of a document find the same in the two contents: what comes first, and the root. -/
structure Content.BeginsLike (c d : Content) : Prop where
  next : c.next true = d.next true
  root : Document.rootTag c = Document.rootTag d

theorem Content.BeginsLike.refl (c : Content) : c.BeginsLike c := ⟨rfl, rfl⟩

theorem Content.BeginsLike.trans {c d e : Content} (h : c.BeginsLike d) (h' : d.BeginsLike e) :
    c.BeginsLike e :=
  ⟨h.next.trans h'.next, h.root.trans h'.root⟩

/-- A piece of a prolog is passed over by both. -/
theorem PrologPiece.exists_put {piece : Markup} {m : List Char} (h : PrologPiece piece m) :
    ∃ put, piece.alone? = some put ∧ ∀ c, (put c).BeginsLike c := by
  cases h with
  | instruction | comment => exact ⟨.aside, rfl, fun _ => ⟨rfl, rfl⟩⟩
  | doctype => exact ⟨.doctype, rfl, fun _ => ⟨rfl, rfl⟩⟩

open NestingLemmas

/-- With white space in front, a text begins as it did. -/
theorem exists_nest_of_spaces {w s : List Char} {c : Content} {outer : List Content}
    (spaces : w.all isSpace = true) (nested : (Stream.scan [] s).nest = c :: outer) :
    ∃ d outer', (Stream.scan [] (w ++ s)).nest = d :: outer' ∧ d.BeginsLike c := by
  rcases w with _ | ⟨b, w⟩
  · exact ⟨c, outer, nested, .refl c⟩
  have plain := not_mem_of_spaces spaces
  by_cases start : AtMarkup s
  · -- the white space is a text by itself
    refine ⟨.text (b :: w) c, outer, ?_, Content.next_of_spaces spaces c, rfl⟩
    rw [scan_text [] (List.cons_ne_nil b w) plain start]
    simp only [Stream.nest, nested]
  · -- the white space is the beginning of the text that is there
    rcases s with _ | ⟨d, s⟩
    · exact absurd atMarkup_nil start
    have other : d ≠ '<' := by
      rintro rfl
      exact start (atMarkup_cons s)
    obtain ⟨t, rest, whole, nonempty, plain', start'⟩ := exists_text s other
    obtain ⟨here, others, behind⟩ := exists_nest (Stream.scan [] rest)
    rw [whole, scan_text [] nonempty plain' start'] at nested
    simp only [Stream.nest, behind] at nested
    cases nested
    have longer : b :: w ++ t ≠ [] := List.cons_ne_nil _ _
    have plainer : '<' ∉ b :: w ++ t := by
      rw [List.mem_append, not_or]
      exact ⟨plain, plain'⟩
    refine ⟨.text (b :: w ++ t) here, outer, ?_, ?_, rfl⟩
    · rw [whole, ← List.append_assoc, scan_text [] longer plainer start']
      simp only [Stream.nest, behind]
    · rw [Content.next, Content.next, Content.firstPart_of_spaces spaces]

/-- With a prolog in front, a text begins as it did. -/
theorem exists_nest_of_prolog {p s : List Char} {c : Content} {outer : List Content}
    (h : PrologText p) (nested : (Stream.scan [] s).nest = c :: outer) :
    ∃ d outer', (Stream.scan [] (p ++ s)).nest = d :: outer' ∧ d.BeginsLike c := by
  -- text is cut at markup only, so the white space that was passed comes with the next piece
  suffices behind : ∀ w : List Char, w.all isSpace = true → ∃ d outer',
      (Stream.scan [] (w ++ (p ++ s))).nest = d :: outer' ∧ d.BeginsLike c from behind [] rfl
  induction h with
  | done =>
    intro w spaces
    exact exists_nest_of_spaces spaces nested
  | @space b p space _ ih =>
    intro w spaces
    have more : (w ++ [b]).all isSpace = true := by
      rw [List.all_append, spaces]
      simpa using space
    have result := ih (w ++ [b]) more
    rwa [List.append_assoc, List.singleton_append] at result
  | @piece piece m p written _ ih =>
    intro w spaces
    obtain ⟨d, outer', behind, like⟩ := ih [] rfl
    obtain ⟨put, alone, passed⟩ := written.exists_put
    obtain ⟨e, inside, rfl, read⟩ := written.writtenAs
    have front := nest_scan_alone alone (read (p ++ s)) behind
    obtain ⟨d', outer'', nested', like'⟩ := exists_nest_of_spaces spaces front
    refine ⟨d', outer'', ?_, like'.trans ((passed d).trans like)⟩
    simpa using nested'

end Xml

namespace Document

open NestingLemmas

/-! ## Documents -/

/-- A byte order mark is not the first thing in what follows a prolog. -/
theorem head?_of_prologText {p s : List Char} (h : PrologText p)
    (unmarked : s.head? ≠ some '\uFEFF') : (p ++ s).head? ≠ some '\uFEFF' := by
  cases h with
  | done => exact unmarked
  | @space c p space =>
    rintro ⟨⟩
    contradiction
  | piece written =>
    obtain ⟨c, inside, rfl, -⟩ := written.writtenAs
    nofun

/-- What is read of a prolog with a body is what follows the byte order mark. -/
theorem exists_documentText {prolog body : String} (front : Prolog prolog.toList)
    (unmarked : body.toList.head? ≠ some '\uFEFF') :
    ∃ p, PrologText p ∧ documentText (prolog ++ body) = p ++ body.toList := by
  generalize text : prolog.toList = s at front
  cases front with
  | @marked p h =>
    refine ⟨p, h, ?_⟩
    unfold documentText
    rw [String.toList_append, text]
    rfl
  | unmarked h =>
    refine ⟨s, h, ?_⟩
    have behind := head?_of_prologText h unmarked
    rw [← text, ← String.toList_append] at behind
    rw [documentText_of_unmarked behind, String.toList_append, text]

/-- A body begins with a prolog as it does without. -/
theorem beginsLike_of_prolog {prolog body : String} (front : Prolog prolog.toList)
    (unmarked : body.toList.head? ≠ some '\uFEFF') :
    (Content.ofDocument (prolog ++ body)).BeginsLike (Content.ofDocument body) := by
  obtain ⟨p, h, text⟩ := exists_documentText front unmarked
  obtain ⟨c, outer, nested⟩ := exists_nest (Stream.scan [] body.toList)
  obtain ⟨d, outer', nested', like⟩ := exists_nest_of_prolog h nested
  rw [Content.ofDocument, Content.ofDocument, Stream.ofDocument_eq, Stream.ofDocument_eq, text,
    documentText_of_unmarked unmarked, nested, nested']
  exact like

variable (α : Type) [Document α]

theorem readRoot_congr {c d : Content} (h : c.next true = d.next true) :
    readRoot α c = readRoot α d := by
  unfold readRoot
  rw [h]

/-- A prolog changes nothing in what is read of a body that does not begin with a byte order mark
itself, whatever the prolog mentions.

* A body that is not blank is read, or refused, as it is without the prolog.
* A value is read with the prolog if and only if it is read without. In particular, a blank body
  does not become a document by it. -/
theorem parse_of_prolog {prolog body : String} (front : Prolog prolog.toList)
    (unmarked : body.toList.head? ≠ some '\uFEFF') :
    (body.toList.all Text.isBlank = false → parse α (prolog ++ body) = parse α body) ∧
    ∀ a : α, parse α (prolog ++ body) = .ok a ↔ parse α body = .ok a := by
  have like := beginsLike_of_prolog front unmarked
  have same : body.toList.all Text.isBlank = false → parse α (prolog ++ body) = parse α body := by
    intro shown
    have whole : (prolog ++ body).toList.all Text.isBlank = false := by
      rw [String.toList_append, List.all_append, shown, Bool.and_false]
    rw [parse_of_shown whole, parse_of_shown shown, rootName, rootName, like.root,
      readRoot_congr α like.next]
  refine ⟨same, fun a => ?_⟩
  cases blank : body.toList.all Text.isBlank with
  | false => rw [same blank]
  | true =>
    have rootless := rootName_of_blank blank
    have rootless' : rootName (Content.ofDocument (prolog ++ body)) = .error .noRoot := by
      rw [rootName, like.root]
      exact rootless
    exact iff_of_false (parse_ne_ok rootless' a) (parse_ne_ok rootless a)

/-- A list of apps behind a declaration, a comment that mentions a player, and a document type that
declares elements. -/
theorem parse_of_prolog_list :
    let prolog :=
      "\uFEFF<?xml version='1.0'?>\n<!-- <player> -->\t<!DOCTYPE apps [<!ELEMENT app ANY>]>"
    let body := " <apps><app id='12'>TV</app></apps>"
    let list : AppList := ⟨[⟨some "12", none, none, "TV"⟩]⟩
    Prolog prolog.toList ∧ body.toList.head? ≠ some '\uFEFF' ∧ parse AppList body = .ok list ∧
      parse AppList (prolog ++ body) = .ok list := by
  intro prolog body list
  have text : prolog.toList = '\uFEFF' :: (instructionText "xml version='1.0'".toList ++
      '\n' :: (commentText " <player> ".toList ++
        '\t' :: (doctypeText "DOCTYPE".toList " apps [<!ELEMENT app ANY>]".toList ++ []))) := by
    decide +kernel
  have nested : AnglesNested " apps [<!ELEMENT app ANY>]".toList := by
    have before : AnglesNested " apps [".toList := anglesNested_of_not_mem (by decide) (by decide)
    have inside : AnglesNested "!ELEMENT app ANY".toList :=
      anglesNested_of_not_mem (by decide) (by decide)
    have behind : AnglesNested "]".toList := anglesNested_of_not_mem (by decide) (by decide)
    exact before.append (.pair inside behind)
  have version : PrologPiece .instruction (instructionText "xml version='1.0'".toList) :=
    .instruction (by decide) (by decide)
  have remark : PrologPiece .comment (commentText " <player> ".toList) := by
    refine .comment fun ended => ?_
    have dash := ended.subset (List.mem_cons_self (a := '-'))
    exact absurd dash (by decide)
  have type : PrologPiece .doctype
      (doctypeText "DOCTYPE".toList " apps [<!ELEMENT app ANY>]".toList) :=
    .doctype rfl nested (by decide)
  have front : Prolog prolog.toList := by
    rw [text]
    exact .marked (.piece version (.space rfl (.piece remark (.space rfl (.piece type .done)))))
  have unmarked : body.toList.head? ≠ some '\uFEFF' := by decide
  have read : parse AppList body = .ok list := by decide +kernel
  exact ⟨front, unmarked, read, ((parse_of_prolog AppList front unmarked).2 list).mpr read⟩

end Document

end StreamRemote
