import StreamRemote.Proofs.Call
import StreamRemote.Proofs.Document.Root

/-!
# The name of the root

The type of a document shows in the name of its root, which is compared before anything is read. It
takes no more to find this name than to go through the pieces of markup until a tag comes; `firstTag`
does just this. How texts are put together, which of them count, and how elements are nested matters
for what is read, but not for the name: the element that comes first when the document is read is the
one whose name was compared.

Results:
1. `Document.rootTag_ofDocument`: the root is the first tag in the text.
2. `Document.rootName_of_parse`: what is read has a root with the name of its type.
3. `Document.rootName_guards`: a body can be read as one type of documents at most, and all other
   types refuse it for its name.
-/

namespace StreamRemote

open Xml

/-! ## The first tag of a text -/

namespace Xml

/-- What a piece of markup tells about the first tag of a text, if it comes first: an end tag has
nothing to close there. -/
def Markup.firstTag? : Markup → Option (Except ReadError Tag)
  | opening tag | single tag => some (.ok tag)
  | closing found => some (.error (.markup (.mismatch "" (String.ofList found))))
  | comment | characterData _ | doctype | instruction => none

/-- The first tag of a text, or else what there is instead. -/
def firstTag : List Char → Except ReadError Tag
  | [] => .error .noRoot
  | ['<'] => .error .noRoot
  | '<' :: c :: rest =>
    match _read : Markup.read c rest with
    | .error cause => .error (.markup cause)
    | .ok (piece, behind) => piece.firstTag?.getD (firstTag behind)
  | _ :: rest => firstTag (rest.dropWhile (· ≠ '<'))
termination_by text => text.length
decreasing_by
  · have := Markup.length_read_le _read
    simp only [List.length_cons]
    omega
  · exact Nat.lt_succ_of_le (List.dropWhile_sublist _).length_le

end Xml

namespace Document

open NestingLemmas

/-- A text without markup has no root. -/
theorem firstTag_of_not_mem {s : List Char} (plain : '<' ∉ s) : firstTag s = .error .noRoot := by
  cases s with
  | nil => rw [firstTag]
  | cons c s =>
    rw [List.mem_cons, not_or] at plain
    have dropped := (cut_ne_append (s := []) plain.2 (by simp)).2
    rw [List.append_nil] at dropped
    rw [firstTag, dropped, firstTag]
    · exact fun same => absurd same.symm plain.1
    · exact fun _ _ same => absurd same.symm plain.1

/-- The root of what is read from a text is its first tag. -/
theorem rootTag_of_nest {s : List Char} {c : Content} {outer : List Content}
    (h : (Stream.scan [] s).nest = c :: outer) : rootTag c = firstTag s := by
  fun_induction firstTag s generalizing c outer with
  | case1 | case2 =>
    rw [Stream.scan] at h
    cases h
    rfl
  | case3 d rest cause read =>
    rw [scan_fault [] read] at h
    cases h
    rfl
  | case4 d rest piece behind read ih =>
    obtain ⟨here, others, nested⟩ := exists_nest (Stream.scan [] behind)
    cases piece with
    | opening tag =>
      -- whether the element is closed or not, it comes first
      rw [scan_read [] read] at h
      simp only [Markup.tokens, Stream.prepend_cons, Stream.prepend_nil] at h
      obtain ⟨inner, others, nested⟩ := exists_nest (Stream.scan [tag.name] behind)
      cases others <;> simp only [Stream.nest, nested] at h <;> cases h <;> rfl
    | closing found =>
      rw [scan_read [] read] at h
      cases h
      rfl
    | single tag =>
      rw [nest_scan_alone rfl read nested] at h
      cases h
      rfl
    | comment | characterData | doctype | instruction =>
      rw [nest_scan_alone rfl read nested] at h
      cases h
      have behind := ih nested
      exact behind
  | case5 d rest alone plain ih =>
    obtain ⟨here, others, nested⟩ := exists_nest (Stream.scan [] (rest.dropWhile (· ≠ '<')))
    rw [Stream.scan] at h
    · simp only [Stream.nest, nested] at h
      cases h
      have behind := ih nested
      exact behind
    · exact alone
    · exact plain

/-- The root of a document is the first tag in its text. -/
theorem rootTag_ofDocument (body : String) :
    rootTag (Content.ofDocument body) = firstTag (documentText body) := by
  obtain ⟨here, outer, nested⟩ := exists_nest (Stream.scan [] (documentText body))
  rw [Content.ofDocument, Stream.ofDocument_eq, nested]
  exact rootTag_of_nest nested

/-- A blank body has no root. -/
theorem rootName_of_blank {body : String} (blank : body.toList.all Text.isBlank = true) :
    rootName (Content.ofDocument body) = .error .noRoot := by
  have unmarked : body.toList.head? ≠ some '\uFEFF' := by
    intro mark
    have solid := List.all_eq_true.mp blank _ (List.mem_of_mem_head? mark)
    contradiction
  have plain : '<' ∉ body.toList := by
    intro bracket
    have solid := List.all_eq_true.mp blank _ bracket
    contradiction
  rw [rootName, rootTag_ofDocument, documentText_of_unmarked unmarked, firstTag_of_not_mem plain]
  rfl

/-! ## The name of the root and the type of the document -/

variable {α : Type} [Document α] {body : String}

/-- What is read has a root with the name of its type. -/
theorem rootName_of_parse {a : α} (h : parse α body = .ok a) :
    rootName (Content.ofDocument body) = .ok (Document.root α) := by
  obtain ⟨tag, inner, after, next, named, -⟩ := exists_next_of_parse h
  rw [rootName_of_next next, named, String.ofList_toList]

/-- What has no root is not read. -/
theorem parse_ne_ok {cause : ReadError} (failed : rootName (Content.ofDocument body) = .error cause)
    (a : α) : parse α body ≠ .ok a := by
  intro read
  rw [rootName_of_parse read] at failed
  contradiction

/-- A body of which the root has another name is refused for this name. -/
theorem parse_of_otherRoot {name : String} (shown : body.toList.all Text.isBlank = false)
    (named : rootName (Content.ofDocument body) = .ok name) (other : Document.root α ≠ name) :
    parse α body = .error (.unreadable (.wrongRoot (Document.root α) name)) := by
  rw [parse_of_shown shown, named]
  show (if name = Document.root α then _ else throw _ : Except ReadError α).mapError _ = _
  rw [if_neg other.symm]
  rfl

/-- A body without a root is refused for what there is instead. -/
theorem parse_of_noRoot {cause : ReadError} (shown : body.toList.all Text.isBlank = false)
    (failed : rootName (Content.ofDocument body) = .error cause) :
    parse α body = .error (.unreadable cause) := by
  rw [parse_of_shown shown, failed]
  rfl

end Document

namespace Query

/-- The name of the root of the documents that answer a query. -/
def root : Query → String
  | deviceInfo => Document.root DeviceInfo
  | activeApp => Document.root ActiveApp
  | apps => Document.root AppList
  | player => Document.root PlayerStatus

theorem root_injective {q q' : Query} (h : q.root = q'.root) : q = q' := by
  revert h
  cases q <;> cases q' <;> decide

/-- What answers a query has a root with the name that belongs to it. -/
theorem Answers.rootName {q : Query} {body : String} {found : Outcome} (h : q.Answers body found) :
    Document.rootName (Content.ofDocument body) = .ok q.root := by
  cases h with
  | deviceInfo read | activeApp read | apps read | player read =>
    exact Document.rootName_of_parse read

end Query

namespace Document

/-- The name that is compared is that of the first tag in the text.

* If there is such a name, then the element that comes first when the body is read has it. The body
  can be read only as a type of documents whose root has the name, and all other types refuse it with
  the two names, unless it is blank.
* If there is none, then all types refuse the body for the same cause, unless it is blank.
* No body answers two queries. -/
theorem rootName_guards (body : String) :
    rootName (Content.ofDocument body) =
      (firstTag (documentText body)).map (fun tag => String.ofList tag.key) ∧
    (∀ name, rootName (Content.ofDocument body) = .ok name →
      (∀ tag inner after, (Content.ofDocument body).next true = .ok (.element tag inner after) →
        String.ofList tag.key = name) ∧
      (∀ (α : Type) [Document α] (a : α), parse α body = .ok a → Document.root α = name) ∧
      (body.toList.all Text.isBlank = false → ∀ (α : Type) [Document α], Document.root α ≠ name →
        parse α body = .error (.unreadable (.wrongRoot (Document.root α) name)) ∧
        ReadError.message (.wrongRoot (Document.root α) name) =
          "expected <" ++ Document.root α ++ "> document, found <" ++ name ++ ">")) ∧
    (∀ cause, rootName (Content.ofDocument body) = .error cause →
      body.toList.all Text.isBlank = false → ∀ (α : Type) [Document α],
        parse α body = .error (.unreadable cause)) ∧
    (∀ q q' : Query, ∀ found found', q.readBody body = .ok found →
      q'.readBody body = .ok found' → q = q') := by
  refine ⟨?_, fun name named => ⟨fun tag inner after next => ?_, fun α _ a read => ?_,
    fun shown α _ other => ⟨parse_of_otherRoot shown named other, rfl⟩⟩,
    fun cause failed shown α _ => parse_of_noRoot shown failed, fun q q' found found' h h' => ?_⟩
  · rw [rootName, rootTag_ofDocument]
  · exact Except.ok.inj ((rootName_of_next next).symm.trans named)
  · exact Except.ok.inj ((rootName_of_parse read).symm.trans named)
  · have named := (Query.readBody_ok_iff.mp h).rootName
    have named' := (Query.readBody_ok_iff.mp h').rootName
    exact Query.root_injective (Except.ok.inj (named.symm.trans named'))

/-- A list of apps behind things that mention a player, and a body that begins with an end tag. -/
theorem rootName_guards_two :
    let list := "<?xml version='1.0'?><!DOCTYPE player><!-- <player/> --> <r:apps/>"
    parse AppList list = .ok ⟨[]⟩ ∧
      parse PlayerStatus list = .error (.unreadable (.wrongRoot "player" "apps")) ∧
      ∀ (α : Type) [Document α],
        parse α " </apps >" = .error (.unreadable (.markup (.mismatch "" "apps "))) := by
  intro list
  have named : rootName (Content.ofDocument list) = .ok "apps" := by decide +kernel
  have failed : rootName (Content.ofDocument " </apps >") =
      .error (.markup (.mismatch "" "apps ")) := by
    decide +kernel
  obtain ⟨-, guards, -, -⟩ := rootName_guards list
  obtain ⟨-, -, refusals, -⟩ := rootName_guards " </apps >"
  obtain ⟨-, -, refused⟩ := guards "apps" named
  exact ⟨by decide +kernel, (refused (by decide) PlayerStatus (by decide)).1,
    refusals _ failed (by decide)⟩

end Document

end StreamRemote
