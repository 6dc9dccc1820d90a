import StreamRemote.Proofs.Xml.Writing
import StreamRemote.Xml.Attribute

/-!
# Writing attributes

How the attributes of a tag are written behind its name: each is set off by white space, its value
stands in double quotes, and white space may stand around the `=` and in front of the end of the
tag.

Results:
1. `AttributesText.plain`: attributes leave no quote open, so the tag ends where it should.
2. `AttributesText.attributes_eq`: they are read one after the other, as they are written.
-/

namespace StreamRemote.Xml

/-- The text has the attributes one after the other. -/
inductive AttributesText : List Attribute → List Char → Prop
  | done {w : List Char} : w.all isSpace = true → AttributesText [] w
  | more {a : Attribute} {w p q s : List Char} {others : List Attribute} :
      w ≠ [] → w.all isSpace = true → PlainName a.name → p.all isSpace = true →
      q.all isSpace = true → '"' ∉ a.value → AttributesText others s →
      AttributesText (a :: others)
        (w ++ (a.name ++ (p ++ '=' :: (q ++ '"' :: (a.value ++ '"' :: s)))))

/-! ## The end of the tag -/

namespace AttributeTextLemmas

theorem quotesClosed_of_spaces {w : List Char} (h : w.all isSpace = true) : QuotesClosed w := by
  refine quotesClosed_of_plain fun c hc => ?_
  have space : isSpace c = true := List.all_eq_true.mp h c hc
  refine ⟨?_, ?_, ?_⟩ <;> rintro rfl <;> contradiction

theorem quotesClosed_equals : QuotesClosed ['='] := by
  refine quotesClosed_of_plain fun c hc => ?_
  rw [List.mem_singleton.mp hc]
  decide

end AttributeTextLemmas

open AttributeTextLemmas

variable {attributes : List Attribute} {s : List Char}

theorem AttributesText.quotesClosed (h : AttributesText attributes s) : QuotesClosed s := by
  induction h with
  | done spaces => exact quotesClosed_of_spaces spaces
  | @more a w p q s others _ before name between behind value _ ih =>
    have whole := (quotesClosed_of_spaces before).append (name.quotesClosed.append
      ((quotesClosed_of_spaces between).append (quotesClosed_equals.append
        ((quotesClosed_of_spaces behind).append ((quotesClosed_quoted value).append ih)))))
    simpa using whole

/-- Attributes end with a quote or with white space. -/
theorem AttributesText.last (h : AttributesText attributes s) : s.getLast? ≠ some '/' := by
  induction h with
  | done spaces =>
    intro slash
    have space := List.all_eq_true.mp spaces _ (List.mem_of_getLast? slash)
    contradiction
  | @more a w p q s others _ _ _ _ _ _ _ ih =>
    have same : w ++ (a.name ++ (p ++ '=' :: (q ++ '"' :: (a.value ++ '"' :: s)))) =
        (w ++ (a.name ++ (p ++ '=' :: (q ++ '"' :: a.value)))) ++ '"' :: s := by simp
    rw [same, List.getLast?_append]
    cases s with
    | nil => simp
    | cons c s => simpa using ih

theorem AttributesText.head (h : AttributesText attributes s) :
    ∀ c ∈ s.head?, isSpace c = true := by
  cases h with
  | done spaces =>
    intro c hc
    exact List.all_eq_true.mp spaces c (List.mem_of_mem_head? hc)
  | @more a w p q s others nonempty before =>
    intro c hc
    obtain ⟨d, w, rfl⟩ := List.exists_cons_of_ne_nil nonempty
    cases hc
    exact List.all_eq_true.mp before c List.mem_cons_self

/-- A tag with a plain name and such attributes can be written. -/
theorem AttributesText.plain (h : AttributesText attributes s) {name : List Char}
    (plain : PlainName name) : Tag.Plain ⟨name, s⟩ :=
  ⟨plain, h.head, h.last, h.quotesClosed⟩

/-- An attribute is set off by a blank from what stands in front of it. -/
theorem AttributesText.blank {a : Attribute} (name : PlainName a.name) (closed : '"' ∉ a.value)
    (h : AttributesText attributes s) :
    AttributesText (a :: attributes)
      (' ' :: (a.name ++ '=' :: '"' :: (a.value ++ '"' :: s))) :=
  .more (w := [' ']) (p := []) (q := []) (List.cons_ne_nil _ _) rfl name rfl rfl closed h

theorem AttributesText.plainName (h : AttributesText attributes s) :
    ∀ a ∈ attributes, PlainName a.name := by
  induction h with
  | done => exact nofun
  | more _ _ name _ _ _ _ ih => exact List.forall_mem_cons.mpr ⟨name, ih⟩

/-! ## Reading the attributes -/

namespace AttributeTextLemmas

theorem dropWhile_spaces {w t : List Char} (spaces : w.all isSpace = true)
    (solid : ∀ c ∈ t.head?, isSpace c = false) : (w ++ t).dropWhile isSpace = t :=
  (cut_append (List.all_eq_true.mp spaces) solid).2

/-- The name of an attribute ends at the `=`, or at the white space in front of it. -/
theorem cut_name {c : Char} {n p : List Char} (name : PlainName (c :: n))
    (spaces : p.all isSpace = true) (t : List Char) :
    (n ++ (p ++ '=' :: t)).takeWhile (!Attribute.endsName ·) = n ∧
      (n ++ (p ++ '=' :: t)).dropWhile (!Attribute.endsName ·) = p ++ '=' :: t := by
  refine cut_append (fun d hd => ?_) fun d hd => ?_
  · have mem : d ∈ c :: n := List.mem_cons_of_mem _ hd
    simp [Attribute.endsName, name.ne mem (d := '=') rfl, name.isSpace_eq mem]
  · cases p with
    | nil =>
      cases hd
      rfl
    | cons b p =>
      cases hd
      have space : isSpace d = true := List.all_eq_true.mp spaces d List.mem_cons_self
      simp [Attribute.endsName, space]

theorem readValue_quoted {q v : List Char} (total : Nat) (spaces : q.all isSpace = true)
    (closed : '"' ∉ v) (s : List Char) :
    Attribute.readValue total (q ++ '"' :: (v ++ '"' :: s)) = .ok (v, s) := by
  have start : (q ++ '"' :: (v ++ '"' :: s)).dropWhile isSpace = '"' :: (v ++ '"' :: s) := by
    refine dropWhile_spaces spaces ?_
    rintro c ⟨⟩
    rfl
  obtain ⟨taken, dropped⟩ := cut_ne_append (s := '"' :: s) closed (by simp)
  rw [Attribute.readValue, start]
  simp only [true_or, if_true, dropped, taken]

/-- Reading goes past one attribute to the next. -/
theorem readAll_cons {total : Nat} {seen : List (List Char × Nat)} {c : Char}
    {s rest n behind v after : List Char} (start : s.dropWhile isSpace = c :: rest)
    (name : rest.takeWhile (!Attribute.endsName ·) = n)
    (equals : (rest.dropWhile (!Attribute.endsName ·)).dropWhile isSpace = '=' :: behind)
    (unseen : seen.lookup (c :: n) = none)
    (value : Attribute.readValue total behind = .ok (v, after)) :
    Attribute.readAll total seen s = .ok ⟨c :: n, v⟩ ::
      Attribute.readAll total ((c :: n, total - Text.byteLength (c :: rest)) :: seen) after := by
  rw [Attribute.readAll]
  split
  · next found =>
    rw [start] at found
    contradiction
  · next found =>
    rw [start] at found
    cases found
    simp only [name]
    split
    · next found =>
      rw [equals] at found
      cases found
      rw [unseen]
      simp only
      split
      · next found =>
        rw [value] at found
        contradiction
      · next found =>
        rw [value] at found
        cases found
        rfl
    · next other => exact absurd equals (other _)

end AttributeTextLemmas

/-- Attributes of different names are read as they are written, behind others of other names. -/
theorem AttributesText.readAll_eq (h : AttributesText attributes s) (total : Nat)
    {seen : List (List Char × Nat)} (different : (attributes.map Attribute.name).Nodup)
    (unseen : ∀ a ∈ attributes, seen.lookup a.name = none) :
    Attribute.readAll total seen s = attributes.map .ok := by
  induction h generalizing seen with
  | @done w spaces =>
    have nothing : w.dropWhile isSpace = [] := Text.trimStart_eq_nil_iff.mpr spaces
    rw [Attribute.readAll]
    split
    · rfl
    · next found =>
      rw [nothing] at found
      contradiction
  | @more a w p q s others _ before name between behind closed _ ih =>
    obtain ⟨full, v⟩ := a
    obtain ⟨c, n, same⟩ := List.exists_cons_of_ne_nil name.1
    cases same
    have start : (w ++ (c :: n ++ (p ++ '=' :: (q ++ '"' :: (v ++ '"' :: s))))).dropWhile isSpace =
        c :: (n ++ (p ++ '=' :: (q ++ '"' :: (v ++ '"' :: s)))) := by
      refine dropWhile_spaces before ?_
      rintro d ⟨⟩
      exact name.isSpace_eq List.mem_cons_self
    obtain ⟨taken, dropped⟩ := cut_name name between (q ++ '"' :: (v ++ '"' :: s))
    have equals : (p ++ '=' :: (q ++ '"' :: (v ++ '"' :: s))).dropWhile isSpace =
        '=' :: (q ++ '"' :: (v ++ '"' :: s)) := by
      refine dropWhile_spaces between ?_
      rintro d ⟨⟩
      rfl
    rw [← dropped] at equals
    -- the name read now is among those seen from here on, and no other attribute has it
    obtain ⟨fresh, different⟩ := List.nodup_cons.mp different
    rw [readAll_cons start taken equals (unseen _ List.mem_cons_self)
      (readValue_quoted total behind closed s), List.map_cons]
    congr 1
    refine ih different fun b hb => ?_
    have other : b.name ≠ c :: n := fun same =>
      fresh (List.mem_map.mpr ⟨b, hb, same⟩)
    rw [List.lookup_cons, beq_false_of_ne other]
    exact unseen b (List.mem_cons_of_mem _ hb)

/-- The attributes of a tag are those that are written in it. -/
theorem AttributesText.attributes_eq (h : AttributesText attributes s) (name : List Char)
    (different : (attributes.map Attribute.name).Nodup) :
    Tag.attributes ⟨name, s⟩ = attributes.map .ok :=
  h.readAll_eq _ different fun _ _ => rfl

end StreamRemote.Xml
