import StreamRemote.Text.Blank

/-!
# What is left of a text without white space at its ends

A text with the characters of a class dropped from both its ends is the part of it that begins and
ends with other characters and has nothing but characters of the class around it.

Results:
1. `trim_eq_iff`: what is left of a text.
-/

namespace StreamRemote.Text

variable {p : Char → Bool} {s t before behind : List Char}

/-- The text neither begins nor ends with a character of the class. -/
structure Solid (p : Char → Bool) (s : List Char) : Prop where
  head : ∀ c ∈ s.head?, p c = false
  last : ∀ c ∈ s.getLast?, p c = false

theorem solid_of_forall (h : ∀ c ∈ s, p c = false) : Solid p s where
  head c hc := h c (List.mem_of_mem_head? hc)
  last c hc := h c (List.mem_of_getLast? hc)

theorem trimEnd_of_solid (h : Solid p s) : trimEnd p s = s := by
  rcases List.eq_nil_or_concat s with rfl | ⟨front, c, rfl⟩
  · rfl
  · rw [List.concat_eq_append] at h ⊢
    exact trimEnd_append_of_not (h.last c List.getLast?_concat)

/-- What stands behind a character outside the class is trimmed by itself. -/
theorem trimEnd_append_cons {c : Char} (h : p c = false) (s t : List Char) :
    trimEnd p (s ++ c :: t) = s ++ c :: trimEnd p t := by
  have front : (s ++ c :: t).reverse = t.reverse ++ c :: s.reverse := by simp
  rw [trimEnd, front, List.dropWhile_append, trimEnd]
  split
  · next empty =>
    rw [List.isEmpty_iff] at empty
    simp [empty, h]
  · simp

/-- A character is kept if anything is kept behind it. -/
theorem trimEnd_cons {c : Char} :
    trimEnd p (c :: s) = [] ∨ trimEnd p (c :: s) = c :: trimEnd p s := by
  by_cases all : (c :: s).all p = true
  · exact .inl (by simpa using trimEnd_append_of_all (s := []) all)
  · refine .inr ?_
    have front : (c :: s).reverse = s.reverse ++ [c] := by simp
    rw [trimEnd, front, List.dropWhile_append, trimEnd]
    split
    · next empty =>
      rw [List.isEmpty_iff] at empty
      have spaces : s.all p = true := by
        rw [← List.all_reverse]
        exact trimStart_eq_nil_iff.mp empty
      have kept : p c = false := by simpa [spaces] using all
      simp [empty, kept]
    · simp

/-- Nothing is dropped from a text but what stands around its solid part. -/
theorem trim_append_append (hs : Solid p s) (first : before.all p = true)
    (last : behind.all p = true) : trim p (before ++ s ++ behind) = s := by
  have front : ∀ c ∈ before, p c = true := List.all_eq_true.mp first
  have start : trimStart p (before ++ s ++ behind) = trimStart p (s ++ behind) := by
    rw [trimStart, List.append_assoc, List.dropWhile_append_of_pos front, trimStart]
  rw [trim, start]
  cases s with
  | nil => rw [List.nil_append, trimStart_eq_nil_iff.mpr last, trimEnd_nil]
  | cons c s =>
    rw [List.cons_append, trimStart_cons_of_not (hs.head c rfl), ← List.cons_append,
      trimEnd_append_of_all last, trimEnd_of_solid hs]

theorem exists_eq_trimStart (p : Char → Bool) (s : List Char) :
    ∃ before, before.all p = true ∧ s = before ++ trimStart p s ∧
      ∀ c ∈ (trimStart p s).head?, p c = false := by
  refine ⟨s.takeWhile p, List.all_takeWhile, (eq_takeWhile_append_trimStart p s).symm, ?_⟩
  intro c hc
  have outside := List.head?_dropWhile_not p s
  rw [trimStart] at hc
  rw [Option.mem_def.mp hc] at outside
  simpa using outside

theorem exists_eq_trimEnd (p : Char → Bool) (s : List Char) :
    ∃ behind, behind.all p = true ∧ s = trimEnd p s ++ behind ∧
      ∀ c ∈ (trimEnd p s).getLast?, p c = false := by
  obtain ⟨before, all, whole, outside⟩ := exists_eq_trimStart p s.reverse
  refine ⟨before.reverse, ?_, ?_, ?_⟩
  · rw [List.all_reverse]
    exact all
  · rw [trimEnd, ← List.reverse_append]
    exact (List.reverse_eq_iff.mp whole)
  · rw [trimEnd, List.getLast?_reverse]
    exact outside

/-- What is left of a text is its solid part. -/
theorem trim_eq_iff : trim p s = t ↔ Solid p t ∧
    ∃ before behind, before.all p = true ∧ behind.all p = true ∧ s = before ++ t ++ behind := by
  constructor
  · rintro rfl
    obtain ⟨before, first, whole, outside⟩ := exists_eq_trimStart p s
    obtain ⟨behind, last, rest, outside'⟩ := exists_eq_trimEnd p (trimStart p s)
    refine ⟨⟨fun c hc => outside c ?_, outside'⟩, before, behind, first, last, ?_⟩
    · have kept : (trimEnd p (trimStart p s)).head? = some c := hc
      rw [rest, List.head?_append, kept]
      rfl
    · rw [trim, List.append_assoc, ← rest]
      exact whole
  · rintro ⟨solid, before, behind, first, last, rfl⟩
    exact trim_append_append solid first last

end StreamRemote.Text
