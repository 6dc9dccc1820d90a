/-!
# Cutting a row in two

A row of things is cut in front of the first one that does not belong to a class, or in front of the
first `d`.
-/

namespace StreamRemote

/-- A row is cut behind the things of a class, if the next one does not belong to it. -/
theorem cut_append {α : Type} {p : α → Bool} {t s : List α} (before : ∀ c ∈ t, p c = true)
    (behind : ∀ c ∈ s.head?, p c = false) :
    (t ++ s).takeWhile p = t ∧ (t ++ s).dropWhile p = s := by
  rw [List.takeWhile_append_of_pos before, List.dropWhile_append_of_pos before]
  cases s with
  | nil => simp
  | cons d s =>
    have other : p d = false := behind d rfl
    simp [other]

/-- A text is cut in front of the first `d`. -/
theorem cut_ne_append {d : Char} {t s : List Char} (h : d ∉ t) (behind : ∀ c ∈ s.head?, c = d) :
    (t ++ s).takeWhile (· ≠ d) = t ∧ (t ++ s).dropWhile (· ≠ d) = s := by
  refine cut_append (fun c hc => ?_) fun c hc => ?_
  · simpa using fun same : c = d => h (same ▸ hc)
  · simpa using behind c hc

end StreamRemote
