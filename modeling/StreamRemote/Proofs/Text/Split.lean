import StreamRemote.Text.Split

/-!
# Texts that are put together from parts

Parts that are joined by a mark come back when the text is split at the mark, as long as there is a
part at all and the mark is in none of them.
-/

namespace StreamRemote.Text

theorem splitAtEach_intercalate {mark : Char} {parts : List (List Char)} (some : parts ≠ [])
    (free : ∀ part ∈ parts, mark ∉ part) :
    splitAtEach mark ([mark].intercalate parts) = parts := by
  induction parts with
  | nil => contradiction
  | cons part rest ih =>
    obtain ⟨here, later⟩ := List.forall_mem_cons.mp free
    cases rest with
    | nil => rw [List.intercalate_singleton, splitAtEach_of_not_mem here]
    | cons next rest =>
      rw [List.intercalate_cons_cons, List.append_assoc, List.singleton_append,
        splitAtEach_append _ here, ih (List.cons_ne_nil _ _) later]

/-- The lines of a text. -/
def lines (text : String) : List String :=
  (splitAtEach '\n' text.toList).map String.ofList

theorem lines_of_not_mem {text : String} (h : '\n' ∉ text.toList) : lines text = [text] := by
  rw [lines, splitAtEach_of_not_mem h, List.map_singleton, String.ofList_toList]

end StreamRemote.Text
