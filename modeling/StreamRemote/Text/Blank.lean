/-!
# White space

Which characters are blank, and how a text loses the blank characters at its ends.

`isBlank` is the Unicode property White_Space. `trimStart`, `trimEnd` and `trim` work for any
class of characters, because a markup reader counts fewer characters as white space than a
person does.
-/

namespace StreamRemote.Text

/-- A character with the Unicode property White_Space. -/
def isBlank (c : Char) : Bool :=
  let n := c.toNat
  (0x09 ≤ n && n ≤ 0x0D) || n == 0x20 || n == 0x85 || n == 0xA0 || n == 0x1680 ||
    (0x2000 ≤ n && n ≤ 0x200A) || n == 0x2028 || n == 0x2029 || n == 0x202F || n == 0x205F ||
    n == 0x3000

/-- Drops the characters of a class from the front of a text. -/
def trimStart (p : Char → Bool) (s : List Char) : List Char :=
  s.dropWhile p

/-- Drops the characters of a class from the back of a text. -/
def trimEnd (p : Char → Bool) (s : List Char) : List Char :=
  (s.reverse.dropWhile p).reverse

/-- Drops the characters of a class from both ends of a text. -/
def trim (p : Char → Bool) (s : List Char) : List Char :=
  trimEnd p (trimStart p s)

@[simp] theorem trimStart_nil (p : Char → Bool) : trimStart p [] = [] := rfl

@[simp] theorem trimEnd_nil (p : Char → Bool) : trimEnd p [] = [] := rfl

/-- What is dropped from the front belongs to the class. -/
theorem eq_takeWhile_append_trimStart (p : Char → Bool) (s : List Char) :
    s.takeWhile p ++ trimStart p s = s :=
  List.takeWhile_append_dropWhile

/-- A text that does not begin with a character of the class keeps its front. -/
theorem trimStart_cons_of_not {p : Char → Bool} {c : Char} {s : List Char} (h : p c = false) :
    trimStart p (c :: s) = c :: s := by
  simp [trimStart, h]

/-- A text that does not end with a character of the class keeps its back. -/
theorem trimEnd_append_of_not {p : Char → Bool} {c : Char} {s : List Char} (h : p c = false) :
    trimEnd p (s ++ [c]) = s ++ [c] := by
  simp [trimEnd, h]

/-- Characters of the class at the back are dropped. -/
theorem trimEnd_append_of_all {p : Char → Bool} {s t : List Char} (h : t.all p = true) :
    trimEnd p (s ++ t) = trimEnd p s := by
  rw [List.all_eq_true] at h
  simp only [trimEnd, List.reverse_append]
  rw [List.dropWhile_append_of_pos]
  intro c hc
  exact h c (List.mem_reverse.mp hc)

/-- A text of nothing but the class trims to nothing. -/
theorem trimStart_eq_nil_iff {p : Char → Bool} {s : List Char} :
    trimStart p s = [] ↔ s.all p = true := by
  induction s with
  | nil => simp
  | cons c rest ih =>
    cases h : p c with
    | false => simp [trimStart, h]
    | true =>
      rw [List.all_cons, h, Bool.true_and, ← ih, trimStart, List.dropWhile_cons_of_pos h, trimStart]

end StreamRemote.Text
