/-!
# Splitting a text

A text is split at every place where one character stands; the character itself goes.
-/

namespace StreamRemote.Text

/-- The parts of a text between the places where `mark` stands. There is always one more part
than there are marks. -/
def splitAtEach (mark : Char) : List Char → List (List Char)
  | [] => [[]]
  | c :: rest =>
    if c = mark then [] :: splitAtEach mark rest
    else
      match splitAtEach mark rest with
      | [] => [[c]]
      | part :: parts => (c :: part) :: parts

/-- A text without the mark is a single part. -/
theorem splitAtEach_of_not_mem {mark : Char} {s : List Char} (h : mark ∉ s) :
    splitAtEach mark s = [s] := by
  induction s with
  | nil => rfl
  | cons c rest ih =>
    rw [List.mem_cons, not_or] at h
    rw [splitAtEach, if_neg (Ne.symm h.1), ih h.2]

/-- A mark ends the part in front of it. -/
theorem splitAtEach_append {mark : Char} {s : List Char} (t : List Char) (h : mark ∉ s) :
    splitAtEach mark (s ++ mark :: t) = s :: splitAtEach mark t := by
  induction s with
  | nil => simp [splitAtEach]
  | cons c rest ih =>
    rw [List.mem_cons, not_or] at h
    rw [List.cons_append, splitAtEach, if_neg (Ne.symm h.1), ih h.2]

/-- The first line of a text. A carriage return right in front of the line feed is part of the end
of the line. -/
def firstLine (s : List Char) : List Char :=
  let line := s.takeWhile (· ≠ '\n')
  if '\n' ∈ s ∧ line.getLast? = some '\r' then line.dropLast else line

end StreamRemote.Text
