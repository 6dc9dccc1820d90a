/-!
# Places counted in bytes

A place in a text can be given by the number of bytes in front of it, when the text is written in
UTF-8. Cutting a text at a place that lies within a character gives the whole character to the
part in front.
-/

namespace StreamRemote.Text

/-- How many bytes a text takes in UTF-8. -/
def byteLength : List Char → Nat
  | [] => 0
  | c :: rest => c.utf8Size + byteLength rest

/-- The part of a text in front of a place. -/
def takeBytes : (place : Nat) → List Char → List Char
  | _, [] => []
  | place, c :: rest => if place = 0 then [] else c :: takeBytes (place - c.utf8Size) rest

/-- The part of a text behind a place. -/
def dropBytes : (place : Nat) → List Char → List Char
  | _, [] => []
  | place, c :: rest => if place = 0 then c :: rest else dropBytes (place - c.utf8Size) rest

@[simp] theorem byteLength_nil : byteLength [] = 0 := rfl

@[simp] theorem byteLength_cons (c : Char) (s : List Char) :
    byteLength (c :: s) = c.utf8Size + byteLength s := rfl

theorem byteLength_append (s t : List Char) :
    byteLength (s ++ t) = byteLength s + byteLength t := by
  induction s with
  | nil => simp
  | cons c rest ih => rw [List.cons_append, byteLength_cons, byteLength_cons, ih, Nat.add_assoc]

/-- Cutting a text loses nothing. -/
theorem takeBytes_append_dropBytes (place : Nat) (s : List Char) :
    takeBytes place s ++ dropBytes place s = s := by
  induction s generalizing place with
  | nil => rfl
  | cons c rest ih =>
    rw [takeBytes, dropBytes]
    split
    · rfl
    · rw [List.cons_append, ih]

/-- The place behind a text cuts off just that text. -/
theorem takeBytes_byteLength_append (s t : List Char) :
    takeBytes (byteLength s) (s ++ t) = s := by
  induction s with
  | nil => cases t <;> rfl
  | cons c rest ih =>
    have positive : 0 < c.utf8Size := Char.utf8Size_pos c
    rw [byteLength_cons, List.cons_append, takeBytes, if_neg (by omega), Nat.add_sub_cancel_left,
      ih]

/-- Behind the place behind a text is what follows it. -/
theorem dropBytes_byteLength_append (s t : List Char) :
    dropBytes (byteLength s) (s ++ t) = t := by
  have whole := takeBytes_append_dropBytes (byteLength s) (s ++ t)
  rw [takeBytes_byteLength_append] at whole
  exact List.append_cancel_left whole

@[simp] theorem dropBytes_zero (s : List Char) : dropBytes 0 s = s :=
  dropBytes_byteLength_append [] s

end StreamRemote.Text
