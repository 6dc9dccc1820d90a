import StreamRemote.Text.Blank
import StreamRemote.Xml.Fault

/-!
# Pieces of markup

What stands between `<` and its end, read without regard to what surrounds it.

`Markup.read` takes the text behind a `<`, which is not empty, and gives the piece and the text
behind it. The kind of piece is decided by the first character: `!` begins a declaration, `/` an
end tag, `?` an instruction, and all else a start tag. No reader gives back more than it was
given (`length_read_le`), so reading piece after piece comes to an end.
-/

namespace StreamRemote.Xml

/-- A start tag: the name of its element, and what stands behind the name, attributes and all,
but for the slash of an element without content. -/
structure Tag where
  name : List Char
  tail : List Char
deriving DecidableEq, Repr

/-- Cuts the inside of a tag behind the name, at the first white space. -/
def Tag.ofInside (s : List Char) : Tag :=
  ⟨s.takeWhile (!isSpace ·), s.dropWhile (!isSpace ·)⟩

/-- The part of a qualified name behind its first colon. -/
def localName (name : List Char) : List Char :=
  match name.dropWhile (· ≠ ':') with
  | [] => name
  | _ :: behind => behind

/-- A piece of markup. -/
inductive Markup where
  | comment
  | characterData (content : List Char)
  | doctype
  | instruction
  | opening (tag : Tag)
  /-- the tag of an element without content -/
  | single (tag : Tag)
  /-- an end tag, with all that stands behind its slash -/
  | closing (inside : List Char)
deriving DecidableEq, Repr

/-! ## Where a piece ends -/

/-- Splits a text at the first place where `mark` stands. -/
def splitAt? (mark : List Char) : List Char → Option (List Char × List Char)
  | [] => none
  | c :: rest =>
    if mark.isPrefixOf (c :: rest) then some ([], (c :: rest).drop mark.length)
    else (splitAt? mark rest).map fun (inside, behind) => (c :: inside, behind)

/-- Splits a text at the first `>` for which no `<` stands in front; `depth` counts the `<` in
front that have no `>` yet. -/
def splitBalanced? : (depth : Nat) → List Char → Option (List Char × List Char)
  | _, [] => none
  | 0, '>' :: rest => some ([], rest)
  | depth + 1, '>' :: rest => (splitBalanced? depth rest).map fun (i, b) => ('>' :: i, b)
  | depth, '<' :: rest => (splitBalanced? (depth + 1) rest).map fun (i, b) => ('<' :: i, b)
  | depth, c :: rest => (splitBalanced? depth rest).map fun (i, b) => (c :: i, b)

/-- Splits a text at the first `>` outside quotes; `quote` is the quote that is open. -/
def splitTag? : (quote : Option Char) → List Char → Option (List Char × List Char)
  | _, [] => none
  | some q, c :: rest =>
    (splitTag? (if c = q then none else some q) rest).map fun (i, b) => (c :: i, b)
  | none, c :: rest =>
    if c = '>' then some ([], rest)
    else
      (splitTag? (if c = '"' ∨ c = '\'' then some c else none) rest).map
        fun (i, b) => (c :: i, b)

/-- Splits a text at the first `>`, or at its end when there is none. -/
def splitAngle (s : List Char) : List Char × List Char :=
  (s.takeWhile (· ≠ '>'), (s.dropWhile (· ≠ '>')).drop 1)

/-- What stands behind a keyword, which may be written in either case. -/
def afterKeyword? (keyword s : List Char) : Option (List Char) :=
  if (s.take keyword.length).map Char.toUpper = keyword then some (s.drop keyword.length) else none

/-! ## The kinds of pieces -/

/-- Reads a comment behind `<!`. -/
def readComment (s : List Char) : Except Fault (Markup × List Char) :=
  match (afterKeyword? ['-', '-'] s).bind (splitAt? ['-', '-', '>']) with
  | some (_, rest) => .ok (.comment, rest)
  | none => .error (.unfinished .comment)

/-- Reads character data behind `<!`. -/
def readCharacterData (s : List Char) : Except Fault (Markup × List Char) :=
  match (afterKeyword? "[CDATA[".toList s).bind (splitAt? [']', ']', '>']) with
  | some (content, rest) => .ok (.characterData content, rest)
  | none => .error (.unfinished .characterData)

/-- Reads a document type declaration behind `<!`. -/
def readDoctype (s : List Char) : Except Fault (Markup × List Char) :=
  match splitBalanced? 0 s with
  | none => .error (.unfinished .doctype)
  | some (inside, rest) =>
    match afterKeyword? "DOCTYPE".toList inside with
    | none => .error (.unfinished .doctype)
    | some declared =>
      if declared.all isSpace then .error .emptyDoctype else .ok (.doctype, rest)

/-- Reads a declaration behind `<!`; its first character tells of which kind it is. -/
def readDeclaration : List Char → Except Fault (Markup × List Char)
  | [] => .error (.unfinished .declaration)
  | c :: rest =>
    if c = '-' then readComment (c :: rest)
    else if c = '[' then readCharacterData (c :: rest)
    else if c = 'D' ∨ c = 'd' then readDoctype (c :: rest)
    else .error (.unknownDeclaration (firstByte c))

/-- Reads an instruction behind `<?`. It ends in `?` and is not empty. -/
def readInstruction (s : List Char) : Except Fault (Markup × List Char) :=
  let (inside, rest) := splitAngle s
  if 2 ≤ inside.length ∧ inside.getLast? = some '?' then .ok (.instruction, rest)
  else .error (.unfinished .instruction)

/-- Reads a start tag behind `<`. -/
def readStartTag (s : List Char) : Except Fault (Markup × List Char) :=
  match splitTag? none s with
  | none => .error (.unfinished .element)
  | some (inside, rest) =>
    if inside.getLast? = some '/' then .ok (.single (.ofInside inside.dropLast), rest)
    else .ok (.opening (.ofInside inside), rest)

/-- Reads the piece that begins with `c`, the first character behind a `<`. -/
def Markup.read (c : Char) (rest : List Char) : Except Fault (Markup × List Char) :=
  if c = '!' then readDeclaration rest
  else if c = '?' then readInstruction rest
  else if c = '/' then
    let (inside, rest) := splitAngle rest
    .ok (.closing inside, rest)
  else readStartTag (c :: rest)

/-! ## Reading gives back no more than it was given -/

theorem length_splitAt?_le {mark s inside rest : List Char}
    (h : splitAt? mark s = some (inside, rest)) : rest.length ≤ s.length := by
  induction s generalizing inside rest with
  | nil => simp [splitAt?] at h
  | cons c s ih =>
    rw [splitAt?] at h
    split at h
    · cases h
      rw [List.length_drop]
      omega
    · obtain ⟨⟨i, b⟩, found, same⟩ := Option.map_eq_some_iff.mp h
      cases same
      exact Nat.le_succ_of_le (ih found)

theorem length_splitBalanced?_le {depth : Nat} {s inside rest : List Char}
    (h : splitBalanced? depth s = some (inside, rest)) : rest.length < s.length := by
  fun_induction splitBalanced? depth s generalizing inside rest with
  | case1 => contradiction
  | case2 s =>
    cases h
    exact Nat.lt_succ_self _
  | case3 depth s ih | case4 depth s ih | case5 depth c s _ _ _ ih =>
    obtain ⟨⟨i, b⟩, found, same⟩ := Option.map_eq_some_iff.mp h
    cases same
    exact Nat.lt_succ_of_lt (ih found)

theorem length_splitTag?_lt {quote : Option Char} {s inside rest : List Char}
    (h : splitTag? quote s = some (inside, rest)) : rest.length < s.length := by
  fun_induction splitTag? quote s generalizing inside rest with
  | case1 => contradiction
  | case3 s =>
    cases h
    exact Nat.lt_succ_self _
  | case2 q c s ih | case4 c s _ ih =>
    obtain ⟨⟨i, b⟩, found, same⟩ := Option.map_eq_some_iff.mp h
    cases same
    exact Nat.lt_succ_of_lt (ih found)

theorem length_splitAngle_le (s : List Char) : (splitAngle s).2.length ≤ s.length := by
  have dropped := (List.dropWhile_sublist (l := s) (· ≠ '>')).length_le
  simp only [splitAngle, List.length_drop]
  omega

theorem length_afterKeyword?_le {keyword s rest : List Char}
    (h : afterKeyword? keyword s = some rest) : rest.length ≤ s.length := by
  rw [afterKeyword?] at h
  split at h
  · cases h
    rw [List.length_drop]
    omega
  · contradiction

theorem length_readDeclaration_le {s rest : List Char} {piece : Markup}
    (h : readDeclaration s = .ok (piece, rest)) : rest.length ≤ s.length := by
  cases s with
  | nil => contradiction
  | cons c s =>
    rw [readDeclaration] at h
    split at h
    · rw [readComment] at h
      split at h
      · next found =>
        cases h
        obtain ⟨t, keyword, split⟩ := Option.bind_eq_some_iff.mp found
        exact Nat.le_trans (length_splitAt?_le split) (length_afterKeyword?_le keyword)
      · contradiction
    · split at h
      · rw [readCharacterData] at h
        split at h
        · next found =>
          cases h
          obtain ⟨t, keyword, split⟩ := Option.bind_eq_some_iff.mp found
          exact Nat.le_trans (length_splitAt?_le split) (length_afterKeyword?_le keyword)
        · contradiction
      · split at h
        · rw [readDoctype] at h
          split at h
          · contradiction
          · next found =>
            split at h
            · contradiction
            · split at h
              · contradiction
              · cases h
                exact Nat.le_of_lt (length_splitBalanced?_le found)
        · contradiction

theorem length_readInstruction_le {s rest : List Char} {piece : Markup}
    (h : readInstruction s = .ok (piece, rest)) : rest.length ≤ s.length := by
  simp only [readInstruction] at h
  split at h
  · cases h
    exact length_splitAngle_le s
  · contradiction

theorem length_readStartTag_lt {s rest : List Char} {piece : Markup}
    (h : readStartTag s = .ok (piece, rest)) : rest.length < s.length := by
  rw [readStartTag] at h
  split at h
  · contradiction
  · next found =>
    have shorter := length_splitTag?_lt found
    split at h <;> cases h <;> exact shorter

/-- What is left behind a piece is no longer than what was left to read. -/
theorem Markup.length_read_le {c : Char} {s rest : List Char} {piece : Markup}
    (h : Markup.read c s = .ok (piece, rest)) : rest.length ≤ s.length := by
  rw [Markup.read] at h
  split at h
  · exact length_readDeclaration_le h
  · split at h
    · exact length_readInstruction_le h
    · split at h
      · cases h
        exact length_splitAngle_le s
      · exact Nat.le_of_lt_succ (length_readStartTag_lt h)

end StreamRemote.Xml
