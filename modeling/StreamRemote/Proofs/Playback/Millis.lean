import StreamRemote.Playback.Millis
import StreamRemote.Proofs.Steps
import StreamRemote.Proofs.Text.Blank
import StreamRemote.Proofs.Text.Numeral

/-!
# Which texts are durations

A duration is a numeral of a number of 64 bits, with or without the unit behind it. White space may
stand in front of the numeral, behind it and behind the unit, and nothing else may stand anywhere.
No number is taken for another one: a larger one is no duration, and does not wrap around.

* `Millis.Tells` says which texts tell a number of milliseconds, of whatever size.

Results:
1. `Millis.isNumeral_dropUnit_iff`: what is left of a text without its unit is the numeral in it.
2. `Millis.parse?_iff_tells`: which texts are read, and as which number.
-/

namespace StreamRemote

open Text

namespace Millis

/-- The text tells a number of milliseconds: a numeral between white space, or such a numeral, the
unit behind that, and white space again. -/
inductive Tells : List Char → Nat → Prop
  | bare {before numeral behind : List Char} {n : Nat} : before.all isBlank = true →
      behind.all isBlank = true → IsNumeral numeral n → Tells (before ++ numeral ++ behind) n
  | unit {before numeral behind last : List Char} {n : Nat} : before.all isBlank = true →
      behind.all isBlank = true → last.all isBlank = true → IsNumeral numeral n →
      Tells (before ++ numeral ++ behind ++ "ms".toList ++ last) n

/-! ## Numerals -/

theorem isBlank_of_digit {c : Char} (h : (digit? c).isSome) : isBlank c = false := by
  unfold digit? at h
  split at h
  · next range =>
    have low : 48 ≤ c.toNat := range.1
    have high : c.toNat ≤ 57 := range.2
    simp [isBlank]
    omega
  · contradiction

/-- A numeral is made of digits, and a plus sign in front. -/
theorem mem_isNumeral {s : List Char} {n : Nat} (h : IsNumeral s n) {c : Char} (hc : c ∈ s) :
    (digit? c).isSome ∨ c = '+' := by
  obtain ⟨digits, spelled, written⟩ := h
  have row := digit_of_numeralFrom? (numeral?_eq_some_iff.mp written).2
  rcases spelled with rfl | rfl
  · exact .inl (row c hc)
  · rcases List.mem_cons.mp hc with rfl | hc
    · exact .inr rfl
    · exact .inl (row c hc)

theorem isBlank_of_isNumeral {s : List Char} {n : Nat} (h : IsNumeral s n) :
    ∀ c ∈ s, isBlank c = false := by
  intro c hc
  rcases mem_isNumeral h hc with digit | rfl
  · exact isBlank_of_digit digit
  · rfl

theorem ne_nil_of_isNumeral {s : List Char} {n : Nat} (h : IsNumeral s n) : s ≠ [] := by
  obtain ⟨digits, rfl | rfl, written⟩ := h
  · exact (numeral?_eq_some_iff.mp written).1
  · exact List.cons_ne_nil _ _

theorem unit_not_suffix {s : List Char} {n : Nat} (h : IsNumeral s n) : ¬ "ms".toList <:+ s := by
  intro unit
  have letter : 's' ∈ s := unit.subset (by decide)
  rcases mem_isNumeral h letter with digit | plus
  · exact absurd digit (by decide)
  · contradiction

/-! ## The unit -/

variable {s t : List Char} {n : Nat}

theorem dropUnit_of_unit (h : trim isBlank s = t ++ "ms".toList) : dropUnit s = t := by
  unfold dropUnit
  rw [h]
  simp

theorem dropUnit_of_not (h : ¬ "ms".toList <:+ trim isBlank s) : dropUnit s = s := by
  unfold dropUnit
  have back : ['s', 'm'] = "ms".toList.reverse := rfl
  rw [back, if_neg fun front => h (List.reverse_prefix.mp (List.isPrefixOf_iff_prefix.mp front))]

theorem tells_of_isNumeral (h : IsNumeral (trim isBlank (dropUnit s)) n) : Tells s n := by
  obtain ⟨-, first, final, blank, blank', whole⟩ := trim_eq_iff.mp (rfl : trim isBlank s = _)
  by_cases unit : "ms".toList <:+ trim isBlank s
  · obtain ⟨t, unit⟩ := unit
    rw [dropUnit_of_unit unit.symm] at h
    obtain ⟨-, before, behind, around, around', inside⟩ := trim_eq_iff.mp (rfl : trim isBlank t = _)
    rw [← unit, inside] at whole
    have front : (first ++ before).all isBlank = true := by
      rw [List.all_append, blank, around]
      rfl
    have told := Tells.unit front around' blank' h
    simp only [List.append_assoc] at told whole
    rw [whole]
    exact told
  · rw [dropUnit_of_not unit] at h
    rw [whole]
    exact .bare blank blank' h

/-- A text tells a number if and only if this is the numeral that is left without the unit and the
white space around it. -/
theorem isNumeral_dropUnit_iff : IsNumeral (trim isBlank (dropUnit s)) n ↔ Tells s n := by
  refine ⟨tells_of_isNumeral, fun told => ?_⟩
  cases told with
  | @bare before numeral behind _ blank blank' written =>
    have solid : Solid isBlank numeral := solid_of_forall (isBlank_of_isNumeral written)
    have kept := trim_append_append solid blank blank'
    have alone : ¬ "ms".toList <:+ trim isBlank (before ++ numeral ++ behind) := by
      rw [kept]
      exact unit_not_suffix written
    rw [dropUnit_of_not alone, kept]
    exact written
  | @unit before numeral behind last _ blank blank' blank'' written =>
    have solid : Solid isBlank numeral := solid_of_forall (isBlank_of_isNumeral written)
    have whole : Solid isBlank (numeral ++ behind ++ "ms".toList) := by
      refine ⟨?_, ?_⟩
      · obtain ⟨c, rest, rfl⟩ := List.exists_cons_of_ne_nil (ne_nil_of_isNumeral written)
        exact solid.head
      · rw [List.getLast?_append]
        rintro _ ⟨⟩
        rfl
    have kept := trim_append_append whole blank blank''
    have same : before ++ numeral ++ behind ++ "ms".toList ++ last =
        before ++ (numeral ++ behind ++ "ms".toList) ++ last := by
      simp only [List.append_assoc]
    rw [same, dropUnit_of_unit kept]
    have inside : trim isBlank ([] ++ numeral ++ behind) = numeral :=
      trim_append_append solid rfl blank'
    rw [List.nil_append] at inside
    rw [inside]
    exact written

/-! ## Reading -/

theorem parse?_eq_some_iff {text : String} {word : UInt64} :
    parse? text = some word ↔ Tells text.toList word.toNat := by
  rw [← isNumeral_dropUnit_iff, parse?, toOption_eq_some_iff]
  constructor
  · intro h
    have written := readWord64_ok h
    rw [String.toList_ofList] at written
    exact written
  · intro written
    rw [readWord64, String.toList_ofList, readBelow_of_isNumeral written word.toNat_lt]
    exact congrArg Except.ok UInt64.ofNat_toNat

/-- A text is read as the number that it tells, and only if this is a number of 64 bits. All other
texts tell nothing, or a larger number. The number with the unit behind it, as a player tells it, is
always read. -/
theorem parse?_iff_tells (text : String) :
    (∀ word : UInt64, parse? text = some word ↔ Tells text.toList word.toNat) ∧
    (parse? text = none ↔ ∀ n, Tells text.toList n → UInt64.size ≤ n) ∧
    ∀ word : UInt64, parse? (toString word.toNat ++ " ms") = some word := by
  refine ⟨fun word => parse?_eq_some_iff, ⟨fun nothing n told => ?_, fun large => ?_⟩,
    fun word => ?_⟩
  · refine Nat.not_lt.mp fun fits => ?_
    have value : (UInt64.ofNat n).toNat = n := UInt64.toNat_ofNat_of_lt' fits
    rw [← value] at told
    rw [parse?_eq_some_iff.mpr told] at nothing
    contradiction
  · cases read : parse? text with
    | none => rfl
    | some word =>
      have told := parse?_eq_some_iff.mp read
      exact absurd word.toNat_lt_size (Nat.not_lt.mpr (large _ told))
  · refine parse?_eq_some_iff.mpr ?_
    have written : IsNumeral (toString word.toNat).toList word.toNat :=
      ⟨_, .inl rfl, numeral?_toString _⟩
    have told : Tells ([] ++ (toString word.toNat).toList ++ [' '] ++ "ms".toList ++ []) _ :=
      .unit rfl rfl rfl written
    rw [String.toList_append]
    simpa using told

end Millis

end StreamRemote
