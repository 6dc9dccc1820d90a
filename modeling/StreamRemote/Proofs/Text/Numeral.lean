import StreamRemote.Proofs.Text.Cut
import StreamRemote.Text.Numeral

/-!
# What numerals stand for

`numeral?` is the number that a row of digits stands for in a base, however large it is. The
readers of numerals agree with it as long as the number lies below their limit, and beyond it they
give no answer.

Results:
1. `numeral?_toDigits`, `numeral?_toString`: each number can be written.
2. `toString_append_inj`: a number and what stands behind it can be told from the two together.
3. `readBelow_ok`: a number that is read is the one that is written.
4. `readBelow_of_numeral`: a number below the limit is read.
5. `readBelow_iff_of_le`: a larger limit makes no difference to a number below the smaller one.
-/

namespace StreamRemote.Text

/-- The number that a row of digits stands for behind a number `n`. -/
def numeralFrom? (base : Nat) (digit? : Char → Option Nat) : (n : Nat) → List Char → Option Nat
  | n, [] => some n
  | n, c :: rest => (digit? c).bind fun d => numeralFrom? base digit? (base * n + d) rest

/-- The number that a numeral stands for, which has one digit at least. -/
def numeral? (base : Nat) (digit? : Char → Option Nat) (s : List Char) : Option Nat :=
  if s = [] then none else numeralFrom? base digit? 0 s

variable {base n m limit : Nat} {digit : Char → Option Nat} {s : List Char}

/-- Further digits never make a number smaller. -/
theorem le_of_numeralFrom? (positive : 0 < base) (h : numeralFrom? base digit n s = some m) :
    n ≤ m := by
  induction s generalizing n with
  | nil =>
    cases h
    exact Nat.le_refl _
  | cons c rest ih =>
    obtain ⟨d, -, h⟩ := Option.bind_eq_some_iff.mp h
    have larger : n ≤ base * n := Nat.le_mul_of_pos_left n positive
    have behind := ih h
    omega

/-- A numeral has nothing but digits. -/
theorem digit_of_numeralFrom? (h : numeralFrom? base digit n s = some m) :
    ∀ c ∈ s, (digit c).isSome := by
  induction s generalizing n with
  | nil => nofun
  | cons c rest ih =>
    obtain ⟨d, found, h⟩ := Option.bind_eq_some_iff.mp h
    intro e he
    rcases List.mem_cons.mp he with rfl | he
    · rw [found]
      rfl
    · exact ih h e he

theorem numeral?_eq_some_iff :
    numeral? base digit s = some n ↔ s ≠ [] ∧ numeralFrom? base digit 0 s = some n := by
  unfold numeral?
  split <;> simp_all

theorem numeralFrom?_append (s : List Char) (c : Char) :
    numeralFrom? base digit n (s ++ [c]) =
      (numeralFrom? base digit n s).bind fun m => (digit c).map (base * m + ·) := by
  induction s generalizing n with
  | nil =>
    rw [List.nil_append, numeralFrom?, numeralFrom?]
    cases digit c <;> rfl
  | cons d rest ih =>
    rw [List.cons_append, numeralFrom?, numeralFrom?]
    cases digit d with
    | none => rfl
    | some m => exact ih

/-- Each number is written as a numeral of it, in every base whose digits can be read. -/
theorem numeral?_toDigits (large : 1 < base) (reads : ∀ d < base, digit d.digitChar = some d)
    (n : Nat) : numeral? base digit (Nat.toDigits base n) = some n := by
  refine numeral?_eq_some_iff.mpr ⟨Nat.toDigits_ne_nil, ?_⟩
  induction n using Nat.strongRecOn with | ind n ih
  by_cases small : n < base
  · rw [Nat.toDigits_of_lt_base small, numeralFrom?, reads n small]
    simp [numeralFrom?]
  · have least : base ≤ n := Nat.not_lt.mp small
    have fewer : n / base < n := Nat.div_lt_self (by omega) large
    rw [Nat.toDigits_of_base_le large least, numeralFrom?_append, ih (n / base) fewer,
      reads _ (Nat.mod_lt n (by omega))]
    exact congrArg some (Nat.div_add_mod n base)

/-- Each number is written as a decimal numeral of it. -/
theorem numeral?_toString (n : Nat) : numeral? 10 digit? (toString n).toList = some n := by
  rw [Nat.toString_eq_ofList_toDigits, String.toList_ofList]
  exact numeral?_toDigits (by decide) (by decide) n

theorem exists_numeral (n : Nat) : ∃ s, numeral? 10 digit? s = some n :=
  ⟨_, numeral?_toString n⟩

/-- A number ends where its digits do. -/
theorem toString_append_inj {n n' : Nat} {s s' : List Char}
    (behind : ∀ c ∈ s.head?, (digit? c).isSome = false)
    (behind' : ∀ c ∈ s'.head?, (digit? c).isSome = false)
    (h : (toString n).toList ++ s = (toString n').toList ++ s') : n = n' ∧ s = s' := by
  have digits : ∀ k : Nat, ∀ c ∈ (toString k).toList, (digit? c).isSome = true := fun k =>
    digit_of_numeralFrom? (numeral?_eq_some_iff.mp (numeral?_toString k)).2
  obtain ⟨taken, dropped⟩ := cut_append (digits n) behind
  obtain ⟨taken', dropped'⟩ := cut_append (digits n') behind'
  rw [h] at taken dropped
  have same := numeral?_toString n
  rw [← taken, taken', numeral?_toString n'] at same
  exact ⟨(Option.some.inj same).symm, dropped.symm.trans dropped'⟩

theorem readDigits_ok_iff {beyond : NumeralError} (start : n < limit) :
    readDigits limit beyond n s = .ok m ↔
      numeralFrom? 10 digit? n s = some m ∧ m < limit := by
  induction s generalizing n with
  | nil =>
    constructor
    · intro h
      cases h
      exact ⟨rfl, start⟩
    · rintro ⟨h, -⟩
      cases h
      rfl
  | cons c rest ih =>
    rw [readDigits, numeralFrom?]
    cases found : digit? c with
    | none => simp
    | some d =>
      simp only [Option.bind_some]
      split
      · next fits => exact ih fits
      · next large =>
        -- further digits cannot bring the number back below the limit
        constructor
        · intro h
          contradiction
        · rintro ⟨h, fits⟩
          have := le_of_numeralFrom? (by decide) h
          omega

/-- A number that is read is the one that is written, and lies below the limit. -/
theorem readBelow_ok (positive : 0 < limit) (h : readBelow limit s = .ok n) :
    ∃ digits, (s = digits ∨ s = '+' :: digits) ∧ numeral? 10 digit? digits = some n ∧
      n < limit := by
  simp only [readBelow] at h
  split at h
  · contradiction
  · contradiction
  · next rest alone =>
    obtain ⟨written, fits⟩ := (readDigits_ok_iff positive).mp h
    refine ⟨rest, .inr rfl, numeral?_eq_some_iff.mpr ⟨?_, written⟩, fits⟩
    rintro rfl
    exact alone rfl
  · next empty _ _ =>
    obtain ⟨written, fits⟩ := (readDigits_ok_iff positive).mp h
    exact ⟨s, .inl rfl, numeral?_eq_some_iff.mpr ⟨empty, written⟩, fits⟩

/-- A number below the limit is read as it is written. -/
theorem readBelow_of_numeral (h : numeral? 10 digit? s = some n) (fits : n < limit) :
    readBelow limit s = .ok n := by
  obtain ⟨nonempty, written⟩ := numeral?_eq_some_iff.mp h
  have read : readDigits limit .tooLarge 0 s = .ok n :=
    (readDigits_ok_iff (by omega)).mpr ⟨written, fits⟩
  have unsigned : '+' ∉ s := fun plus => by
    have digit := digit_of_numeralFrom? written _ plus
    contradiction
  simp only [readBelow]
  split
  · contradiction
  · simp at unsigned
  · simp at unsigned
  · exact read

/-- A text that stands for a number: a numeral of it, behind a plus sign or not. -/
def IsNumeral (s : List Char) (n : Nat) : Prop :=
  ∃ digits, (s = digits ∨ s = '+' :: digits) ∧ numeral? 10 digit? digits = some n

theorem readBelow_of_isNumeral (h : IsNumeral s n) (fits : n < limit) :
    readBelow limit s = .ok n := by
  obtain ⟨digits, rfl | rfl, written⟩ := h
  · exact readBelow_of_numeral written fits
  · obtain ⟨nonempty, written⟩ := numeral?_eq_some_iff.mp written
    rw [readBelow]
    · exact (readDigits_ok_iff (by omega)).mpr ⟨written, fits⟩
    · exact nonempty

/-- What lies below a limit is read in the same way below any larger one. -/
theorem readBelow_iff_of_le {small large : Nat} (positive : 0 < small) (le : small ≤ large) :
    readBelow small s = .ok n ↔ readBelow large s = .ok n ∧ n < small := by
  have digits (s : List Char) : readDigits small .tooLarge 0 s = .ok n ↔
      readDigits large .tooLarge 0 s = .ok n ∧ n < small := by
    rw [readDigits_ok_iff positive, readDigits_ok_iff (Nat.lt_of_lt_of_le positive le)]
    constructor
    · rintro ⟨written, fits⟩
      exact ⟨⟨written, Nat.lt_of_lt_of_le fits le⟩, fits⟩
    · rintro ⟨⟨written, -⟩, fits⟩
      exact ⟨written, fits⟩
  simp only [readBelow]
  split
  · simp
  · simp
  · exact digits _
  · exact digits _

theorem readBelow_minus (limit : Nat) (s : List Char) :
    readBelow limit ('-' :: s) = .error .invalidDigit := by
  rfl

/-- The word of a number is the number that is written, without wrapping around. -/
theorem readWord64_ok {text : String} {word : UInt64} (h : readWord64 text = .ok word) :
    ∃ digits, (text.toList = digits ∨ text.toList = '+' :: digits) ∧
      numeral? 10 digit? digits = some word.toNat := by
  rw [readWord64] at h
  cases read : readBelow UInt64.size text.toList with
  | error cause =>
    rw [read] at h
    contradiction
  | ok n =>
    rw [read] at h
    cases h
    obtain ⟨digits, spelled, written, fits⟩ := readBelow_ok (by decide) read
    refine ⟨digits, spelled, ?_⟩
    rw [written, UInt64.toNat_ofNat_of_lt' fits]

/-- Each word is read from its numeral. -/
theorem readWord64_of_numeral {text : String} {word : UInt64}
    (h : numeral? 10 digit? text.toList = some word.toNat) : readWord64 text = .ok word := by
  rw [readWord64, readBelow_of_numeral h word.toNat_lt]
  show Except.ok (UInt64.ofNat word.toNat) = _
  rw [UInt64.ofNat_toNat]

end StreamRemote.Text
