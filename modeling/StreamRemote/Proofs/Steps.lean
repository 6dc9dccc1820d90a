import Mathlib.Data.List.Forall2

/-!
# Steps that may fail

What is known of the steps of a computation that gave an answer, and of computations of which only
the answer matters, not the reason for a failure.
-/

namespace StreamRemote

variable {ε ε' α β : Type}

/-- A step that goes on with the answer of another one. -/
theorem bind_ok {x : Except ε α} {f : α → Except ε β} {b : β}
    (h : (x >>= f) = .ok b) : ∃ a, x = .ok a ∧ f a = .ok b := by
  cases x with
  | error cause => cases h
  | ok a => exact ⟨a, rfl, h⟩

theorem map_ok {x : Except ε α} {f : α → β} {b : β}
    (h : x.map f = .ok b) : ∃ a, x = .ok a ∧ f a = b := by
  cases x with
  | error cause => cases h
  | ok a => exact ⟨a, rfl, Except.ok.inj h⟩

/-- All steps of a list give answers if and only if each one gives its own. -/
theorem mapM_ok_iff {f : α → Except ε β} {l : List α} {bs : List β} :
    l.mapM f = .ok bs ↔ List.Forall₂ (fun a b => f a = .ok b) l bs := by
  constructor
  · intro h
    induction l generalizing bs with
    | nil =>
      cases h
      exact .nil
    | cons a l ih =>
      rw [List.mapM_cons] at h
      obtain ⟨b, here, h⟩ := bind_ok h
      obtain ⟨rest, later, h⟩ := bind_ok h
      cases h
      exact .cons here (ih later)
  · intro h
    induction h with
    | nil => rfl
    | cons here _ ih =>
      rw [List.mapM_cons, here, ih]
      rfl

theorem exists_mapM_ok_iff {f : α → Except ε β} {l : List α} :
    (∃ bs, l.mapM f = .ok bs) ↔ ∀ a ∈ l, ∃ b, f a = .ok b := by
  simp only [mapM_ok_iff]
  induction l with
  | nil => exact ⟨fun _ => nofun, fun _ => ⟨[], .nil⟩⟩
  | cons a l ih =>
    rw [List.forall_mem_cons, ← ih]
    constructor
    · rintro ⟨_, _ | ⟨here, later⟩⟩
      exact ⟨⟨_, here⟩, ⟨_, later⟩⟩
    · rintro ⟨⟨b, here⟩, ⟨bs, later⟩⟩
      exact ⟨b :: bs, .cons here later⟩

theorem mapError_ok_iff {x : Except ε α} {f : ε → ε'} {a : α} :
    x.mapError f = .ok a ↔ x = .ok a := by
  cases x with
  | error cause => exact ⟨nofun, nofun⟩
  | ok b => constructor <;> exact fun h => congrArg Except.ok (Except.ok.inj h)

theorem mapError_error_iff {x : Except ε α} {f : ε → ε'} {e : ε'} :
    x.mapError f = .error e ↔ ∃ cause, x = .error cause ∧ f cause = e := by
  cases x with
  | error cause =>
    constructor
    · intro h
      exact ⟨cause, rfl, Except.error.inj h⟩
    · rintro ⟨_, ⟨⟩, rfl⟩
      rfl
  | ok a => exact ⟨nofun, nofun⟩

theorem toOption_eq_some_iff {x : Except ε α} {a : α} : x.toOption = some a ↔ x = .ok a := by
  cases x <;> simp [Except.toOption]

theorem toOption_bind (x : Except ε α) (f : α → Except ε β) :
    (x >>= f).toOption = x.toOption.bind fun a => (f a).toOption := by
  cases x <;> rfl

theorem toOption_mapError (x : Except ε α) (f : ε → ε') :
    (x.mapError f).toOption = x.toOption := by
  cases x <;> rfl

end StreamRemote
