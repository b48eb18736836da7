/-
PackageRelease/Proofs/Outcome.lean

Outcomes that are put together from other outcomes.

One outcome after another is good if both are, and else it is the first bad
one.  A bad one can be put in other words; it stays bad.  Along a list the
outcomes are all good, or the first bad one decides (`mapM_eq_ok_iff`,
`mapM_eq_error_iff`).
-/
import Mathlib.Data.List.Forall2

namespace PackageRelease

variable {ε α β : Type}

/-! ### Two outcomes -/

/-- After an outcome that is good it goes on with its value. -/
theorem ok_bind (a : α) (f : α → Except ε β) : (Except.ok a >>= f) = f a := rfl

/-- After an outcome that is bad it does not go on. -/
theorem error_bind (e : ε) (f : α → Except ε β) : (Except.error e >>= f) = .error e := rfl

theorem toOption_bind (x : Except ε α) (f : α → Except ε β) :
    (x >>= f).toOption = x.toOption.bind fun a => (f a).toOption := by
  cases x <;> rfl

theorem bind_eq_ok_iff {x : Except ε α} {f : α → Except ε β} {b : β} :
    x >>= f = .ok b ↔ ∃ a, x = .ok a ∧ f a = .ok b := by
  rcases x with e | a
  · simp [bind, Except.bind]
  · simp [bind, Except.bind]

theorem bind_eq_error_iff {x : Except ε α} {f : α → Except ε β} {e : ε} :
    x >>= f = .error e ↔ x = .error e ∨ ∃ a, x = .ok a ∧ f a = .error e := by
  rcases x with e' | a
  · simp [bind, Except.bind]
  · simp [bind, Except.bind]

/-! ### Other words for the fault -/

theorem mapError_eq_ok_iff {ε' : Type} {f : ε → ε'} {x : Except ε α} {a : α} :
    x.mapError f = .ok a ↔ x = .ok a := by
  rcases x with e | a'
  · show Except.error (f e) = .ok a ↔ _
    simp
  · show Except.ok a' = .ok a ↔ _
    simp

theorem mapError_eq_error_iff {ε' : Type} {f : ε → ε'} {x : Except ε α} {e' : ε'} :
    x.mapError f = .error e' ↔ ∃ e, x = .error e ∧ f e = e' := by
  rcases x with e | a
  · show Except.error (f e) = .error e' ↔ _
    simp
  · show Except.ok a = .error e' ↔ _
    simp

/-! ### Outcomes along a list -/

theorem mapM_eq_ok_iff {f : α → Except ε β} {as : List α} {bs : List β} :
    as.mapM f = .ok bs ↔ List.Forall₂ (fun a b => f a = .ok b) as bs := by
  induction as generalizing bs with
  | nil => cases bs <;> simp [pure, Except.pure]
  | cons a as ih =>
    simp only [List.mapM_cons, bind_eq_ok_iff, ih]
    cases bs with
    | nil => simp [pure, Except.pure]
    | cons b bs => simp [pure, Except.pure, and_comm]

/-- The first bad outcome decides. -/
theorem mapM_eq_error_iff {f : α → Except ε β} {as : List α} {e : ε} :
    as.mapM f = .error e ↔
      ∃ before a after, as = before ++ a :: after ∧ (∀ a' ∈ before, ∃ b, f a' = .ok b) ∧
        f a = .error e := by
  induction as with
  | nil => simp [pure, Except.pure]
  | cons a as ih =>
    simp only [List.mapM_cons, bind_eq_error_iff, ih]
    constructor
    · rintro (h | ⟨b, hb, ⟨before, a', after, rfl, good, bad⟩ | ⟨bs, -, h⟩⟩)
      · exact ⟨[], a, as, rfl, by simp, h⟩
      · exact ⟨a :: before, a', after, rfl, by simpa using ⟨⟨b, hb⟩, good⟩, bad⟩
      · cases h
    · rintro ⟨before, a', after, h, good, bad⟩
      rcases before with - | ⟨first, before⟩
      · obtain ⟨rfl, rfl⟩ := List.cons.inj h
        exact .inl bad
      · obtain ⟨rfl, rfl⟩ := List.cons.inj h
        obtain ⟨b, hb⟩ := good a List.mem_cons_self
        exact .inr ⟨b, hb, .inl ⟨before, a', after, rfl,
          fun x hx => good x (List.mem_cons_of_mem _ hx), bad⟩⟩

end PackageRelease
