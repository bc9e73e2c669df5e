/-!
# Outcomes of chains

A chain of steps succeeds when each step does, and fails with the first step that fails. One lemma
for each way to chain steps.

* `Outcome.Alike`: two outcomes are of one kind and what they give is related; `Alike.bind`,
  `Alike.map`, `Alike.mapError`: two chains whose steps are alike give such outcomes.
-/

namespace Accounts.Outcome

variable {ε α β : Type}

theorem bind_eq_ok_iff {x : Except ε α} {f : α → Except ε β} {b : β} :
    (x >>= f) = .ok b ↔ ∃ a, x = .ok a ∧ f a = .ok b := by
  cases x with
  | error e => simp [bind, Except.bind]
  | ok a => simp [bind, Except.bind]

theorem bind_eq_error_iff {x : Except ε α} {f : α → Except ε β} {e : ε} :
    (x >>= f) = .error e ↔ x = .error e ∨ ∃ a, x = .ok a ∧ f a = .error e := by
  cases x with
  | error e' => simp [bind, Except.bind]
  | ok a => simp [bind, Except.bind]

theorem map_eq_ok_iff {x : Except ε α} {f : α → β} {b : β} :
    x.map f = .ok b ↔ ∃ a, x = .ok a ∧ f a = b := by
  cases x with
  | error e => simp [Except.map]
  | ok a => simp [Except.map]

theorem mapError_eq_ok_iff {δ : Type} {x : Except ε α} {f : ε → δ} {a : α} :
    x.mapError f = .ok a ↔ x = .ok a := by
  cases x with
  | error e => exact ⟨nofun, nofun⟩
  | ok b =>
    constructor
    · rintro ⟨⟩
      rfl
    · rintro ⟨⟩
      rfl

theorem toOption_eq_some_iff {x : Except ε α} {a : α} : x.toOption = some a ↔ x = .ok a := by
  cases x with
  | error e => simp [Except.toOption]
  | ok b => simp [Except.toOption]

/-! ## Two chains side by side -/

/-- Two outcomes are both successes or both faults, and what they give is related. -/
inductive Alike (E : ε → ε → Prop) (A : α → α → Prop) : Except ε α → Except ε α → Prop
  | ok {a a' : α} (h : A a a') : Alike E A (.ok a) (.ok a')
  | error {e e' : ε} (h : E e e') : Alike E A (.error e) (.error e')

namespace Alike

variable {δ : Type} {E : ε → ε → Prop} {D : δ → δ → Prop} {A : α → α → Prop} {B : β → β → Prop}
  {x x' : Except ε α}

theorem refl (hE : ∀ e, E e e) (hA : ∀ a, A a a) (x : Except ε α) : Alike E A x x := by
  cases x with
  | error e => exact .error (hE e)
  | ok a => exact .ok (hA a)

theorem mono {E' : ε → ε → Prop} {A' : α → α → Prop} (h : Alike E A x x')
    (hE : ∀ e e', E e e' → E' e e') (hA : ∀ a a', A a a' → A' a a') : Alike E' A' x x' := by
  cases h with
  | error h => exact .error (hE _ _ h)
  | ok h => exact .ok (hA _ _ h)

theorem bind {f f' : α → Except ε β} (h : Alike E A x x')
    (hf : ∀ a a', A a a' → Alike E B (f a) (f' a')) : Alike E B (x >>= f) (x' >>= f') := by
  cases h with
  | error h => exact .error h
  | ok h => exact hf _ _ h

theorem bind_same {f f' : α → Except ε β} (hE : ∀ e, E e e) (x : Except ε α)
    (hf : ∀ a, Alike E B (f a) (f' a)) : Alike E B (x >>= f) (x >>= f') :=
  (refl hE (fun _ => rfl) x).bind fun a _ ha => ha ▸ hf a

theorem map {f f' : α → β} (h : Alike E A x x') (hf : ∀ a a', A a a' → B (f a) (f' a')) :
    Alike E B (x.map f) (x'.map f') := by
  cases h with
  | error h => exact .error h
  | ok h => exact .ok (hf _ _ h)

theorem mapError {g : ε → δ} (h : Alike E A x x') (hg : ∀ e e', E e e' → D (g e) (g e')) :
    Alike D A (x.mapError g) (x'.mapError g) := by
  cases h with
  | error h => exact .error (hg _ _ h)
  | ok h => exact .ok h

end Alike

end Accounts.Outcome
