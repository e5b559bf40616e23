/-
# Interactive programs against a changing state

`Runs R p s y s'` says that the program `p` may run from the state `s` to `s'` with the result
`y`, when every request is answered, and changes the state, as the relation `R` allows.  The
relation may allow many answers: what holds of all runs holds of whoever answers so.

A `Walk` is a run of labelled steps.
-/
import Calld.Effect.Interactive

namespace Effect

namespace Interactive

variable {ρ ε α β σ : Type} {A : ρ → Type}

/-- The program runs from a state to another one, with this result. -/
inductive Runs (R : σ → (r : ρ) → Except ε (A r) → σ → Prop) :
    Interactive ρ A ε α → σ → Except ε α → σ → Prop
  | ok (a : α) (s : σ) : Runs R (.ok a) s (.ok a) s
  | error (e : ε) (s : σ) : Runs R (.error e) s (.error e) s
  | ask (r : ρ) (next : Except ε (A r) → Interactive ρ A ε α) (x : Except ε (A r)) (s t u : σ)
      (y : Except ε α) (hR : R s r x t) (h : Runs R (next x) t y u) : Runs R (.ask r next) s y u

variable {R : σ → (r : ρ) → Except ε (A r) → σ → Prop} {s u : σ} {p : Interactive ρ A ε α}

theorem runs_pure {a : α} {y : Except ε α} (h : Runs R (pure a : Interactive ρ A ε α) s y u) :
    y = .ok a ∧ u = s := by
  cases h
  exact ⟨rfl, rfl⟩

theorem runs_throw {e : ε} {y : Except ε α} (h : Runs R (throw e : Interactive ρ A ε α) s y u) :
    y = .error e ∧ u = s := by
  cases h
  exact ⟨rfl, rfl⟩

theorem runs_request {r : ρ} {y : Except ε (A r)}
    (h : Runs R (request r : Interactive ρ A ε (A r)) s y u) : R s r y u := by
  cases h with
  | ask _ _ x _ t _ _ hR h =>
    cases x with
    | ok a =>
      cases h
      exact hR
    | error e =>
      cases h
      exact hR

/-- The first part raises, or the second one goes on from where it has come to. -/
theorem runs_bind {f : α → Interactive ρ A ε β} {y : Except ε β} (h : Runs R (p >>= f) s y u) :
    (∃ e, Runs R p s (.error e) u ∧ y = .error e) ∨
      ∃ a t, Runs R p s (.ok a) t ∧ Runs R (f a) t y u := by
  induction p generalizing s with
  | ok a => exact .inr ⟨a, s, .ok a s, h⟩
  | error e =>
    cases h
    exact .inl ⟨e, .error e _, rfl⟩
  | ask r next ih =>
    cases h with
    | ask _ _ x _ t _ _ hR h =>
      obtain ⟨e, hp, hy⟩ | ⟨a, t', hp, hf⟩ := ih x h
      · exact .inl ⟨e, .ask r next x s t u _ hR hp, hy⟩
      · exact .inr ⟨a, t', .ask r next x s t t' _ hR hp, hf⟩

/-- What is caught is no value. -/
theorem runs_catching {D : ε → Bool} {y : Except ε (Option α)} (h : Runs R (catching D p) s y u) :
    (∃ a, Runs R p s (.ok a) u ∧ y = .ok (some a)) ∨
      ∃ e, Runs R p s (.error e) u ∧ y = if D e = true then .ok none else .error e := by
  induction p generalizing s with
  | ok a =>
    cases h
    exact .inl ⟨a, .ok a _, rfl⟩
  | error e =>
    refine .inr ⟨e, ?_⟩
    unfold Interactive.catching at h
    by_cases hD : D e = true
    · rw [if_pos hD] at h ⊢
      cases h
      exact ⟨.error e _, rfl⟩
    · rw [if_neg hD] at h ⊢
      cases h
      exact ⟨.error e _, rfl⟩
  | ask r next ih =>
    cases h with
    | ask _ _ x _ t _ _ hR h =>
      obtain ⟨a, hp, hy⟩ | ⟨e, hp, hy⟩ := ih x h
      · exact .inl ⟨a, .ask r next x s t u _ hR hp, hy⟩
      · exact .inr ⟨e, .ask r next x s t u _ hR hp, hy⟩

end Interactive

/-- Steps of labels lead from a state to another one. -/
inductive Walk {σ α : Type} (R : σ → α → σ → Prop) : σ → List α → σ → Prop
  | nil (s : σ) : Walk R s [] s
  | cons (s t u : σ) (a : α) (as : List α) (h : R s a t) (rest : Walk R t as u) :
      Walk R s (a :: as) u

/-- When every step of one system is a step of the other, so is every run. -/
theorem Walk.simulates {σ τ α : Type} {R : σ → α → σ → Prop} {R' : τ → α → τ → Prop}
    {Sim : σ → τ → Prop} {s u : σ} {c : τ} {as : List α}
    (hstep : ∀ s a t c, Sim s c → R s a t → ∃ c', R' c a c' ∧ Sim t c')
    (h : Walk R s as u) (hsim : Sim s c) : ∃ c', Walk R' c as c' ∧ Sim u c' := by
  induction h generalizing c with
  | nil s => exact ⟨c, .nil c, hsim⟩
  | cons s t u a as hR rest ih =>
    obtain ⟨c₁, hR', hsim₁⟩ := hstep s a t c hsim hR
    obtain ⟨c', hrest, hsim'⟩ := ih hsim₁
    exact ⟨c', .cons c c₁ c' a as hR' hrest, hsim'⟩

end Effect
