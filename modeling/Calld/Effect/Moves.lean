/-
# Guarded changes

`Moves apply K` is the frame of the programs that change the state by changes each of
which `K` allows in the state before it.  To know it of a program is to know all it can do;
an invariant is then a fact about one change, with what allows it in hand.
-/
import Calld.Effect.Rules

namespace Effect

variable {ρ σ κ ε α β : Type}

/-- The state changes one allowed change after the other. -/
def Moves (apply : κ → σ → σ) (K : σ → κ → Prop) : Frame σ where
  rel := Relation.ReflTransGen fun s s' => ∃ k, K s k ∧ s' = apply k s
  refl _ := .refl
  trans h h' := h.trans h'

namespace Moves

variable {apply : κ → σ → σ} {K K' : σ → κ → Prop} {s s' s₀ : σ}

/-- One more change. -/
theorem snoc {k : κ} (h : (Moves apply K).rel s s') (hk : K s' k) :
    (Moves apply K).rel s (apply k s') :=
  h.tail ⟨k, hk, rfl⟩

theorem single {k : κ} (hk : K s k) : (Moves apply K).rel s (apply k s) :=
  snoc .refl hk

theorem mono (hK : ∀ s k, K s k → K' s k) (h : (Moves apply K).rel s s') :
    (Moves apply K').rel s s' :=
  Relation.ReflTransGen.mono (fun _ _ ⟨k, hk, hs⟩ => ⟨k, hK _ k hk, hs⟩) _ _ h

/-- What every allowed change keeps is kept. -/
theorem invariant {I : σ → Prop} (hI : ∀ s k, I s → K s k → I (apply k s))
    (h : (Moves apply K).rel s s') (hs : I s) : I s' := by
  induction h with
  | refl => exact hs
  | tail _ hstep ih =>
    obtain ⟨k, hk, rfl⟩ := hstep
    exact hI _ k ih hk

/-- What no allowed change touches is as it was. -/
theorem untouched {f : σ → α} (hf : ∀ s k, K s k → f (apply k s) = f s)
    (h : (Moves apply K).rel s s') : f s' = f s :=
  invariant (I := fun s' => f s' = f s) (fun s' k hs hk => (hf s' k hk).trans hs) h rfl

/-! ## The way so far -/

/-- The state has moved from `s₀` by allowed changes, and `φ` holds of it now. -/
def Path (apply : κ → σ → σ) (K : σ → κ → Prop) (s₀ : σ) (φ : σ → Prop) (s : σ) : Prop :=
  (Moves apply K).rel s₀ s ∧ φ s

/-- At the start. -/
theorem Path.start {φ : σ → Prop} (h : φ s) : Path apply K s φ s := ⟨.refl, h⟩

variable {env : ρ} {φ ψ : σ → Prop} {E : ε → σ → Prop}

/-- A program that makes one change. -/
theorem change {g : σ → σ} (k : κ) (hg : apply k = g)
    (h : ∀ s, φ s → K s k ∧ ψ (apply k s)) :
    Triple env (Path apply K s₀ φ) (Program.change g : Program ρ σ ε Unit)
      (fun _ => Path apply K s₀ ψ) E := by
  subst hg
  exact Triple.change fun s hs => ⟨snoc hs.1 (h s hs.2).1, (h s hs.2).2⟩

/-- What is known of the way so far may be forgotten. -/
theorem Path.forget (h : Path apply K s₀ φ s) (hφ : ∀ s, φ s → ψ s) : Path apply K s₀ ψ s :=
  ⟨h.1, hφ s h.2⟩

end Moves

end Effect
