/-
# Machines: runs of labelled steps and their invariants

A machine moves in steps named by labels: who moves, and what the outside answers.
A label that cannot be taken in a state gives no state.

`Reaches C` are the states of the runs all of whose steps meet a condition `C` on the
label and on the state before it; with no condition these are all the reachable states.
-/
import Mathlib

namespace Effect

/-- A system that moves in labelled steps; `none` is a step that cannot be taken. -/
structure Machine (σ α : Type) where
  init : σ → Prop
  step : α → σ → Option σ

namespace Machine

variable {σ α : Type} {M : Machine σ α} {C D : σ → α → Prop} {I J : σ → Prop} {s s' : σ}

/-- The states of the runs all of whose steps meet `C`. -/
inductive Reaches (M : Machine σ α) (C : σ → α → Prop) : σ → Prop where
  | init {s : σ} (h : M.init s) : M.Reaches C s
  | step {s s' : σ} {a : α} (h : M.Reaches C s) (hc : C s a) (hs : M.step a s = some s') :
      M.Reaches C s'

/-- The states of all runs. -/
abbrev Reachable (M : Machine σ α) : σ → Prop := M.Reaches fun _ _ => True

/-- Run rule: what holds initially and is kept by every step that meets `C` holds in
every state of the runs of such steps. -/
theorem Reaches.invariant (hi : ∀ s, M.init s → I s)
    (hs : ∀ s a s', I s → C s a → M.step a s = some s' → I s') (h : M.Reaches C s) : I s := by
  induction h with
  | init h => exact hi _ h
  | step _ hc hstep ih => exact hs _ _ _ ih hc hstep

/-- Run rule: beside the invariant, a step may use that its state is reached. -/
theorem Reaches.invariant_along (hi : ∀ s, M.init s → I s)
    (hs : ∀ s a s', M.Reaches C s → I s → C s a → M.step a s = some s' → I s')
    (h : M.Reaches C s) : I s := by
  induction h with
  | init h => exact hi _ h
  | step hr hc hstep ih => exact hs _ _ _ hr ih hc hstep

/-- Fewer conditions, more runs. -/
theorem Reaches.mono (hCD : ∀ s a, C s a → D s a) (h : M.Reaches C s) : M.Reaches D s := by
  induction h with
  | init h => exact .init h
  | step _ hc hstep ih => exact .step ih (hCD _ _ hc) hstep

/-- Take the steps of a list one after the other. -/
def run (M : Machine σ α) : List α → σ → Option σ
  | [], s => some s
  | a :: as, s => (M.step a s).bind (M.run as)

/-- Every step of the list that is taken meets the condition. -/
def Meets (M : Machine σ α) (C : σ → α → Prop) : List α → σ → Prop
  | [], _ => True
  | a :: as, s => C s a ∧ ∀ t ∈ M.step a s, M.Meets C as t

instance decidableMeets [∀ s a, Decidable (C s a)] :
    ∀ (as : List α) (s : σ), Decidable (M.Meets C as s)
  | [], _ => isTrue trivial
  | a :: as, s =>
    have : ∀ t, Decidable (M.Meets C as t) := decidableMeets as
    inferInstanceAs (Decidable (C s a ∧ ∀ t ∈ M.step a s, M.Meets C as t))

theorem meets_true (as : List α) (s : σ) : M.Meets (fun _ _ => True) as s := by
  induction as generalizing s with
  | nil => trivial
  | cons a as ih => exact ⟨trivial, fun t _ => ih t⟩

theorem meets_of_mem {as : List α} (h : ∀ a ∈ as, ∀ s, C s a) : M.Meets C as s := by
  induction as generalizing s with
  | nil => trivial
  | cons a as ih =>
    exact ⟨h a List.mem_cons_self s, fun t _ => ih fun b hb => h b (List.mem_cons_of_mem a hb)⟩

/-- Where a list of steps that meet the condition leads. -/
theorem Reaches.run {as : List α} (h : M.Reaches C s) (hc : M.Meets C as s)
    (hr : M.run as s = some s') : M.Reaches C s' := by
  induction as generalizing s with
  | nil =>
    cases hr
    exact h
  | cons a as ih =>
    obtain ⟨t, ht, hr⟩ := Option.bind_eq_some_iff.mp hr
    exact ih (.step h hc.1 ht) (hc.2 t ht) hr

/-- Where a list of steps leads is reachable. -/
theorem Reaches.reachable_run {as : List α} (h : M.Reachable s) (hr : M.run as s = some s') :
    M.Reachable s' :=
  Reaches.run h (meets_true as s) hr

end Machine

end Effect
