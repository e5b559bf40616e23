/-
# Observed runs and simulations by a family of machines

`Observed R` is the reflexive-transitive closure of a step relation that emits
observations, the observations being accumulated.

`Simulates` is the frame of the programs whose log can be explained by a family of such
machines, one for each index: the state shows the state of every machine (`view`), and
what the program adds to the log is, for every index, what its machine has emitted
(`proj`).  Because it is a frame, the rules for programs apply to it.
-/
import Calld.Effect.Rules

namespace Effect

variable {α β ι σ ev : Type}

/-! ## Runs with accumulated observations -/

/-- Runs of `R`, with the observations of all their steps. -/
inductive Observed (R : α → List β → α → Prop) : α → List β → α → Prop
  | refl (a : α) : Observed R a [] a
  | tail {a b c : α} {o o' : List β} : Observed R a o b → R b o' c → Observed R a (o ++ o') c

namespace Observed

variable {R : α → List β → α → Prop} {a b c : α} {o o' : List β}

theorem single (h : R a o b) : Observed R a o b := by
  simpa using (Observed.refl a).tail h

theorem append (h : Observed R a o b) (h' : Observed R b o' c) : Observed R a (o ++ o') c := by
  induction h' with
  | refl => simpa using h
  | tail _ hs ih =>
    rw [← List.append_assoc]
    exact ih.tail hs

/-- An invariant of the machine, with what it emits while the invariant holds. -/
theorem invariant {I : α → Prop} {φ : β → Prop}
    (hI : ∀ a o b, I a → R a o b → I b ∧ ∀ x ∈ o, φ x) (h : Observed R a o b) (ha : I a) :
    I b ∧ ∀ x ∈ o, φ x := by
  induction h with
  | refl => exact ⟨ha, fun x hx => by simp at hx⟩
  | tail _ hs ih =>
    obtain ⟨hb, ho⟩ := ih
    obtain ⟨hc, ho'⟩ := hI _ _ _ hb hs
    exact ⟨hc, fun x hx => (List.mem_append.mp hx).elim (ho x) (ho' x)⟩

/-- After a final state nothing happens. -/
theorem final (hfin : ∀ o b, R a o b → o = [] ∧ b = a) (h : Observed R a o b) :
    o = [] ∧ b = a := by
  induction h with
  | refl => exact ⟨rfl, rfl⟩
  | tail _ hs ih =>
    obtain ⟨rfl, rfl⟩ := ih
    obtain ⟨rfl, rfl⟩ := hfin _ _ hs
    exact ⟨rfl, rfl⟩

end Observed

/-! ## The frame of a simulation -/

section Simulates

variable (R : α → List β → α → Prop) (log : σ → List ev) (view : ι → σ → α)
  (proj : ι → ev → Option β)

/-- The log grows by events that are, for every index, a run of its machine. -/
def Simulates : Frame σ where
  rel s s' := ∃ evs, log s' = log s ++ evs ∧
    ∀ i, Observed R (view i s) (evs.filterMap (proj i)) (view i s')
  refl s := ⟨[], by simp, fun i => by simpa using .refl _⟩
  trans := by
    rintro s₁ s₂ s₃ ⟨evs, hl, h⟩ ⟨evs', hl', h'⟩
    refine ⟨evs ++ evs', by rw [hl', hl, List.append_assoc], fun i => ?_⟩
    rw [List.filterMap_append]
    exact (h i).append (h' i)

variable {R log view proj}

/-- A change that only one machine sees. -/
theorem Simulates.of_step [DecidableEq ι] {s s' : σ} {evs : List ev} (i : ι)
    (hlog : log s' = log s ++ evs)
    (hother : ∀ j, j ≠ i → view j s' = view j s ∧ evs.filterMap (proj j) = [])
    (hstep : Observed R (view i s) (evs.filterMap (proj i)) (view i s')) :
    (Simulates R log view proj).rel s s' := by
  refine ⟨evs, hlog, fun j => ?_⟩
  by_cases hj : j = i
  · exact hj ▸ hstep
  · obtain ⟨hv, he⟩ := hother j hj
    rw [hv, he]
    exact .refl _

/-- A change that no machine sees. -/
theorem Simulates.of_silent {s s' : σ} (hlog : log s' = log s)
    (hview : ∀ i, view i s' = view i s) : (Simulates R log view proj).rel s s' :=
  ⟨[], by simp [hlog], fun i => by simpa [hview i] using .refl _⟩

end Simulates

end Effect
