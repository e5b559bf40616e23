/-
# Footprints and traces

`Changes apply K` is the frame of the programs that change the state by changes of the
kind `K` only, one after the other.  What no such change touches is as it was, and what
each of them keeps is kept.

`Always P` says of a trace that every event of it satisfies `P` on what had happened
before it.
-/
import Calld.Effect.Rules

namespace Effect

variable {σ κ ε α : Type}

/-! ## Footprints -/

/-- The state changes by changes of the kind `K` only. -/
def Changes (apply : κ → σ → σ) (K : κ → Prop) : Frame σ where
  rel s s' := ∃ l : List κ, (∀ k ∈ l, K k) ∧ s' = l.foldl (fun s k => apply k s) s
  refl s := ⟨[], by simp, rfl⟩
  trans := by
    rintro s₁ s₂ s₃ ⟨l, hl, rfl⟩ ⟨l', hl', rfl⟩
    refine ⟨l ++ l', fun k hk => ?_, by rw [List.foldl_append]⟩
    rcases List.mem_append.mp hk with h | h
    · exact hl k h
    · exact hl' k h

namespace Changes

variable {apply : κ → σ → σ} {K K' : κ → Prop} {s s' : σ}

theorem single {k : κ} (h : K k) (s : σ) : (Changes apply K).rel s (apply k s) :=
  ⟨[k], by simpa using h, rfl⟩

theorem mono (hK : ∀ k, K k → K' k) (h : (Changes apply K).rel s s') :
    (Changes apply K').rel s s' := by
  obtain ⟨l, hl, hs⟩ := h
  exact ⟨l, fun k hk => hK k (hl k hk), hs⟩

/-- What every change of the kind keeps is kept. -/
theorem invariant {I : σ → Prop} (hI : ∀ s k, K k → I s → I (apply k s))
    (h : (Changes apply K).rel s s') (hs : I s) : I s' := by
  obtain ⟨l, hl, rfl⟩ := h
  induction l generalizing s with
  | nil => exact hs
  | cons k l ih =>
    exact ih (hI s k (hl k (by simp)) hs) fun k' hk' => hl k' (by simp [hk'])

/-- What no change of the kind touches is as it was. -/
theorem untouched {f : σ → α} (hf : ∀ s k, K k → f (apply k s) = f s)
    (h : (Changes apply K).rel s s') : f s' = f s :=
  invariant (I := fun s' => f s' = f s) (fun s' k hk hs' => (hf s' k hk).trans hs') h rfl

end Changes

/-! ## Traces -/

/-- Every event satisfies `P` on what had happened before it. -/
def Always (P : List ε → ε → Prop) (tr : List ε) : Prop :=
  ∀ past e future, tr = past ++ e :: future → P past e

namespace Always

variable {P Q : List ε → ε → Prop} {tr : List ε} {e : ε}

theorem nil : Always P [] := by
  intro past e future h
  simp at h

/-- One more event. -/
theorem snoc (h : Always P tr) (he : P tr e) : Always P (tr ++ [e]) := by
  intro past a future hsplit
  rcases List.eq_nil_or_concat future with rfl | ⟨future, b, rfl⟩
  · have hlast := List.append_inj' hsplit rfl
    obtain ⟨rfl, ha⟩ := hlast
    rw [List.singleton_inj] at ha
    exact ha ▸ he
  · refine h past a future ?_
    have hinit : tr ++ [e] = (past ++ a :: future) ++ [b] := by
      rw [hsplit]
      simp
    exact (List.append_inj' hinit rfl).1

/-- More events of which nothing is asked. -/
theorem append {evs : List ε} (h : Always P tr) (hevs : ∀ e ∈ evs, ∀ past, P past e) :
    Always P (tr ++ evs) := by
  induction evs generalizing tr with
  | nil => rwa [List.append_nil]
  | cons e evs ih =>
    rw [List.append_cons]
    exact ih (h.snoc (hevs e (by simp) tr)) fun e' he' => hevs e' (by simp [he'])

theorem imp (hPQ : ∀ past e, P past e → Q past e) (h : Always P tr) : Always Q tr :=
  fun past e future hsplit => hPQ past e (h past e future hsplit)

end Always

end Effect
