/-
# Folds of assignments

A step that assigns at most one key of a view, and a fold of such steps over a list: a key
shows what the last element that assigns it has assigned.  If the elements agree on a key,
their order does not matter.
-/
import Mathlib

namespace Effect

variable {σ α κ ν : Type} [DecidableEq κ]

/-- Every step of the list assigns to the view what `f` says, and nothing else. -/
def Assigns (view : σ → κ → Option ν) (step : σ → α → σ) (f : α → Option (κ × ν))
    (l : List α) : Prop :=
  ∀ s, ∀ a ∈ l, ∀ k, view (step s a) k =
    match f a with
    | some (k', v) => if k = k' then some v else view s k
    | none => view s k

namespace Assigns

variable {view : σ → κ → Option ν} {step : σ → α → σ} {f : α → Option (κ × ν)} {s : σ}
  {l l' : List α} {a : α} {k : κ} {v : ν}

theorem subset (h : Assigns view step f l) (hl : ∀ a ∈ l', a ∈ l) : Assigns view step f l' :=
  fun s a ha => h s a (hl a ha)

theorem assigned (h : Assigns view step f l) (ha : a ∈ l) (hf : f a = some (k, v)) :
    view (step s a) k = some v := by
  rw [h s a ha k, hf]
  exact if_pos rfl

theorem unassigned (h : Assigns view step f l) (ha : a ∈ l) (hf : ∀ v, f a ≠ some (k, v)) :
    view (step s a) k = view s k := by
  rw [h s a ha k]
  rcases ha' : f a with _ | ⟨k', v'⟩
  · rfl
  · refine if_neg fun hk : k = k' => hf v' ?_
    rw [ha', hk]

/-- The last element has the last word. -/
theorem last (h : Assigns view step f (l ++ [a])) (hf : f a = some (k, v)) :
    view ((l ++ [a]).foldl step s) k = some v := by
  rw [List.foldl_append]
  exact h.assigned (by simp) hf

/-- What is shown after the fold was shown before, or it was assigned. -/
theorem source (h : Assigns view step f l) (hv : view (l.foldl step s) k = some v) :
    view s k = some v ∨ ∃ a ∈ l, f a = some (k, v) := by
  induction l generalizing s with
  | nil => exact .inl hv
  | cons a l ih =>
    rcases ih (h.subset fun b hb => by simp [hb]) hv with hshown | ⟨b, hb, hfb⟩
    · by_cases hf : ∃ v, f a = some (k, v)
      · obtain ⟨v', hf⟩ := hf
        rw [h.assigned (by simp) hf] at hshown
        exact .inr ⟨a, by simp, hf.trans (by rw [Option.some.inj hshown])⟩
      · rw [h.unassigned (by simp) fun v hv => hf ⟨v, hv⟩] at hshown
        exact .inl hshown
    · exact .inr ⟨b, by simp [hb], hfb⟩

/-- A key that is shown, or that is assigned, is shown after the fold. -/
theorem shown (h : Assigns view step f l)
    (hk : (view s k).isSome ∨ ∃ a ∈ l, ∃ v, f a = some (k, v)) :
    (view (l.foldl step s) k).isSome := by
  induction l generalizing s with
  | nil =>
    rcases hk with hk | ⟨a, ha, -⟩
    · exact hk
    · cases ha
  | cons a l ih =>
    refine ih (h.subset fun b hb => by simp [hb]) ?_
    by_cases hf : ∃ v, f a = some (k, v)
    · obtain ⟨v, hf⟩ := hf
      left
      rw [h.assigned (by simp) hf]
      rfl
    · rw [h.unassigned (by simp) fun v hv => hf ⟨v, hv⟩]
      rcases hk with hk | ⟨b, hb, hfb⟩
      · exact .inl hk
      · rcases List.mem_cons.mp hb with rfl | hb
        · exact absurd hfb hf
        · exact .inr ⟨b, hb, hfb⟩

/-- A key on which the elements agree shows what any of them assigns. -/
theorem shows_iff (h : Assigns view step f l) (hs : view s k = none)
    (hagree : ∀ a ∈ l, ∀ b ∈ l, ∀ v w, f a = some (k, v) → f b = some (k, w) → v = w) :
    view (l.foldl step s) k = some v ↔ ∃ a ∈ l, f a = some (k, v) := by
  have hsource {w : ν} (hw : view (l.foldl step s) k = some w) :
      ∃ a ∈ l, f a = some (k, w) := by
    rcases h.source hw with hshown | hassigned
    · rw [hs] at hshown
      cases hshown
    · exact hassigned
  refine ⟨hsource, ?_⟩
  rintro ⟨a, ha, hfa⟩
  have hshown : (view (l.foldl step s) k).isSome := h.shown (.inr ⟨a, ha, v, hfa⟩)
  obtain ⟨w, hw⟩ := Option.isSome_iff_exists.mp hshown
  obtain ⟨b, hb, hfb⟩ := hsource hw
  rw [hw, hagree a ha b hb v w hfa hfb]

end Assigns

end Effect
