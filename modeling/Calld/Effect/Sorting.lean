/-
# Lists whose elements may raise, sorting, and pages

A list is gone through with a function that may raise; if it does not, the results are there
element by element.

A sort asks for nothing but comparisons.  Where they all answer by one relation, the result is
the stable sort of the list; where a comparison with some element raises, so does the sort,
unless there is nothing to compare the element with.

The pages of a list are its consecutive slices of one size.
-/
import Mathlib.Data.List.Sort
import Mathlib.Tactic.Ring

namespace Effect

variable {ε α : Type}

/-! ## Going through a list -/

section Maps

variable {β γ : Type} {f : α → Except ε β} {l : List α} {l' : List β}

theorem exists_of_bind {x : Except ε α} {g : α → Except ε β} {b : β} (h : (x >>= g) = .ok b) :
    ∃ a, x = .ok a ∧ g a = .ok b := by
  cases x with
  | error e => cases h
  | ok a => exact ⟨a, rfl, h⟩

/-- Where nothing is raised, the results correspond to the elements. -/
theorem forall₂_of_mapM (h : l.mapM f = .ok l') : List.Forall₂ (fun a b => f a = .ok b) l l' := by
  induction l generalizing l' with
  | nil =>
    cases h
    exact .nil
  | cons a l ih =>
    rw [List.mapM_cons] at h
    rcases ha : f a with e | b
    · simp [ha, bind, Except.bind] at h
    rcases hl : l.mapM f with e | l''
    · simp [ha, hl, bind, Except.bind] at h
    · simp only [ha, hl, bind, Except.bind, pure, Except.pure, Except.ok.injEq] at h
      subst h
      exact .cons ha (ih hl)

theorem mapM_of_forall₂ (h : List.Forall₂ (fun a b => f a = .ok b) l l') : l.mapM f = .ok l' := by
  induction h with
  | nil => rfl
  | cons ha _ ih => simp [List.mapM_cons, ha, ih, bind, Except.bind, pure, Except.pure]

theorem exists_of_mapM (h : l.mapM f = .ok l') {a : α} (ha : a ∈ l) : ∃ b ∈ l', f a = .ok b := by
  induction forall₂_of_mapM h with
  | nil => cases ha
  | cons hb hl ih =>
    rcases List.mem_cons.mp ha with rfl | ha
    · exact ⟨_, List.mem_cons_self, hb⟩
    · obtain ⟨b, hmem, hb⟩ := ih (mapM_of_forall₂ hl) ha
      exact ⟨b, List.mem_cons_of_mem _ hmem, hb⟩

/-- What is raised is raised by an element. -/
theorem exists_of_mapM_error {e : ε} (h : l.mapM f = .error e) : ∃ a ∈ l, f a = .error e := by
  induction l with
  | nil => cases h
  | cons a l ih =>
    rw [List.mapM_cons] at h
    rcases ha : f a with e' | b
    · simp only [ha, bind, Except.bind, Except.error.injEq] at h
      exact ⟨a, List.mem_cons_self, h ▸ ha⟩
    rcases hl : l.mapM f with e' | l''
    · simp only [ha, hl, bind, Except.bind, Except.error.injEq] at h
      obtain ⟨a', hmem, ha'⟩ := ih (h ▸ hl)
      exact ⟨a', List.mem_cons_of_mem _ hmem, ha'⟩
    · simp [ha, hl, bind, Except.bind, pure, Except.pure] at h

/-- Lists that correspond part by part correspond as a whole. -/
theorem forall₂_flatMap_flatten {R : γ → β → Prop} {g : α → List γ} {ls : List (List β)}
    (h : List.Forall₂ (fun a l' => List.Forall₂ R (g a) l') l ls) :
    List.Forall₂ R (l.flatMap g) ls.flatten := by
  induction h with
  | nil => exact .nil
  | cons ha _ ih =>
    rw [List.flatMap_cons, List.flatten_cons]
    exact List.rel_append ha ih

end Maps

/-! ## Sorting -/

/-- Insert an element before those that are not less. -/
def insertM (lt : α → α → Except ε Bool) (a : α) : List α → Except ε (List α)
  | [] => pure [a]
  | b :: l => do
    if ← lt b a then
      let sorted ← insertM lt a l
      pure (b :: sorted)
    else pure (a :: b :: l)

/-- The stable sort by `lt`. -/
def sortM (lt : α → α → Except ε Bool) : List α → Except ε (List α)
  | [] => pure []
  | a :: l => do
    let sorted ← sortM lt l
    insertM lt a sorted

section Sorts

variable {lt : α → α → Except ε Bool} {r : α → α → Prop} [DecidableRel r] {l : List α} {a : α}

theorem insertM_eq (h : ∀ b ∈ l, lt b a = .ok (decide ¬ r a b)) :
    insertM lt a l = .ok (l.orderedInsert r a) := by
  induction l with
  | nil => rfl
  | cons b l ih =>
    have hl := ih fun c hc => h c (List.mem_cons_of_mem b hc)
    unfold insertM
    rw [h b List.mem_cons_self, List.orderedInsert_cons]
    by_cases hab : r a b
    · simp [hab, bind, Except.bind, pure, Except.pure]
    · simp [hab, hl, bind, Except.bind, pure, Except.pure]

/-- Where every comparison answers, the result is the stable sort. -/
theorem sortM_eq (h : ∀ a ∈ l, ∀ b ∈ l, lt b a = .ok (decide ¬ r a b)) :
    sortM lt l = .ok (l.insertionSort r) := by
  induction l with
  | nil => rfl
  | cons a l ih =>
    have hl := ih fun c hc d hd => h c (List.mem_cons_of_mem a hc) d (List.mem_cons_of_mem a hd)
    unfold sortM
    rw [hl, List.insertionSort_cons]
    refine insertM_eq fun b hb => h a List.mem_cons_self b (List.mem_cons_of_mem a ?_)
    exact (List.mem_insertionSort r).mp hb

end Sorts

section Raises

variable {lt : α → α → Except ε Bool} {l : List α} {a : α} {e : ε} {bad : α → Prop}

theorem insertM_perm {l' : List α} (h : insertM lt a l = .ok l') : l'.Perm (a :: l) := by
  induction l generalizing l' with
  | nil =>
    cases h
    exact .refl _
  | cons b l ih =>
    unfold insertM at h
    rcases hlt : lt b a with e | (_ | _) <;> rw [hlt] at h
    · cases h
    · cases h
      exact .refl _
    · rcases hl : insertM lt a l with e | sorted
      · simp [hl, bind, Except.bind] at h
      · simp only [hl, bind, Except.bind, pure, Except.pure, if_true, Except.ok.injEq] at h
        subst h
        exact ((ih hl).cons b).trans (.swap a b l)

theorem sortM_perm {l' : List α} (h : sortM lt l = .ok l') : l'.Perm l := by
  induction l generalizing l' with
  | nil =>
    cases h
    exact .refl _
  | cons a l ih =>
    unfold sortM at h
    rcases hl : sortM lt l with e | sorted <;> rw [hl] at h
    · cases h
    · exact (insertM_perm h).trans ((ih hl).cons a)

/-- An element that cannot be compared is compared at once. -/
theorem insertM_raises (hbad : ∀ a b, bad a ∨ bad b → lt b a = .error e) {b : α}
    (h : bad a ∨ bad b) : insertM lt a (b :: l) = .error e := by
  unfold insertM
  rw [hbad a b h]
  rfl

/-- A sort raises nothing but what a comparison raises. -/
theorem insertM_error (hlt : ∀ a b e', lt b a = .error e' → e' = e) {e' : ε}
    (h : insertM lt a l = .error e') : e' = e := by
  induction l with
  | nil => cases h
  | cons b l ih =>
    unfold insertM at h
    rcases hb : lt b a with e'' | (_ | _) <;> rw [hb] at h
    · cases h
      exact hlt a b _ hb
    · cases h
    · rcases hl : insertM lt a l with e'' | sorted
      · simp only [hl, bind, Except.bind, if_true, Except.error.injEq] at h
        exact ih (hl.trans (congrArg Except.error h))
      · simp [hl, bind, Except.bind, pure, Except.pure] at h

theorem sortM_error (hlt : ∀ a b e', lt b a = .error e' → e' = e) {e' : ε}
    (h : sortM lt l = .error e') : e' = e := by
  induction l with
  | nil => cases h
  | cons a l ih =>
    unfold sortM at h
    rcases hl : sortM lt l with e'' | sorted <;> rw [hl] at h
    · cases h
      exact ih hl
    · exact insertM_error hlt h

/-- One element that cannot be compared makes the sort of two or more raise. -/
theorem sortM_raises (hbad : ∀ a b, bad a ∨ bad b → lt b a = .error e)
    (hlt : ∀ a b e', lt b a = .error e' → e' = e) (hl : 2 ≤ l.length) (h : ∃ a ∈ l, bad a) :
    sortM lt l = .error e := by
  induction l with
  | nil => simp at hl
  | cons a l ih =>
    rcases hsorted : sortM lt l with e' | sorted
    · obtain rfl := sortM_error hlt hsorted
      unfold sortM
      rw [hsorted]
      rfl
    have hperm := sortM_perm hsorted
    have hne : sorted ≠ [] := by
      rintro rfl
      simp [hperm.symm.eq_nil] at hl
    obtain ⟨b, s, rfl⟩ := List.exists_cons_of_ne_nil hne
    have hhead : bad a ∨ bad b := by
      obtain ⟨c, hc, hcbad⟩ := h
      rcases List.mem_cons.mp hc with rfl | hc
      · exact .inl hcbad
      -- the rest would have raised, unless it is this element alone
      rcases lt_or_ge l.length 2 with hshort | hlong
      · obtain ⟨d, rfl⟩ := List.length_eq_one_iff.mp
          (by have := List.length_pos_of_mem hc; omega : l.length = 1)
        obtain rfl : c = d := by simpa using hc
        obtain ⟨rfl, -⟩ : b = c ∧ s = [] := by simpa using hperm.eq_singleton
        exact .inr hcbad
      · rw [ih hlong ⟨c, hc, hcbad⟩] at hsorted
        cases hsorted
    unfold sortM
    rw [hsorted]
    exact insertM_raises hbad hhead

end Raises

/-! ## Pages -/

/-- The slice of a size from an offset on. -/
def slice (limit : Option ℕ) (offset : ℕ) (l : List α) : List α :=
  match limit with
  | none => l.drop offset
  | some limit => (l.take (offset + limit)).drop offset

@[simp] theorem slice_none_zero (l : List α) : slice none 0 l = l := rfl

theorem slice_some (limit offset : ℕ) (l : List α) :
    slice (some limit) offset l = (l.drop offset).take limit := by
  show (l.take (offset + limit)).drop offset = _
  rw [List.drop_take, Nat.add_sub_cancel_left]

theorem slice_map {β : Type} (g : α → β) (limit : Option ℕ) (offset : ℕ) (l : List α) :
    slice limit offset (l.map g) = (slice limit offset l).map g := by
  unfold slice
  cases limit <;> simp [List.map_drop, List.map_take]

/-- The first pages are the beginning of the list. -/
theorem flatMap_slice (l : List α) (size pages : ℕ) :
    ((List.range pages).flatMap fun k => slice (some size) (k * size) l) =
      l.take (pages * size) := by
  induction pages with
  | zero => simp
  | succ pages ih =>
    rw [List.range_succ, List.flatMap_append, ih, List.flatMap_singleton, slice_some,
      Nat.succ_mul, List.take_add]

/-- Enough pages are the whole list. -/
theorem flatMap_slice_eq (l : List α) {size pages : ℕ} (h : l.length ≤ pages * size) :
    ((List.range pages).flatMap fun k => slice (some size) (k * size) l) = l := by
  rw [flatMap_slice, List.take_of_length_le h]

end Effect
