/-
# Texts that are split and stripped

A text is a list of symbols, and some of the symbols are spaces.  Splitting a text at a
separator, stripping the parts and joining them again strips the text.  It keeps the rest of
it exactly when no separator has a space next to it.

Deleting a pattern from a text keeps the text exactly when the pattern does not occur in it.
-/
import Mathlib.Data.List.DropRight

namespace Effect

variable {α : Type} {space : α → Bool} {a sep : α} {l p r : List α}

/-! ## Stripping -/

/-- Delete the spaces at the end. -/
def rstrip (space : α → Bool) : List α → List α
  | [] => []
  | a :: l => if rstrip space l = [] ∧ space a then [] else a :: rstrip space l

/-- Delete the spaces at both ends. -/
def strip (space : α → Bool) (l : List α) : List α := (rstrip space l).dropWhile space

theorem rstrip_cons : rstrip space (a :: l) =
    if rstrip space l = [] ∧ space a then [] else a :: rstrip space l := rfl

theorem rstrip_of_spaces (h : ∀ b ∈ r, space b) : rstrip space r = [] := by
  induction r with
  | nil => rfl
  | cons b r ih =>
    rw [List.forall_mem_cons] at h
    rw [rstrip_cons, if_pos ⟨ih h.2, h.1⟩]

theorem rstrip_append (h : ∀ b ∈ r, space b) : rstrip space (l ++ r) = rstrip space l := by
  induction l with
  | nil => exact rstrip_of_spaces h
  | cons a l ih => rw [List.cons_append, rstrip_cons, rstrip_cons, ih]

theorem rstrip_rstrip : rstrip space (rstrip space l) = rstrip space l := by
  induction l with
  | nil => rfl
  | cons a l ih =>
    rw [rstrip_cons]
    split
    · rfl
    · rename_i h
      rw [rstrip_cons, ih, if_neg h]

/-- A part that goes to the end of a text has as few spaces there. -/
theorem rstrip_eq_self_of_append (h : rstrip space (p ++ l) = p ++ l) : rstrip space l = l := by
  induction p with
  | nil => exact h
  | cons b p ih =>
    rw [List.cons_append, rstrip_cons] at h
    split at h
    · cases h
    · exact ih (List.cons.inj h).2

theorem exists_rstrip_append (space : α → Bool) (l : List α) :
    ∃ r, (∀ b ∈ r, space b) ∧ l = rstrip space l ++ r := by
  induction l with
  | nil => exact ⟨[], by simp, rfl⟩
  | cons a l ih =>
    obtain ⟨r, hr, hl⟩ := ih
    rw [rstrip_cons]
    split
    · rename_i h
      refine ⟨a :: l, ?_, rfl⟩
      rw [hl, h.1]
      simpa [h.2] using hr
    · exact ⟨r, hr, by rw [List.cons_append, ← hl]⟩

/-- What is stripped is surrounded by spaces. -/
theorem exists_strip_append (space : α → Bool) (l : List α) :
    ∃ p r, (∀ b ∈ p, space b) ∧ (∀ b ∈ r, space b) ∧ l = p ++ strip space l ++ r := by
  obtain ⟨r, hr, hl⟩ := exists_rstrip_append space l
  refine ⟨(rstrip space l).takeWhile space, r, ?_, hr, ?_⟩
  · exact fun b hb => List.mem_takeWhile_imp hb
  · unfold strip
    rw [List.takeWhile_append_dropWhile]
    exact hl

@[simp] theorem rstrip_strip : rstrip space (strip space l) = strip space l := by
  refine rstrip_eq_self_of_append (p := (rstrip space l).takeWhile space) ?_
  unfold strip
  rw [List.takeWhile_append_dropWhile, rstrip_rstrip]

theorem strip_strip : strip space (strip space l) = strip space l := by
  have hstrip : strip space (strip space l) = (strip space l).dropWhile space := by
    rw [strip, rstrip_strip]
  rw [hstrip]
  exact List.dropWhile_idempotent _ _

theorem strip_cons_space (h : space a) : strip space (a :: l) = strip space l := by
  unfold strip
  rw [rstrip_cons]
  split
  · rename_i hl
    rw [hl.1]
  · rw [List.dropWhile_cons_of_pos h]

theorem strip_append_left (h : ∀ b ∈ p, space b) : strip space (p ++ l) = strip space l := by
  induction p with
  | nil => rfl
  | cons b p ih =>
    rw [List.forall_mem_cons] at h
    rw [List.cons_append, strip_cons_space h.1, ih h.2]

theorem strip_append_right (h : ∀ b ∈ r, space b) : strip space (l ++ r) = strip space l := by
  unfold strip
  rw [rstrip_append h]

theorem mem_of_mem_strip (h : a ∈ strip space l) : a ∈ l := by
  obtain ⟨p, r, -, -, hl⟩ := exists_strip_append space l
  rw [hl]
  simp [h]

/-- A text with no space at its ends is stripped. -/
theorem strip_eq_self (hend : rstrip space l = l) (hstart : ∀ b ∈ l.head?, space b = false) :
    strip space l = l := by
  unfold strip
  rw [hend]
  cases l with
  | nil => rfl
  | cons b l => exact List.dropWhile_cons_of_neg (by simp [hstart b rfl])

/-! ## Splitting -/

/-- No separator has a space next to it. -/
def Tight (space : α → Bool) (sep : α) (l : List α) : Prop :=
  ∀ a b, [a, b] <:+: l → (a = sep → space b = false) ∧ (b = sep → space a = false)

theorem Tight.of_not_space (h : ∀ b ∈ l, space b = false) : Tight space sep l := by
  intro b c hbc
  have hb : b ∈ l := hbc.subset List.mem_cons_self
  have hc : c ∈ l := hbc.subset (List.mem_cons_of_mem _ List.mem_cons_self)
  exact ⟨fun _ => h c hc, fun _ => h b hb⟩

theorem Tight.of_cons (h : Tight space sep (a :: l)) : Tight space sep l :=
  fun b c hbc => h b c (hbc.trans (List.suffix_cons a l).isInfix)

theorem Tight.head (h : Tight space sep (a :: l)) {b : α} (hb : b ∈ l.head?) :
    (a = sep → space b = false) ∧ (b = sep → space a = false) := by
  cases l with
  | nil => cases hb
  | cons c l =>
    cases hb
    exact h a b ⟨[], l, rfl⟩

section Split

variable [DecidableEq α]

/-- Split at the separators, strip the parts and join them. -/
def stripParts (space : α → Bool) (sep : α) (l : List α) : List α :=
  [sep].intercalate ((l.splitOn sep).map (strip space))

/-- A text with no separator is only stripped. -/
theorem stripParts_of_not_mem (h : sep ∉ l) : stripParts space sep l = strip space l := by
  unfold stripParts
  rw [List.splitOn_eq_singleton h]
  simp

/-- The part before the first separator is stripped, and the others are stripped apart. -/
theorem stripParts_append (h : sep ∉ p) : stripParts space sep (p ++ sep :: l) =
    strip space p ++ sep :: stripParts space sep l := by
  unfold stripParts
  rw [List.splitOn_append_cons_self_of_not_mem h, List.map_cons]
  obtain ⟨q, qs, hq⟩ := List.exists_cons_of_ne_nil (List.splitOn_ne_nil sep l)
  rw [hq]
  simp [List.intercalate]

/-- The parts of a tight text are stripped, but for the spaces in front of the first one. -/
theorem Tight.parts (h : Tight space sep l) (hend : rstrip space l = l) :
    ∃ q qs, l.splitOn sep = q :: qs ∧ rstrip space q = q ∧ (∀ b ∈ q.head?, b ∈ l.head?) ∧
      ∀ q' ∈ qs, strip space q' = q' := by
  induction l with
  | nil => exact ⟨[], [], rfl, rfl, by simp, by simp⟩
  | cons a l ih =>
    obtain ⟨q, qs, hq, hrstrip, hhead, hstrip⟩ :=
      ih h.of_cons (rstrip_eq_self_of_append (p := [a]) hend)
    rw [List.splitOn_cons_eq_if_modifyHead, hq]
    by_cases ha : a = sep
    · refine ⟨[], q :: qs, by simp [ha], rfl, by simp, ?_⟩
      rw [List.forall_mem_cons]
      refine ⟨strip_eq_self hrstrip fun b hb => ?_, hstrip⟩
      exact (h.head (hhead b hb)).1 ha
    · refine ⟨a :: q, qs, by simp [ha], ?_, by simp, hstrip⟩
      rw [rstrip_cons, hrstrip, if_neg]
      rintro ⟨rfl, hspace⟩
      -- the first part is empty: the text ends there, or a separator follows
      cases l with
      | nil => simp [rstrip, hspace] at hend
      | cons b l =>
        have hb : b = sep := by
          by_contra hne
          obtain ⟨q', qs', hq'⟩ := List.exists_cons_of_ne_nil (List.splitOn_ne_nil sep l)
          rw [List.splitOn_cons_eq_if_modifyHead, hq'] at hq
          simp [hne] at hq
        have := (h.head rfl).2 hb
        rw [hspace] at this
        cases this

variable (hsep : space sep = false)
include hsep

/-- Spaces in front of a text are in front of its first part. -/
theorem stripParts_append_left (h : ∀ b ∈ p, space b) :
    stripParts space sep (p ++ l) = stripParts space sep l := by
  have hparts : ((p ++ l).splitOn sep).map (strip space) = (l.splitOn sep).map (strip space) := by
    induction p with
    | nil => rfl
    | cons b p ih =>
      rw [List.forall_mem_cons] at h
      have hb : b ≠ sep := by
        rintro rfl
        simp [hsep] at h
      rw [List.cons_append, List.splitOn_cons_eq_if_modifyHead, if_neg (by simpa using hb),
        ← ih h.2]
      obtain ⟨q, qs, hq⟩ := List.exists_cons_of_ne_nil (List.splitOn_ne_nil sep (p ++ l))
      rw [hq]
      simp [strip_cons_space h.1]
  unfold stripParts
  rw [hparts]

/-- Spaces behind a text are behind its last part. -/
theorem stripParts_append_right (h : ∀ b ∈ r, space b) :
    stripParts space sep (l ++ r) = stripParts space sep l := by
  have hparts : ((l ++ r).splitOn sep).map (rstrip space) =
      (l.splitOn sep).map (rstrip space) := by
    induction l with
    | nil =>
      have hr : sep ∉ r := fun hmem => by simpa [hsep] using h sep hmem
      rw [List.nil_append, List.splitOn_eq_singleton hr]
      simp [rstrip_of_spaces h, rstrip]
    | cons a l ih =>
      obtain ⟨q, qs, hq⟩ := List.exists_cons_of_ne_nil (List.splitOn_ne_nil sep (l ++ r))
      obtain ⟨q', qs', hq'⟩ := List.exists_cons_of_ne_nil (List.splitOn_ne_nil sep l)
      rw [hq, hq'] at ih
      obtain ⟨hhead, htail⟩ := List.cons.inj ih
      rw [List.cons_append, List.splitOn_cons_eq_if_modifyHead,
        List.splitOn_cons_eq_if_modifyHead, hq, hq']
      split
      · simp only [List.map_cons, hhead, htail]
      · simp only [List.modifyHead_cons, List.map_cons, rstrip_cons, hhead, htail]
  have hstrip : strip space = List.dropWhile space ∘ rstrip space := rfl
  unfold stripParts
  rw [hstrip, ← List.map_map, ← List.map_map, hparts]

/-- **A tight text is only stripped.** -/
theorem stripParts_eq (h : Tight space sep (strip space l)) :
    stripParts space sep l = strip space l := by
  obtain ⟨p, r, hp, hr, hl⟩ := exists_strip_append space l
  have hstripped : stripParts space sep (strip space l) = strip space l := by
    obtain ⟨q, qs, hq, hrstrip, hhead, hstrip⟩ := h.parts rstrip_strip
    have hqstrip : strip space q = q := by
      refine strip_eq_self hrstrip fun b hb => ?_
      have hb : b ∈ ((rstrip space l).dropWhile space).head? := hhead b hb
      have := List.head?_dropWhile_not space (rstrip space l)
      rw [hb] at this
      simpa using this
    have hparts : (strip space l |>.splitOn sep).map (strip space) =
        (strip space l).splitOn sep := by
      rw [hq, List.map_cons, hqstrip, List.map_congr_left hstrip, List.map_id']
    unfold stripParts
    rw [hparts, List.intercalate_splitOn]
  conv_lhs => rw [hl]
  rw [stripParts_append_right hsep hr, stripParts_append_left hsep hp, hstripped]

end Split

/-! ## Deleting -/

section Delete

variable [DecidableEq α] {n : ℕ} {c : α} {x : List α}

/-- Skip some symbols, and delete from the others every occurrence of the pattern, from the
left. -/
def deleteFrom (p : List α) : ℕ → List α → List α
  | _, [] => []
  | n + 1, _ :: l => deleteFrom p n l
  | 0, a :: l => if p <+: a :: l then deleteFrom p (p.length - 1) l else a :: deleteFrom p 0 l

/-- Delete the occurrences of a pattern that do not overlap, from the left. -/
def deleteAll (p l : List α) : List α := deleteFrom p 0 l

theorem deleteFrom_eq (p : List α) (n : ℕ) (l : List α) :
    deleteFrom p n l = deleteAll p (l.drop n) := by
  induction l generalizing n with
  | nil => cases n <;> simp [deleteAll, deleteFrom]
  | cons a l ih =>
    cases n with
    | zero => rfl
    | succ n => exact ih n

@[simp] theorem deleteAll_nil : deleteAll p [] = [] := rfl

/-- An occurrence at the start is deleted. -/
theorem deleteAll_append (hp : p ≠ []) : deleteAll p (p ++ l) = deleteAll p l := by
  obtain ⟨a, p', rfl⟩ := List.exists_cons_of_ne_nil hp
  have hprefix : a :: p' <+: a :: (p' ++ l) := List.prefix_append (a :: p') l
  show (if a :: p' <+: a :: (p' ++ l) then _ else _) = _
  rw [if_pos hprefix, deleteFrom_eq]
  simp

theorem deleteAll_cons (h : ¬ p <+: a :: l) : deleteAll p (a :: l) = a :: deleteAll p l :=
  if_neg h

/-- A text without the pattern is kept. -/
theorem deleteAll_eq_self (h : ¬ p <:+: l) : deleteAll p l = l := by
  induction l with
  | nil => rfl
  | cons a l ih =>
    have htail : ¬ p <:+: l := fun hl => h (hl.trans (List.suffix_cons a l).isInfix)
    rw [deleteAll_cons fun hp => h hp.isInfix, ih htail]

theorem length_deleteAll_le (p l : List α) : (deleteAll p l).length ≤ l.length := by
  suffices hfrom : ∀ n, (deleteFrom p n l).length ≤ l.length from hfrom 0
  induction l with
  | nil => intro n; cases n <;> simp [deleteFrom]
  | cons a l ih =>
    intro n
    cases n with
    | zero =>
      unfold deleteFrom
      split
      · exact (ih _).trans (Nat.le_succ _)
      · exact Nat.succ_le_succ (ih 0)
    | succ n => exact (ih n).trans (Nat.le_succ _)

/-- A text with the pattern gets shorter. -/
theorem length_deleteAll_lt (hp : p ≠ []) (h : p <:+: l) : (deleteAll p l).length < l.length := by
  induction l with
  | nil => exact absurd (List.infix_nil.mp h) hp
  | cons a l ih =>
    by_cases hprefix : p <+: a :: l
    · obtain ⟨r, hr⟩ := hprefix
      rw [← hr, deleteAll_append hp, List.length_append]
      have hlength := length_deleteAll_le p r
      have hpos := List.length_pos_of_ne_nil hp
      omega
    · rw [deleteAll_cons hprefix]
      have htail : p <:+: l := (List.infix_cons_iff.mp h).resolve_left hprefix
      exact Nat.succ_lt_succ (ih htail)

theorem mem_of_mem_deleteAll (h : c ∈ deleteAll p l) : c ∈ l := by
  suffices hfrom : ∀ n, c ∈ deleteFrom p n l → c ∈ l from hfrom 0 h
  clear h
  induction l with
  | nil => intro n h; cases n <;> cases h
  | cons a l ih =>
    intro n h
    cases n with
    | zero =>
      unfold deleteFrom at h
      split at h
      · exact List.mem_cons_of_mem _ (ih _ h)
      · rcases List.mem_cons.mp h with rfl | h
        · exact List.mem_cons_self
        · exact List.mem_cons_of_mem _ (ih 0 h)
    | succ n => exact List.mem_cons_of_mem _ (ih n h)

omit [DecidableEq α] in
/-- A pattern without a symbol ends before the symbol. -/
theorem prefix_append_cons_iff (hc : c ∉ p) : p <+: x ++ c :: l ↔ p <+: x := by
  induction x generalizing p with
  | nil =>
    rw [List.nil_append, List.prefix_nil]
    constructor
    · intro h
      cases p with
      | nil => rfl
      | cons b p =>
        obtain ⟨rfl, -⟩ := List.cons_prefix_cons.mp h
        exact absurd List.mem_cons_self hc
    · rintro rfl
      exact List.nil_prefix
  | cons a x ih =>
    cases p with
    | nil => simp
    | cons b p =>
      rw [List.cons_append, List.cons_prefix_cons, List.cons_prefix_cons,
        ih fun h => hc (List.mem_cons_of_mem _ h)]

/-- What is before a symbol that the pattern does not have, and what is behind it, lose the
pattern apart. -/
theorem deleteAll_append_cons (hp : p ≠ []) (hc : c ∉ p) :
    deleteAll p (x ++ c :: l) = deleteAll p x ++ c :: deleteAll p l := by
  suffices hfrom : ∀ n ≤ x.length,
      deleteFrom p n (x ++ c :: l) = deleteFrom p n x ++ c :: deleteAll p l from
    hfrom 0 (Nat.zero_le _)
  have hpos := List.length_pos_of_ne_nil hp
  induction x with
  | nil =>
    intro n hn
    obtain rfl : n = 0 := Nat.le_zero.mp hn
    refine deleteAll_cons fun hprefix => hp ?_
    exact List.prefix_nil.mp ((prefix_append_cons_iff (x := []) hc).mp hprefix)
  | cons a x ih =>
    intro n hn
    cases n with
    | zero =>
      unfold deleteFrom
      rw [List.cons_append]
      simp only [← List.cons_append, prefix_append_cons_iff hc]
      split
      · rename_i hprefix
        have hlength := hprefix.length_le
        rw [List.length_cons] at hlength
        exact ih _ (by omega)
      · rw [ih 0 (Nat.zero_le _), List.cons_append]
    | succ n => exact ih n (Nat.le_of_succ_le_succ hn)

/-- What is before the first separator, and what is behind it, if there is one. -/
def splitFirst (sep : α) : List α → List α × Option (List α)
  | [] => ([], none)
  | a :: l => if a = sep then ([], some l) else ((a :: (splitFirst sep l).1), (splitFirst sep l).2)

theorem splitFirst_append (h : sep ∉ x) : splitFirst sep (x ++ sep :: l) = (x, some l) := by
  induction x with
  | nil => exact if_pos rfl
  | cons a x ih =>
    rw [List.mem_cons, not_or] at h
    rw [List.cons_append, splitFirst, if_neg (Ne.symm h.1), ih h.2]

end Delete

end Effect
