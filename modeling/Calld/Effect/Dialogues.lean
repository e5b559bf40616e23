/-
# What a program has been answered

The dialogue of a program that has ended is the list of its requests with their answers.
Nothing is said about who answers: a fact about every dialogue of a program holds whatever
goes on around it.

A dialogue is read from its start to its end with a phase, which `note` brings up to date.
`Ends` is the contract of a program with these phases: answered within `C`, it returns in a
phase of `Q` or raises in a phase of `E`.
-/
import Calld.Effect.Interactive

namespace Effect

/-- A request with its answer. -/
structure Exchange (ρ : Type) (A : ρ → Type) (ε : Type) where
  request : ρ
  answer : Except ε (A request)

namespace Interactive

variable {ρ ε α β κ : Type} {A : ρ → Type}

/-! ## Dialogues -/

/-- The program has this dialogue, and ends so. -/
inductive Comes : Interactive ρ A ε α → List (Exchange ρ A ε) → Except ε α → Prop
  | ok (a : α) : Comes (.ok a) [] (.ok a)
  | error (e : ε) : Comes (.error e) [] (.error e)
  | ask (r : ρ) (next : Except ε (A r) → Interactive ρ A ε α) (x : Except ε (A r))
      (l : List (Exchange ρ A ε)) (y : Except ε α) (h : Comes (next x) l y) :
      Comes (.ask r next) (⟨r, x⟩ :: l) y

/-- The dialogue of a program whose requests are all answered from one state. -/
def dialogue {σ : Type} (answer : σ → (r : ρ) → Except ε (A r) × σ) :
    Interactive ρ A ε α → σ → List (Exchange ρ A ε)
  | .ok _, _ => []
  | .error _, _ => []
  | .ask r next, s =>
    ⟨r, (answer s r).1⟩ :: dialogue answer (next (answer s r).1) (answer s r).2

theorem comes_dialogue {σ : Type} (answer : σ → (r : ρ) → Except ε (A r) × σ)
    (p : Interactive ρ A ε α) (s : σ) :
    p.Comes (dialogue answer p s) (exec answer p s).1 := by
  induction p generalizing s with
  | ok a => exact .ok a
  | error e => exact .error e
  | ask r next ih => exact .ask r next _ _ _ (ih _ _)

section Parts

variable {l : List (Exchange ρ A ε)} {p : Interactive ρ A ε α}

theorem comes_pure {a : α} {y : Except ε α} (h : (pure a : Interactive ρ A ε α).Comes l y) :
    l = [] ∧ y = .ok a := by
  cases h
  exact ⟨rfl, rfl⟩

theorem comes_throw {e : ε} {y : Except ε α} (h : (throw e : Interactive ρ A ε α).Comes l y) :
    l = [] ∧ y = .error e := by
  cases h
  exact ⟨rfl, rfl⟩

theorem comes_request {r : ρ} {y : Except ε (A r)}
    (h : (request r : Interactive ρ A ε (A r)).Comes l y) : l = [⟨r, y⟩] := by
  cases h with
  | ask _ _ x l y h =>
    cases x with
    | ok a =>
      cases h
      rfl
    | error e =>
      cases h
      rfl

/-- The dialogue of a sequence: the first part raises, or its dialogue comes first. -/
theorem comes_bind {f : α → Interactive ρ A ε β} {y : Except ε β} (h : (p >>= f).Comes l y) :
    (∃ e, p.Comes l (.error e) ∧ y = .error e) ∨
      ∃ l₁ l₂ a, l = l₁ ++ l₂ ∧ p.Comes l₁ (.ok a) ∧ (f a).Comes l₂ y := by
  induction p generalizing l with
  | ok a => exact .inr ⟨[], l, a, rfl, .ok a, h⟩
  | error e =>
    cases h
    exact .inl ⟨e, .error e, rfl⟩
  | ask r next ih =>
    cases h with
    | ask _ _ x l y h =>
      obtain ⟨e, hp, hy⟩ | ⟨l₁, l₂, a, rfl, hp, hf⟩ := ih x h
      · exact .inl ⟨e, .ask r next x l _ hp, hy⟩
      · exact .inr ⟨⟨r, x⟩ :: l₁, l₂, a, rfl, .ask r next x l₁ _ hp, hf⟩

theorem comes_catching {D : ε → Bool} {y : Except ε (Option α)} (h : (catching D p).Comes l y) :
    (∃ a, p.Comes l (.ok a) ∧ y = .ok (some a)) ∨
      ∃ e, p.Comes l (.error e) ∧ y = if D e = true then .ok none else .error e := by
  induction p generalizing l with
  | ok a =>
    cases h
    exact .inl ⟨a, .ok a, rfl⟩
  | error e =>
    refine .inr ⟨e, ?_⟩
    unfold Interactive.catching at h
    split at h <;> cases h
    · rename_i hD
      exact ⟨.error e, (if_pos hD).symm⟩
    · rename_i hD
      exact ⟨.error e, (if_neg hD).symm⟩
  | ask r next ih =>
    cases h with
    | ask _ _ x l y h =>
      obtain ⟨a, hp, hy⟩ | ⟨e, hp, hy⟩ := ih x h
      · exact .inl ⟨a, .ask r next x l _ hp, hy⟩
      · exact .inr ⟨e, .ask r next x l _ hp, hy⟩

end Parts

/-- What holds of every answer holds of the dialogue. -/
theorem forall_mem_dialogue {σ : Type} {answer : σ → (r : ρ) → Except ε (A r) × σ}
    {C : (r : ρ) → Except ε (A r) → Prop} (h : ∀ s r, C r (answer s r).1)
    (p : Interactive ρ A ε α) (s : σ) : ∀ x ∈ dialogue answer p s, C x.request x.answer := by
  induction p generalizing s with
  | ok a => simp [dialogue]
  | error e => simp [dialogue]
  | ask r next ih =>
    intro x hx
    rcases List.mem_cons.mp hx with rfl | hx
    · exact h s r
    · exact ih _ _ x hx

/-! ## Contracts -/

/-- From the phase on, answered within `C`, the program returns in a phase of `Q` and raises in
a phase of `E`. -/
def Ends (C : (r : ρ) → Except ε (A r) → Prop) (note : κ → (r : ρ) → Except ε (A r) → κ)
    (Q : κ → α → Prop) (E : κ → ε → Prop) : κ → Interactive ρ A ε α → Prop
  | k, .ok a => Q k a
  | k, .error e => E k e
  | k, .ask r next => ∀ x, C r x → Ends C note Q E (note k r x) (next x)

/-- The phase that a dialogue leads to. -/
def heard (note : κ → (r : ρ) → Except ε (A r) → κ) (k : κ) (l : List (Exchange ρ A ε)) : κ :=
  l.foldl (fun k x => note k x.request x.answer) k

/-- What is said about the end of a program. -/
def Closes (Q : κ → α → Prop) (E : κ → ε → Prop) (k : κ) : Except ε α → Prop
  | .ok a => Q k a
  | .error e => E k e

variable {C : (r : ρ) → Except ε (A r) → Prop} {note : κ → (r : ρ) → Except ε (A r) → κ}
  {Q Q' : κ → α → Prop} {R : κ → β → Prop} {E E' : κ → ε → Prop} {k : κ}
  {p : Interactive ρ A ε α} {f : α → Interactive ρ A ε β}

namespace Ends

protected theorem pure {a : α} (h : Q k a) : Ends C note Q E k (pure a) := h

protected theorem throw {e : ε} (h : E k e) : Ends C note Q E k (throw e) := h

theorem mono (h : Ends C note Q E k p) (hQ : ∀ k a, Q k a → Q' k a)
    (hE : ∀ k e, E k e → E' k e) : Ends C note Q' E' k p := by
  induction p generalizing k with
  | ok a => exact hQ k a h
  | error e => exact hE k e h
  | ask r next ih => exact fun x hx => ih x (h x hx)

protected theorem bind (hp : Ends C note (fun k a => Ends C note R E k (f a)) E k p) :
    Ends C note R E k (p >>= f) := by
  induction p generalizing k with
  | ok a => exact hp
  | error e => exact hp
  | ask r next ih => exact fun x hx => ih x (hp x hx)

/-- First a part with a contract of its own. -/
theorem after (hp : Ends C note Q E' k p) (hf : ∀ k a, Q k a → Ends C note R E k (f a))
    (hE : ∀ k e, E' k e → E k e) : Ends C note R E k (p >>= f) :=
  (hp.mono hf hE).bind

theorem request {r : ρ} {Q : κ → A r → Prop} (hok : ∀ a, C r (.ok a) → Q (note k r (.ok a)) a)
    (herror : ∀ e, C r (.error e) → E (note k r (.error e)) e) :
    Ends C note Q E k (request r) := by
  intro x hx
  cases x with
  | ok a => exact hok a hx
  | error e => exact herror e hx

theorem catching {D : ε → Bool} {Q : κ → Option α → Prop}
    (hp : Ends C note (fun k a => Q k (some a))
      (fun k e => if D e = true then Q k none else E k e) k p) :
    Ends C note Q E k (catching D p) := by
  induction p generalizing k with
  | ok a => exact hp
  | error e =>
    unfold Interactive.catching
    by_cases hD : D e = true
    · simpa [Interactive.Ends, hD] using hp
    · simpa [Interactive.Ends, hD] using hp
  | ask r next ih => exact fun x hx => ih x (hp x hx)

theorem ignoring {D : ε → Bool} {Q : κ → Unit → Prop}
    (hp : Ends C note (fun k _ => Q k ()) (fun k e => if D e = true then Q k () else E k e) k p) :
    Ends C note Q E k (ignoring D p) :=
  (Ends.catching (Q := fun k _ => Q k ()) hp).bind

protected theorem tryCatch {h : ε → Interactive ρ A ε α}
    (hp : Ends C note Q (fun k e => Ends C note Q E k (h e)) k p) :
    Ends C note Q E k (tryCatch p h) := by
  induction p generalizing k with
  | ok a => exact hp
  | error e => exact hp
  | ask r next ih => exact fun x hx => ih x (hp x hx)

theorem ensuring {q : Interactive ρ A ε Unit}
    (hp : Ends C note (fun k a => Ends C note (fun k _ => Q k a) E k q)
      (fun k e => Ends C note (fun k _ => E k e) E k q) k p) :
    Ends C note Q E k (ensuring p q) := by
  induction p generalizing k with
  | ok a => exact Ends.bind (f := fun _ => Interactive.ok a) hp
  | error e => exact Ends.bind (f := fun _ => Interactive.error e) hp
  | ask r next ih => exact fun x hx => ih x (hp x hx)

/-- A part that asks only what is of no consequence. -/
theorem of_asks {T : ρ → Prop} (hp : p.Asks T) (hT : ∀ r, T r → ∀ x, note k r x = k) :
    Ends C note (fun k' _ => k' = k) (fun k' _ => k' = k) k p := by
  induction p with
  | ok a => rfl
  | error e => rfl
  | ask r next ih =>
    intro x _
    rw [hT r hp.1 x]
    exact ih x (hp.2 x)

/-- A loop goes through its elements; the first list of the invariant are those that it is
through with, the last one first, and the second those that are left. -/
theorem forM {I : List β → List β → κ → Prop} {g : β → Interactive ρ A ε Unit}
    (hg : ∀ done b rest k, I done (b :: rest) k →
      Ends C note (fun k _ => I (b :: done) rest k) E k (g b))
    {done l : List β} (h : I done l k) :
    Ends C note (fun k _ => I (l.reverse ++ done) [] k) E k (l.forM g) := by
  induction l generalizing done k with
  | nil => exact Ends.pure h
  | cons b l ih =>
    show Ends C note _ E k (g b >>= fun _ => l.forM g)
    refine (hg done b l k h).after (fun k _ hk => ?_) fun _ _ he => he
    simpa using ih hk

/-- The contract speaks of every dialogue of the program. -/
theorem comes {l : List (Exchange ρ A ε)} {y : Except ε α} (h : Ends C note Q E k p)
    (hp : p.Comes l y) (hl : ∀ x ∈ l, C x.request x.answer) :
    Closes Q E (heard note k l) y := by
  induction hp generalizing k with
  | ok a => exact h
  | error e => exact h
  | ask r next x l y hp ih =>
    exact ih (h x (hl ⟨r, x⟩ (by simp))) fun z hz => hl z (by simp [hz])

end Ends

end Interactive

end Effect
