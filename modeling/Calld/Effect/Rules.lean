/-
# Rules for programs: triples and frames

`Triple env P p Q E` is the contract of a program: started in a state of `P`, it
returns in a state of `Q` or raises in a state of `E`.

`Within env F E p` is what is known of the auxiliary calls of a program, whose result
does not matter: whatever they return or raise, the state changes only as the frame
`F` (a preorder) allows, and only exceptions of `E` come out.

`Gives env E p Φ` is what is known of a program whose effect does not matter: its result
satisfies `Φ`, and only exceptions of `E` come out.
-/
import Calld.Effect.Program

namespace Effect

open Program

variable {ρ σ ε α β : Type} {env : ρ}

/-! ## Triples -/

/-- Started in `P`, the program returns in `Q` or raises in `E`. -/
def Triple (env : ρ) (P : σ → Prop) (p : Program ρ σ ε α) (Q : α → σ → Prop)
    (E : ε → σ → Prop) : Prop :=
  ∀ s, P s → match p env s with
    | (.ok a, s') => Q a s'
    | (.error e, s') => E e s'

namespace Triple

variable {P P' : σ → Prop} {Q Q' : α → σ → Prop} {R : β → σ → Prop} {E E' : ε → σ → Prop}
  {p : Program ρ σ ε α} {f : α → Program ρ σ ε β}

theorem ok (h : Triple env P p Q E) {s s' : σ} {a : α} (hs : P s)
    (hp : p env s = (.ok a, s')) : Q a s' := by
  have := h s hs
  rwa [hp] at this

theorem error (h : Triple env P p Q E) {s s' : σ} {e : ε} (hs : P s)
    (hp : p env s = (.error e, s')) : E e s' := by
  have := h s hs
  rwa [hp] at this

/-- To prove a triple, consider the two ways out. -/
theorem intro (hok : ∀ s a s', P s → p env s = (.ok a, s') → Q a s')
    (herr : ∀ s e s', P s → p env s = (.error e, s') → E e s') : Triple env P p Q E := by
  intro s hs
  rcases hp : p env s with ⟨e | a, s'⟩
  · exact herr s e s' hs hp
  · exact hok s a s' hs hp

protected theorem pure {a : α} (h : ∀ s, P s → Q a s) :
    Triple env P (pure a : Program ρ σ ε α) Q E := fun s hs => h s hs

protected theorem throw {e : ε} (h : ∀ s, P s → E e s) :
    Triple env P (throw e : Program ρ σ ε α) Q E := fun s hs => h s hs

protected theorem bind (hp : Triple env P p Q E) (hf : ∀ a, Triple env (Q a) (f a) R E) :
    Triple env P (p >>= f) R E := by
  intro s hs
  rw [bind_apply]
  rcases h : p env s with ⟨e | a, s'⟩
  · exact hp.error hs h
  · exact hf a s' (hp.ok hs h)

theorem weaken (h : Triple env P p Q E) (hP : ∀ s, P' s → P s) (hQ : ∀ a s, Q a s → Q' a s)
    (hE : ∀ e s, E e s → E' e s) : Triple env P' p Q' E' :=
  intro (fun _ a s' hs hp => hQ a s' (h.ok (hP _ hs) hp))
    (fun _ e s' hs hp => hE e s' (h.error (hP _ hs) hp))

theorem pre (h : Triple env P p Q E) (hP : ∀ s, P' s → P s) : Triple env P' p Q E :=
  h.weaken hP (fun _ _ => id) (fun _ _ => id)

/-- The contract of a program started in a known state. -/
theorem at_state {s : σ} (h : Triple env P p Q E) (hs : P s) :
    Triple env (fun s' => s' = s) p Q E :=
  h.pre fun _ h' => h' ▸ hs

/-- The outcome of a program started in a known state, from one of its contracts. -/
theorem run_state {s : σ} (h : Triple env P p Q E) (hs : P s) (hQ : ∀ a s', Q a s' → Q' a s')
    (hE : ∀ e s', E e s' → E' e s') : Triple env (fun s' => s' = s) p Q' E' :=
  (h.at_state hs).weaken (fun _ h => h) hQ hE

/-- Two contracts of one program. -/
protected theorem and {P₂ : σ → Prop} {Q₂ : α → σ → Prop} {E₂ : ε → σ → Prop}
    (h : Triple env P p Q E) (h₂ : Triple env P₂ p Q₂ E₂) :
    Triple env (fun s => P s ∧ P₂ s) p (fun a s => Q a s ∧ Q₂ a s) fun e s => E e s ∧ E₂ e s :=
  intro (fun _ _ _ hs hp => ⟨h.ok hs.1 hp, h₂.ok hs.2 hp⟩)
    (fun _ _ _ hs hp => ⟨h.error hs.1 hp, h₂.error hs.2 hp⟩)

/-- Nothing is asked. -/
theorem any (p : Program ρ σ ε α) : Triple env P p (fun _ _ => True) fun _ _ => True :=
  intro (fun _ _ _ _ _ => trivial) (fun _ _ _ _ _ => trivial)

/-- What holds on both ways out holds of the final state. -/
theorem final {R : σ → Prop} (h : Triple env P p (fun _ => R) fun _ => R) {s : σ} (hs : P s) :
    R (p env s).2 := by
  have := h s hs
  rcases hp : p env s with ⟨e | a, s'⟩ <;> rwa [hp] at this

/-- A fact in the precondition that does not depend on the state. -/
theorem of_fact {φ : Prop} (h : φ → Triple env P p Q E) :
    Triple env (fun s => P s ∧ φ) p Q E := fun s hs => h hs.2 s hs.1

theorem change {g : σ → σ} {Q : Unit → σ → Prop} (h : ∀ s, P s → Q () (g s)) :
    Triple env P (change g : Program ρ σ ε Unit) Q E := fun s hs => h s hs

theorem look {g : σ → α} (h : ∀ s, P s → Q (g s) s) :
    Triple env P (look g : Program ρ σ ε α) Q E := fun s hs => h s hs

theorem ask {g : ρ → α} (h : ∀ s, P s → Q (g env) s) :
    Triple env P (ask g : Program ρ σ ε α) Q E := fun s hs => h s hs

theorem catching {C : ε → Bool} {Q : Option α → σ → Prop}
    (hp : Triple env P p (fun a => Q (some a))
      fun e s => if C e = true then Q none s else E e s) :
    Triple env P (catching C p) Q E := by
  intro s hs
  unfold Program.catching
  rcases h : p env s with ⟨e | a, s'⟩
  · have := hp.error hs h
    by_cases hC : C e = true <;> simpa [hC] using this
  · exact hp.ok hs h

theorem onRaise {q : Program ρ σ ε Unit} (hp : Triple env P p Q E')
    (hq : ∀ e, Triple env (E' e) q (fun _ => E e) E) :
    Triple env P (onRaise p q) Q E := by
  intro s hs
  unfold Program.onRaise
  rw [tryCatch_apply]
  rcases h : p env s with ⟨e | a, s'⟩
  · exact (hq e).bind (fun _ => Triple.throw fun _ => id) s' (hp.error hs h)
  · exact hp.ok hs h

theorem ensuring {g : σ → σ} (hp : Triple env P p (fun a s => Q a (g s))
      fun e s => E e (g s)) :
    Triple env P (ensuring p g) Q E := by
  intro s hs
  rw [ensuring_apply]
  rcases h : p env s with ⟨e | a, s'⟩
  · exact hp.error hs h
  · exact hp.ok hs h

end Triple

/-! ## Frames -/

/-- What a program may do to the state: a preorder. -/
structure Frame (σ : Type) where
  rel : σ → σ → Prop
  refl : ∀ s, rel s s
  trans : ∀ {s₁ s₂ s₃}, rel s₁ s₂ → rel s₂ s₃ → rel s₁ s₃

/-- The program changes the state only as the frame allows, and raises only
exceptions of `E`. -/
def Within (env : ρ) (F : Frame σ) (E : ε → Prop) (p : Program ρ σ ε α) : Prop :=
  ∀ s, F.rel s (p env s).2 ∧ ∀ e, (p env s).1 = .error e → E e

namespace Within

variable {F : Frame σ} {E E' : ε → Prop} {p : Program ρ σ ε α} {f : α → Program ρ σ ε β}

theorem rel (h : Within env F E p) {s s' : σ} {r : Except ε α} (hp : p env s = (r, s')) :
    F.rel s s' := by
  have := (h s).1
  rwa [hp] at this

theorem raises (h : Within env F E p) {s s' : σ} {e : ε} (hp : p env s = (.error e, s')) :
    E e :=
  (h s).2 e (by rw [hp])

protected theorem pure (a : α) : Within env F E (pure a : Program ρ σ ε α) :=
  fun s => ⟨F.refl s, fun _ h => by simp at h⟩

protected theorem throw {e : ε} (h : E e) : Within env F E (throw e : Program ρ σ ε α) :=
  fun s => ⟨F.refl s, fun e' he => by
    simp only [throw_apply, Except.error.injEq] at he
    exact he ▸ h⟩

protected theorem bind (hp : Within env F E p) (hf : ∀ a, Within env F E (f a)) :
    Within env F E (p >>= f) := by
  intro s
  rw [bind_apply]
  rcases h : p env s with ⟨e | a, s'⟩
  · exact ⟨hp.rel h, fun e' he => by
      simp only [Except.error.injEq] at he
      exact he ▸ hp.raises h⟩
  · exact ⟨F.trans (hp.rel h) (hf a s').1, (hf a s').2⟩

theorem weaken (h : Within env F E p) (hE : ∀ e, E e → E' e) : Within env F E' p :=
  fun s => ⟨(h s).1, fun e he => hE e ((h s).2 e he)⟩

/-- A larger frame. -/
theorem widen {G : Frame σ} (h : Within env F E p) (hF : ∀ s s', F.rel s s' → G.rel s s') :
    Within env G E p :=
  fun s => ⟨hF _ _ (h s).1, (h s).2⟩

theorem change {g : σ → σ} (h : ∀ s, F.rel s (g s)) :
    Within env F E (change g : Program ρ σ ε Unit) :=
  fun s => ⟨h s, fun _ he => by simp at he⟩

theorem look (g : σ → α) : Within env F E (look g : Program ρ σ ε α) :=
  fun s => ⟨F.refl s, fun _ he => by simp at he⟩

theorem ask (g : ρ → α) : Within env F E (ask g : Program ρ σ ε α) :=
  fun s => ⟨F.refl s, fun _ he => by simp at he⟩

theorem catching {C : ε → Bool} (hp : Within env F E' p) (hE : ∀ e, E' e → C e = true ∨ E e) :
    Within env F E (catching C p) := by
  intro s
  unfold Program.catching
  rcases h : p env s with ⟨e | a, s'⟩
  · rcases hE e (hp.raises h) with hC | he
    · simpa [hC] using hp.rel h
    · by_cases hC : C e = true
      · simpa [hC] using hp.rel h
      · simpa [hC] using ⟨hp.rel h, he⟩
  · exact ⟨hp.rel h, fun _ he => by simp at he⟩

/-- Catching `C` leaves the other exceptions. -/
theorem catching_rest {C : ε → Bool} (hp : Within env F E p) :
    Within env F (fun e => E e ∧ C e = false) (Program.catching C p) :=
  hp.catching fun e he => by cases hC : C e <;> simp [he]

theorem ignoring {C : ε → Bool} (hp : Within env F E' p) (hE : ∀ e, E' e → C e = true ∨ E e) :
    Within env F E (ignoring C p) :=
  (hp.catching hE).bind fun _ => .pure ()

theorem ignoring_rest {C : ε → Bool} (hp : Within env F E p) :
    Within env F (fun e => E e ∧ C e = false) (Program.ignoring C p) :=
  hp.catching_rest.bind fun _ => .pure ()

protected theorem tryCatch {h : ε → Program ρ σ ε α} (hp : Within env F E' p)
    (hh : ∀ e, E' e → Within env F E (h e)) : Within env F E (tryCatch p h) := by
  intro s
  rw [tryCatch_apply]
  rcases hr : p env s with ⟨e | a, s'⟩
  · have := hh e (hp.raises hr) s'
    exact ⟨F.trans (hp.rel hr) this.1, this.2⟩
  · exact ⟨hp.rel hr, fun _ he => by simp at he⟩

/-- A program that raises nothing returns. -/
theorem returns (hp : Within env F (fun _ => False) p) (s : σ) :
    ∃ a s', p env s = (.ok a, s') ∧ F.rel s s' := by
  rcases hr : p env s with ⟨e | a, s'⟩
  · exact (hp.raises hr).elim
  · exact ⟨a, s', rfl, hp.rel hr⟩

theorem forM {l : List α} {g : α → Program ρ σ ε Unit} (h : ∀ a ∈ l, Within env F E (g a)) :
    Within env F E (l.forM g) := by
  induction l with
  | nil => exact .pure ()
  | cons a l ih =>
    show Within env F E (g a >>= fun _ => l.forM g)
    exact (h a (by simp)).bind fun _ => ih fun b hb => h b (by simp [hb])

/-- What the frame cannot break still holds after the program, on both ways out. -/
theorem triple {P : σ → Prop} (h : Within env F E p) (hP : ∀ s s', P s → F.rel s s' → P s') :
    Triple env P p (fun _ => P) fun e s => P s ∧ E e :=
  Triple.intro (fun _ _ _ hs hp => hP _ _ hs (h.rel hp))
    (fun _ _ _ hs hp => ⟨hP _ _ hs (h.rel hp), h.raises hp⟩)

end Within

/-! ## Results -/

/-- From every state the program returns a result of `Φ` or raises an exception of `E`. -/
def Gives (env : ρ) (E : ε → Prop) (p : Program ρ σ ε α) (Φ : α → Prop) : Prop :=
  Triple env (fun _ => True) p (fun a _ => Φ a) fun e _ => E e

namespace Gives

variable {E E' : ε → Prop} {Φ Φ' : α → Prop} {Ψ : β → Prop} {p : Program ρ σ ε α}
  {f : α → Program ρ σ ε β}

protected theorem pure {a : α} (h : Φ a) : Gives env E (pure a : Program ρ σ ε α) Φ :=
  Triple.pure fun _ _ => h

protected theorem throw {e : ε} (h : E e) : Gives env E (throw e : Program ρ σ ε α) Φ :=
  Triple.throw fun _ _ => h

theorem weaken (h : Gives env E p Φ) (hΦ : ∀ a, Φ a → Φ' a) (hE : ∀ e, E e → E' e) :
    Gives env E' p Φ' :=
  Triple.weaken h (fun _ h => h) (fun a _ => hΦ a) fun e _ => hE e

protected theorem bind (hp : Gives env E p Φ) (hf : ∀ a, Φ a → Gives env E (f a) Ψ) :
    Gives env E (p >>= f) Ψ :=
  Triple.bind hp fun a s h => hf a h s trivial

/-- What the frame of a call allows does not matter. -/
theorem of_within {F : Frame σ} (h : Within env F E p) : Gives env E p fun _ => True := by
  intro s _
  rcases hp : p env s with ⟨e | a, s'⟩
  · exact h.raises hp
  · trivial

/-- First a call whose result does not matter. -/
theorem after {F : Frame σ} (h : Within env F E p) (hf : ∀ a, Gives env E (f a) Ψ) :
    Gives env E (p >>= f) Ψ :=
  (of_within h).bind fun a _ => hf a

theorem catching {C : ε → Bool} (hp : Gives env E' p Φ) (hE : ∀ e, E' e → C e = true ∨ E e) :
    Gives env E (catching C p) fun r => ∀ a, r = some a → Φ a := by
  refine Triple.catching (Triple.weaken hp (fun _ h => h) (fun a _ h => ?_) fun e _ he => ?_)
  · intro b hb
    exact Option.some.inj hb ▸ h
  · rcases hE e he with hC | he
    · rw [if_pos hC]
      intro a ha
      cases ha
    · split
      · intro a ha
        cases ha
      · exact he

/-- From a state that is of no importance. -/
theorem triple {P : σ → Prop} (h : Gives env E p Φ) :
    Triple env P p (fun a _ => Φ a) fun e _ => E e :=
  Triple.pre h fun _ _ => trivial

end Gives

end Effect
