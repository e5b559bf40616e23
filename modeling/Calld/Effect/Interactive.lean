/-
# Interactive programs and their interleavings

An `Interactive` program asks for one thing at a time, and goes on with the answer or with
the exception that the request has raised.  Whatever the answers are, it ends.

A `Service` is what is asked.  It has a state, and for every program that runs it keeps a
phase: what this program has learnt and done so far.  `Keeps` is the contract of a program
with the phases: it asks, in every phase, only what the service takes in it.

A `System` runs any number of programs against one service, one request of one of them at
a time.  As every program keeps to its phases, an invariant of the system is a fact about
the state of the service and the phases.
-/
import Calld.Effect.Machine

namespace Effect

/-- A program that asks requests `ρ`, which are answered by values of `A` or raise `ε`. -/
inductive Interactive (ρ : Type) (A : ρ → Type) (ε α : Type) : Type where
  | ok (a : α)
  | error (e : ε)
  | ask (r : ρ) (next : Except ε (A r) → Interactive ρ A ε α)

namespace Interactive

variable {ρ ε α β : Type} {A : ρ → Type}

/-! ## Programs -/

/-- Run the continuation on the result, unless the program has raised. -/
protected def bind : Interactive ρ A ε α → (α → Interactive ρ A ε β) → Interactive ρ A ε β
  | .ok a, f => f a
  | .error e, _ => .error e
  | .ask r next, f => .ask r fun x => (next x).bind f

instance : Monad (Interactive ρ A ε) where
  pure := .ok
  bind := Interactive.bind

/-- Run the handler on the exception. -/
protected def tryCatch :
    Interactive ρ A ε α → (ε → Interactive ρ A ε α) → Interactive ρ A ε α
  | .ok a, _ => .ok a
  | .error e, h => h e
  | .ask r next, h => .ask r fun x => (next x).tryCatch h

instance : MonadExceptOf ε (Interactive ρ A ε) where
  throw := .error
  tryCatch := Interactive.tryCatch

/-- Go on with the answer, or raise the exception. -/
def ofExcept : Except ε α → Interactive ρ A ε α
  | .ok a => .ok a
  | .error e => .error e

/-- Ask for one thing. -/
def request (r : ρ) : Interactive ρ A ε (A r) := .ask r ofExcept

/-- `try: p  except C: …`: the result, or `none` when an exception of `C` was raised. -/
def catching (C : ε → Bool) : Interactive ρ A ε α → Interactive ρ A ε (Option α)
  | .ok a => .ok (some a)
  | .error e => if C e then .ok none else .error e
  | .ask r next => .ask r fun x => (next x).catching C

/-- `try: p  except C: pass`. -/
def ignoring (C : ε → Bool) (p : Interactive ρ A ε α) : Interactive ρ A ε Unit := do
  let _ ← catching C p
  pure ()

/-- `try: p  finally: q`. -/
def ensuring : Interactive ρ A ε α → Interactive ρ A ε Unit → Interactive ρ A ε α
  | .ok a, q => q.bind fun _ => .ok a
  | .error e, q => q.bind fun _ => .error e
  | .ask r next, q => .ask r fun x => (next x).ensuring q

/-! ## One program alone -/

variable {σ : Type}

/-- Run a program whose requests are all answered from one state. -/
def exec (answer : σ → (r : ρ) → Except ε (A r) × σ) :
    Interactive ρ A ε α → σ → Except ε α × σ
  | .ok a, s => (.ok a, s)
  | .error e, s => (.error e, s)
  | .ask r next, s => exec answer (next (answer s r).1) (answer s r).2

variable {answer : σ → (r : ρ) → Except ε (A r) × σ}

@[simp] theorem exec_pure (a : α) (s : σ) :
    exec answer (pure a : Interactive ρ A ε α) s = (.ok a, s) := rfl

@[simp] theorem exec_throw (e : ε) (s : σ) :
    exec answer (throw e : Interactive ρ A ε α) s = (.error e, s) := rfl

@[simp] theorem exec_request (r : ρ) (s : σ) :
    exec answer (request r : Interactive ρ A ε (A r)) s = answer s r := by
  unfold request exec
  rcases answer s r with ⟨e | a, s'⟩ <;> rfl

theorem exec_bind (p : Interactive ρ A ε α) (f : α → Interactive ρ A ε β) (s : σ) :
    exec answer (p >>= f) s =
      match exec answer p s with
      | (.ok a, s') => exec answer (f a) s'
      | (.error e, s') => (.error e, s') := by
  induction p generalizing s with
  | ok a => rfl
  | error e => rfl
  | ask r next ih => exact ih (answer s r).1 (answer s r).2

theorem exec_tryCatch (p : Interactive ρ A ε α) (h : ε → Interactive ρ A ε α) (s : σ) :
    exec answer (tryCatch p h) s =
      match exec answer p s with
      | (.ok a, s') => (.ok a, s')
      | (.error e, s') => exec answer (h e) s' := by
  induction p generalizing s with
  | ok a => rfl
  | error e => rfl
  | ask r next ih => exact ih (answer s r).1 (answer s r).2

theorem exec_catching (C : ε → Bool) (p : Interactive ρ A ε α) (s : σ) :
    exec answer (catching C p) s =
      match exec answer p s with
      | (.ok a, s') => (.ok (some a), s')
      | (.error e, s') => (if C e then .ok none else .error e, s') := by
  induction p generalizing s with
  | ok a => rfl
  | error e =>
    unfold catching
    cases h : C e <;> simp [exec, h]
  | ask r next ih => exact ih (answer s r).1 (answer s r).2

theorem exec_ignoring (C : ε → Bool) (p : Interactive ρ A ε α) (s : σ) :
    exec answer (ignoring C p) s =
      match exec answer p s with
      | (.ok _, s') => (.ok (), s')
      | (.error e, s') => (if C e then .ok () else .error e, s') := by
  unfold ignoring
  rw [exec_bind, exec_catching]
  rcases exec answer p s with ⟨e | a, s'⟩
  · cases h : C e <;> simp [h]
  · rfl

theorem exec_ensuring (p : Interactive ρ A ε α) (q : Interactive ρ A ε Unit) (s : σ) :
    exec answer (ensuring p q) s =
      match exec answer q (exec answer p s).2 with
      | (.ok _, s') => ((exec answer p s).1, s')
      | (.error e, s') => (.error e, s') := by
  induction p generalizing s with
  | ok a =>
    refine Eq.trans (exec_bind q (fun _ => (.ok a : Interactive ρ A ε α)) s) ?_
    rcases hq : exec answer q s with ⟨e | u, s'⟩ <;> simp [exec, hq]
  | error e =>
    refine Eq.trans (exec_bind q (fun _ => (.error e : Interactive ρ A ε α)) s) ?_
    rcases hq : exec answer q s with ⟨e | u, s'⟩ <;> simp [exec, hq]
  | ask r next ih => exact ih (answer s r).1 (answer s r).2

end Interactive

/-! ## Services -/

/-- What programs ask: `takes` are the requests that it takes in a phase, and `answer` is
what it answers to the program of a number, what it does and the phase it leads to; the
answer depends on the outside, `η`, and `none` is an answer that cannot be given now. -/
structure Service (ρ : Type) (A : ρ → Type) (ε ω κ η : Type) where
  takes : κ → ρ → Prop
  answer : η → ℕ → ω → κ → (r : ρ) → Option (Except ε (A r) × ω × κ)

namespace Service

variable {ρ ε ω κ η α β : Type} {A : ρ → Type} (S : Service ρ A ε ω κ η)

/-- From the phase on, the program asks only what the service takes, returns in a phase of
`Q` and raises in a phase of `E`. -/
def Keeps (Q : κ → α → Prop) (E : κ → ε → Prop) : κ → Interactive ρ A ε α → Prop
  | k, .ok a => Q k a
  | k, .error e => E k e
  | k, .ask r next =>
    S.takes k r ∧ ∀ x i w, ∀ y ∈ S.answer x i w k r, Keeps Q E y.2.2 (next y.1)

variable {S} {Q Q' : κ → α → Prop} {R : κ → β → Prop} {E E' : κ → ε → Prop} {k : κ}
  {p : Interactive ρ A ε α} {f : α → Interactive ρ A ε β}

open Interactive

namespace Keeps

protected theorem pure {a : α} (h : Q k a) : S.Keeps Q E k (pure a) := h

protected theorem throw {e : ε} (h : E k e) : S.Keeps Q E k (throw e) := h

theorem mono (h : S.Keeps Q E k p) (hQ : ∀ k a, Q k a → Q' k a)
    (hE : ∀ k e, E k e → E' k e) : S.Keeps Q' E' k p := by
  induction p generalizing k with
  | ok a => exact hQ k a h
  | error e => exact hE k e h
  | ask r next ih => exact ⟨h.1, fun x i w y hy => ih _ (h.2 x i w y hy)⟩

protected theorem bind (hp : S.Keeps (fun k a => S.Keeps R E k (f a)) E k p) :
    S.Keeps R E k (p >>= f) := by
  induction p generalizing k with
  | ok a => exact hp
  | error e => exact hp
  | ask r next ih => exact ⟨hp.1, fun x i w y hy => ih _ (hp.2 x i w y hy)⟩

/-- First a part with a contract of its own. -/
theorem after (hp : S.Keeps Q E' k p) (hf : ∀ k a, Q k a → S.Keeps R E k (f a))
    (hE : ∀ k e, E' k e → E k e) : S.Keeps R E k (p >>= f) :=
  (hp.mono hf hE).bind

theorem request {r : ρ} {Q : κ → A r → Prop} (ht : S.takes k r)
    (h : ∀ x i w, ∀ y ∈ S.answer x i w k r, match y.1 with
      | .ok a => Q y.2.2 a
      | .error e => E y.2.2 e) : S.Keeps Q E k (request r) := by
  refine ⟨ht, fun x i w y hy => ?_⟩
  have := h x i w y hy
  rcases hr : y.1 with e | a <;> rw [hr] at this <;> exact this

theorem catching {C : ε → Bool} {Q : κ → Option α → Prop}
    (hp : S.Keeps (fun k a => Q k (some a))
      (fun k e => if C e = true then Q k none else E k e) k p) :
    S.Keeps Q E k (catching C p) := by
  induction p generalizing k with
  | ok a => exact hp
  | error e =>
    unfold Interactive.catching
    by_cases hC : C e = true
    · simpa [Service.Keeps, hC] using hp
    · simpa [Service.Keeps, hC] using hp
  | ask r next ih => exact ⟨hp.1, fun x i w y hy => ih _ (hp.2 x i w y hy)⟩

theorem ignoring {C : ε → Bool} {Q : κ → Unit → Prop}
    (hp : S.Keeps (fun k _ => Q k ()) (fun k e => if C e = true then Q k () else E k e) k p) :
    S.Keeps Q E k (ignoring C p) :=
  (Keeps.catching (Q := fun k _ => Q k ()) hp).bind

theorem ensuring {q : Interactive ρ A ε Unit}
    (hp : S.Keeps (fun k a => S.Keeps (fun k _ => Q k a) E k q)
      (fun k e => S.Keeps (fun k _ => E k e) E k q) k p) :
    S.Keeps Q E k (ensuring p q) := by
  induction p generalizing k with
  | ok a => exact Keeps.bind (f := fun _ => Interactive.ok a) hp
  | error e => exact Keeps.bind (f := fun _ => Interactive.error e) hp
  | ask r next ih => exact ⟨hp.1, fun x i w y hy => ih _ (hp.2 x i w y hy)⟩

protected theorem tryCatch {h : ε → Interactive ρ A ε α}
    (hp : S.Keeps Q (fun k e => S.Keeps Q E k (h e)) k p) : S.Keeps Q E k (tryCatch p h) := by
  induction p generalizing k with
  | ok a => exact hp
  | error e => exact hp
  | ask r next ih => exact ⟨hp.1, fun x i w y hy => ih _ (hp.2 x i w y hy)⟩

end Keeps

end Service

/-! ## Parts that stay in their phase -/

namespace Interactive

variable {ρ ε α β : Type} {A : ρ → Type}

/-- Whatever the answers are, the program asks only requests of `T`. -/
def Asks (T : ρ → Prop) : Interactive ρ A ε α → Prop
  | .ok _ => True
  | .error _ => True
  | .ask r next => T r ∧ ∀ x, (next x).Asks T

namespace Asks

variable {T : ρ → Prop} {p : Interactive ρ A ε α} {f : α → Interactive ρ A ε β}

theorem mono {T' : ρ → Prop} (hT : ∀ r, T r → T' r) (h : p.Asks T) : p.Asks T' := by
  induction p with
  | ok a => trivial
  | error e => trivial
  | ask r next ih => exact ⟨hT r h.1, fun x => ih x (h.2 x)⟩

protected theorem pure (a : α) : (pure a : Interactive ρ A ε α).Asks T := trivial

protected theorem throw (e : ε) : (throw e : Interactive ρ A ε α).Asks T := trivial

protected theorem bind (hp : p.Asks T) (hf : ∀ a, (f a).Asks T) : (p >>= f).Asks T := by
  induction p with
  | ok a => exact hf a
  | error e => trivial
  | ask r next ih => exact ⟨hp.1, fun x => ih x (hp.2 x)⟩

theorem request {r : ρ} (h : T r) : (request r : Interactive ρ A ε (A r)).Asks T := by
  refine ⟨h, fun x => ?_⟩
  rcases x with e | a <;> trivial

theorem catching {C : ε → Bool} (hp : p.Asks T) : (catching C p).Asks T := by
  induction p with
  | ok a => trivial
  | error e =>
    unfold Interactive.catching
    split <;> trivial
  | ask r next ih => exact ⟨hp.1, fun x => ih x (hp.2 x)⟩

theorem ignoring {C : ε → Bool} (hp : p.Asks T) : (ignoring C p).Asks T :=
  hp.catching.bind fun _ => trivial

protected theorem tryCatch {h : ε → Interactive ρ A ε α} (hp : p.Asks T)
    (hh : ∀ e, (h e).Asks T) : (tryCatch p h : Interactive ρ A ε α).Asks T := by
  induction p with
  | ok a => trivial
  | error e => exact hh e
  | ask r next ih => exact ⟨hp.1, fun x => ih x (hp.2 x)⟩

theorem forM {l : List α} {g : α → Interactive ρ A ε Unit} (h : ∀ a ∈ l, (g a).Asks T) :
    (l.forM g).Asks T := by
  induction l with
  | nil => trivial
  | cons a l ih =>
    show (g a >>= fun _ => l.forM g).Asks T
    exact (h a (by simp)).bind fun _ => ih fun b hb => h b (by simp [hb])

theorem ensuring {q : Interactive ρ A ε Unit} (hp : p.Asks T) (hq : q.Asks T) :
    (ensuring p q).Asks T := by
  induction p with
  | ok a => exact hq.bind (f := fun _ => Interactive.ok a) fun _ => trivial
  | error e => exact hq.bind (f := fun _ => Interactive.error e) fun _ => trivial
  | ask r next ih => exact ⟨hp.1, fun x => ih x (hp.2 x)⟩

/-- A part that asks only what the service takes and answers in the same phase. -/
theorem keeps {ω κ η : Type} {S : Service ρ A ε ω κ η} {k : κ} (hp : p.Asks T)
    (ht : ∀ r, T r → S.takes k r)
    (hk : ∀ r, T r → ∀ x i w, ∀ y ∈ S.answer x i w k r, y.2.2 = k) :
    S.Keeps (fun k' _ => k' = k) (fun k' _ => k' = k) k p := by
  induction p with
  | ok a => rfl
  | error e => rfl
  | ask r next ih =>
    refine ⟨ht r hp.1, fun x i w y hy => ?_⟩
    rw [hk r hp.1 x i w y hy]
    exact ih _ (hp.2 _)

end Asks

end Interactive

/-! ## Systems -/

/-- A service with what starts the programs, `launch`, and what else happens, `outside`. -/
structure System (ρ : Type) (A : ρ → Type) (ε α ω κ η ι ο : Type) extends
    Service ρ A ε ω κ η where
  init : ω → Prop
  launch : ι → ω → Option (ω × κ × Interactive ρ A ε α)
  outside : ο → ω → Option ω

/-- The state of the service, and the programs under way: phase, and what is still to run. -/
structure Pool (ρ : Type) (A : ρ → Type) (ε α ω κ : Type) where
  world : ω
  tasks : ℕ → Option (κ × Interactive ρ A ε α)

/-- The phases of the programs. -/
def Pool.phases {ρ ε α ω κ : Type} {A : ρ → Type} (s : Pool ρ A ε α ω κ) (i : ℕ) : Option κ :=
  (s.tasks i).map (·.1)

/-- What a program asks, unless it has ended. -/
def Pool.asked {ρ ε α ω κ : Type} {A : ρ → Type} (s : Pool ρ A ε α ω κ) (i : ℕ) : Option ρ :=
  (s.tasks i).bind fun
    | (_, .ask r _) => some r
    | _ => none

namespace System

variable {ρ ε α ω κ η ι ο : Type} {A : ρ → Type}

/-- What happens next: a program starts under a new number, a program is answered, or
something else happens. -/
inductive Label (η ι ο : Type) where
  | start (i : ℕ) (job : ι)
  | answer (i : ℕ) (x : η)
  | outside (e : ο)

variable (S : System ρ A ε α ω κ η ι ο)

/-- One step. -/
def step : Label η ι ο → Pool ρ A ε α ω κ → Option (Pool ρ A ε α ω κ)
  | .start i job, s =>
    match s.tasks i with
    | some _ => none
    | none => (S.launch job s.world).map fun (w, k, p) =>
        ⟨w, Function.update s.tasks i (some (k, p))⟩
  | .answer i x, s =>
    match s.tasks i with
    | some (k, .ask r next) => (S.answer x i s.world k r).map fun (a, w, k') =>
        ⟨w, Function.update s.tasks i (some (k', next a))⟩
    | _ => none
  | .outside e, s => (S.outside e s.world).map fun w => { s with world := w }

/-- The system, from a state of the service with no program. -/
def machine : Machine (Pool ρ A ε α ω κ) (Label η ι ο) where
  init s := S.init s.world ∧ ∀ i, s.tasks i = none
  step := S.step

/-- A condition on the answers that are given: on the state of the service, the phases, the
number of the program, the answer and the request. -/
def Answers (C : ω → (ℕ → Option κ) → ℕ → η → ρ → Prop) (s : Pool ρ A ε α ω κ) :
    Label η ι ο → Prop
  | .answer i x => ∀ r ∈ s.asked i, C s.world s.phases i x r
  | _ => True

instance decidableAnswers {C : ω → (ℕ → Option κ) → ℕ → η → ρ → Prop}
    [∀ w ph i x r, Decidable (C w ph i x r)] (s : Pool ρ A ε α ω κ) :
    ∀ a : Label η ι ο, Decidable (Answers C s a)
  | .start .. => isTrue trivial
  | .outside _ => isTrue trivial
  | .answer i x => inferInstanceAs (Decidable (∀ r ∈ s.asked i, C s.world s.phases i x r))

variable {S} {s s' : Pool ρ A ε α ω κ} {a : Label η ι ο}
  {C : ω → (ℕ → Option κ) → ℕ → η → ρ → Prop}

/-- What a step is. -/
theorem step_cases (h : S.machine.step a s = some s') :
    (∃ i job w k p, a = .start i job ∧ s.tasks i = none ∧
      S.launch job s.world = some (w, k, p) ∧
        s' = ⟨w, Function.update s.tasks i (some (k, p))⟩) ∨
    (∃ i x k r next y, a = .answer i x ∧ s.tasks i = some (k, .ask r next) ∧
      S.answer x i s.world k r = some y ∧
        s' = ⟨y.2.1, Function.update s.tasks i (some (y.2.2, next y.1))⟩) ∨
    (∃ e w, a = .outside e ∧ S.outside e s.world = some w ∧ s' = { s with world := w }) := by
  cases a with
  | start i job =>
    cases ht : s.tasks i with
    | some t => simp [machine, step, ht] at h
    | none =>
      simp only [machine, step, ht, Option.map_eq_some_iff] at h
      obtain ⟨⟨w, k, p⟩, hlaunch, hs⟩ := h
      exact .inl ⟨i, job, w, k, p, rfl, ht, hlaunch, hs.symm⟩
  | answer i x =>
    cases ht : s.tasks i with
    | none => simp [machine, step, ht] at h
    | some t =>
      obtain ⟨k, p⟩ := t
      cases p with
      | ok a => simp [machine, step, ht] at h
      | error e => simp [machine, step, ht] at h
      | ask r next =>
        simp only [machine, step, ht, Option.map_eq_some_iff] at h
        obtain ⟨y, hanswer, hs⟩ := h
        exact .inr (.inl ⟨i, x, k, r, next, y, rfl, ht, hanswer, hs.symm⟩)
  | outside e =>
    simp only [machine, step, Option.map_eq_some_iff] at h
    obtain ⟨w, hw, hs⟩ := h
    exact .inr (.inr ⟨e, w, rfl, hw, hs.symm⟩)

/-- A program starts. -/
theorem step_start {i : ℕ} {job : ι} {w : ω} {k : κ} {p : Interactive ρ A ε α}
    (hi : s.tasks i = none) (hl : S.launch job s.world = some (w, k, p)) :
    S.machine.step (.start i job) s = some ⟨w, Function.update s.tasks i (some (k, p))⟩ := by
  simp [machine, step, hi, hl]

/-- A program is answered. -/
theorem step_answer {i : ℕ} {x : η} {k : κ} {r : ρ} {next : Except ε (A r) → Interactive ρ A ε α}
    {y : Except ε (A r) × ω × κ} (ht : s.tasks i = some (k, .ask r next))
    (ha : S.answer x i s.world k r = some y) :
    S.machine.step (.answer i x) s =
      some ⟨y.2.1, Function.update s.tasks i (some (y.2.2, next y.1))⟩ := by
  simp [machine, step, ht, ha]

/-- Of the answers of all runs nothing is asked. -/
theorem reaches_of_reachable (h : S.machine.Reachable s) :
    S.machine.Reaches (Answers fun _ _ _ _ _ => True) s := by
  refine h.mono fun s a _ => ?_
  cases a with
  | answer i x => exact fun _ _ => trivial
  | start => trivial
  | outside => trivial

/-- Where one entry has been replaced. -/
theorem update_cases {τ : Type} {f : ℕ → Option τ} {i j : ℕ} {t t' : τ}
    (h : Function.update f i (some t) j = some t') : j = i ∧ t' = t ∨ j ≠ i ∧ f j = some t' := by
  by_cases hj : j = i
  · subst hj
    rw [Function.update_self] at h
    exact .inl ⟨rfl, (Option.some.inj h).symm⟩
  · rw [Function.update_of_ne hj] at h
    exact .inr ⟨hj, h⟩

/-- What holds of all entries still does when it holds of the one that replaces another. -/
theorem forall_update {τ : Type} {P : τ → Prop} {f : ℕ → Option τ} {i : ℕ} {t : τ}
    (h : ∀ j u, f j = some u → P u) (ht : P t) :
    ∀ j u, Function.update f i (some t) j = some u → P u := by
  intro j u hj
  obtain ⟨-, rfl⟩ | ⟨-, hold⟩ := update_cases hj
  · exact ht
  · exact h j u hold

/-- The phases after the program of a number has moved. -/
theorem phases_update {i : ℕ} {w : ω} {k : κ} {p : Interactive ρ A ε α} :
    (⟨w, Function.update s.tasks i (some (k, p))⟩ : Pool ρ A ε α ω κ).phases =
      Function.update s.phases i (some k) := by
  funext j
  unfold Pool.phases
  by_cases hj : j = i
  · subst hj
    simp
  · simp [Function.update_of_ne hj]

/-- Every program of the system keeps to its phases, when those that start do. -/
theorem keeps_of_reaches {D : Pool ρ A ε α ω κ → Label η ι ο → Prop} {Q : κ → α → Prop}
    {E : κ → ε → Prop}
    (hlaunch : ∀ job w w' k p, S.launch job w = some (w', k, p) → S.Keeps Q E k p)
    (h : S.machine.Reaches D s) :
    ∀ i k p, s.tasks i = some (k, p) → S.Keeps Q E k p := by
  refine h.invariant (I := fun s => ∀ i k p, s.tasks i = some (k, p) → S.Keeps Q E k p)
    (fun s hs i k p ht => ?_) fun s a s' ih _ hstep => ?_
  · rw [hs.2 i] at ht
    cases ht
  · obtain ⟨i, job, w, k, p, -, -, hl, rfl⟩ | ⟨i, x, k, r, next, y, -, ht, ha, rfl⟩ |
      ⟨e, w, -, -, rfl⟩ := step_cases hstep
    · intro j k' p' hj
      obtain ⟨-, hnew⟩ | ⟨-, hold⟩ := update_cases hj
      · cases hnew
        exact hlaunch job _ _ _ _ hl
      · exact ih j k' p' hold
    · intro j k' p' hj
      obtain ⟨-, hnew⟩ | ⟨-, hold⟩ := update_cases hj
      · cases hnew
        exact (ih _ _ _ ht).2 x _ _ y ha
      · exact ih j k' p' hold
    · exact ih

/-- There are numbers left for programs that start. -/
theorem exists_idle {D : Pool ρ A ε α ω κ → Label η ι ο → Prop} (h : S.machine.Reaches D s) :
    ∃ i, s.tasks i = none := by
  have hbound : ∃ n, ∀ i, n ≤ i → s.tasks i = none := by
    refine h.invariant (I := fun s => ∃ n, ∀ i, n ≤ i → s.tasks i = none)
      (fun s hs => ?_) fun s a s' ⟨n, hn⟩ _ hstep => ?_
    · exact ⟨0, fun i _ => hs.2 i⟩
    obtain ⟨i, job, w, k, p, -, -, -, rfl⟩ | ⟨i, x, k, r, next, y, -, ht, -, rfl⟩ |
      ⟨e, w, -, -, rfl⟩ := step_cases hstep
    · refine ⟨max n (i + 1), fun j hj => ?_⟩
      have hji : j ≠ i := by omega
      exact (Function.update_of_ne hji _ _).trans (hn j (by omega))
    · refine ⟨max n (i + 1), fun j hj => ?_⟩
      have hji : j ≠ i := by omega
      exact (Function.update_of_ne hji _ _).trans (hn j (by omega))
    · exact ⟨n, hn⟩
  obtain ⟨n, hn⟩ := hbound
  exact ⟨n, hn n le_rfl⟩

/-- A program that is not started is not there. -/
theorem idle_run {as : List (Label η ι ο)} {i : ℕ} (hi : s.tasks i = none)
    (has : ∀ a ∈ as, ∀ job, a ≠ .start i job) (h : S.machine.run as s = some s') :
    s'.tasks i = none := by
  induction as generalizing s with
  | nil =>
    cases h
    exact hi
  | cons a as ih =>
    obtain ⟨t, ht, hrun⟩ := Option.bind_eq_some_iff.mp h
    refine ih ?_ (fun b hb => has b (by simp [hb])) hrun
    obtain ⟨j, job, w, k, p, rfl, -, -, rfl⟩ | ⟨j, x, k, r, next, y, -, htask, -, rfl⟩ |
      ⟨e, w, -, -, rfl⟩ := step_cases ht
    · have hji : i ≠ j := fun e => has (.start j job) (by simp) job (by rw [e])
      exact (Function.update_of_ne hji _ _).trans hi
    · have hji : i ≠ j := fun e => by rw [← e, hi] at htask; cases htask
      exact (Function.update_of_ne hji _ _).trans hi
    · exact hi

/-- Run rule: an invariant of the state of the service and the phases. -/
theorem invariant_phases {Q : κ → α → Prop} {E : κ → ε → Prop}
    {I : ω → (ℕ → Option κ) → Prop}
    (hlaunch : ∀ job w w' k p, S.launch job w = some (w', k, p) → S.Keeps Q E k p)
    (hinit : ∀ w, S.init w → I w fun _ => none)
    (hstart : ∀ w ph i job w' k p, I w ph → ph i = none → S.launch job w = some (w', k, p) →
      I w' (Function.update ph i (some k)))
    (hanswer : ∀ w ph i x k r y, I w ph → ph i = some k → S.takes k r → C w ph i x r →
      S.answer x i w k r = some y → I y.2.1 (Function.update ph i (some y.2.2)))
    (houtside : ∀ w ph e w', I w ph → S.outside e w = some w' → I w' ph)
    (h : S.machine.Reaches (Answers C) s) : I s.world s.phases := by
  refine h.invariant_along (I := fun s => I s.world s.phases) (fun s hs => ?_)
    fun s a s' hr ih hC hstep => ?_
  · have hphases : s.phases = fun _ => none := by
      funext i
      simp [Pool.phases, hs.2 i]
    rw [hphases]
    exact hinit _ hs.1
  · obtain ⟨i, job, w, k, p, -, ht, hl, rfl⟩ | ⟨i, x, k, r, next, y, rfl, ht, ha, rfl⟩ |
      ⟨e, w, -, hw, rfl⟩ := step_cases hstep
    · rw [phases_update]
      exact hstart _ _ i job _ _ _ ih (by simp [Pool.phases, ht]) hl
    · rw [phases_update]
      have htakes : S.takes k r := (keeps_of_reaches hlaunch hr i k _ ht).1
      refine hanswer _ _ i x k r y ih (by simp [Pool.phases, ht]) htakes ?_ ha
      exact hC r (by simp [Pool.asked, ht])
    · exact houtside _ _ e w ih hw

end System

end Effect
