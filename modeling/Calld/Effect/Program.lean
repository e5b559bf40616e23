/-
# Programs with an environment, a state and exceptions

A program reads an environment, changes a state and either returns or raises.  The
state it has reached is kept when it raises, as in an imperative language: undoing
the work done before an exception is up to the program.

`catching`, `ignoring`, `onRaise` and `ensuring` are the four ways in which an
imperative program deals with an exception: branch on it, swallow it, do something
and raise it again, and run a clean-up on both ways out.
-/
import Mathlib

namespace Effect

/-- A program over an environment `ρ` and a state `σ` that raises exceptions `ε`. -/
def Program (ρ σ ε α : Type) : Type := ρ → σ → Except ε α × σ

namespace Program

variable {ρ σ ε α β : Type}

/-- Run the continuation on the result, unless the program has raised. -/
protected def bind (p : Program ρ σ ε α) (f : α → Program ρ σ ε β) : Program ρ σ ε β :=
  fun env s =>
    match p env s with
    | (.ok a, s') => f a env s'
    | (.error e, s') => (.error e, s')

instance : Monad (Program ρ σ ε) where
  pure a := fun _ s => (.ok a, s)
  bind := Program.bind

/-- Run the handler on the exception, in the state in which it was raised. -/
protected def tryCatch (p : Program ρ σ ε α) (h : ε → Program ρ σ ε α) : Program ρ σ ε α :=
  fun env s =>
    match p env s with
    | (.ok a, s') => (.ok a, s')
    | (.error e, s') => h e env s'

instance : MonadExceptOf ε (Program ρ σ ε) where
  throw e := fun _ s => (.error e, s)
  tryCatch := Program.tryCatch

/-! ## Evaluation -/

@[simp] theorem pure_apply (a : α) (env : ρ) (s : σ) :
    (pure a : Program ρ σ ε α) env s = (.ok a, s) := rfl

@[simp] theorem throw_apply (e : ε) (env : ρ) (s : σ) :
    (throw e : Program ρ σ ε α) env s = (.error e, s) := rfl

theorem bind_apply (p : Program ρ σ ε α) (f : α → Program ρ σ ε β) (env : ρ) (s : σ) :
    (p >>= f) env s =
      match p env s with
      | (.ok a, s') => f a env s'
      | (.error e, s') => (.error e, s') := rfl

@[simp] theorem throw_bind_apply (e : ε) (f : α → Program ρ σ ε β) (env : ρ) (s : σ) :
    ((throw e : Program ρ σ ε α) >>= f) env s = (.error e, s) := rfl

theorem tryCatch_apply (p : Program ρ σ ε α) (h : ε → Program ρ σ ε α) (env : ρ) (s : σ) :
    (tryCatch p h : Program ρ σ ε α) env s =
      match p env s with
      | (.ok a, s') => (.ok a, s')
      | (.error e, s') => h e env s' := rfl

theorem bind_of_ok {p : Program ρ σ ε α} {env : ρ} {s s' : σ} {a : α}
    (h : p env s = (.ok a, s')) (f : α → Program ρ σ ε β) :
    (p >>= f) env s = f a env s' := by
  rw [bind_apply, h]

theorem bind_of_error {p : Program ρ σ ε α} {env : ρ} {s s' : σ} {e : ε}
    (h : p env s = (.error e, s')) (f : α → Program ρ σ ε β) :
    (p >>= f) env s = (.error e, s') := by
  rw [bind_apply, h]

/-- Mapping the identity changes nothing. -/
theorem id_map_apply (p : Program ρ σ ε α) : id <$> p = p := by
  funext env s
  show (match p env s with
    | (.ok a, s') => ((.ok a, s') : Except ε α × σ)
    | (.error e, s') => (.error e, s')) = p env s
  rcases p env s with ⟨_ | _, _⟩ <;> rfl

/-- Sequencing is associative: an exception skips both continuations. -/
theorem bind_assoc_apply (p : Program ρ σ ε α) (f : α → Program ρ σ ε β)
    (g : β → Program ρ σ ε γ) : p >>= f >>= g = p >>= fun a => f a >>= g := by
  funext env s
  simp only [bind_apply]
  rcases p env s with ⟨_ | _, _⟩ <;> rfl

instance : LawfulMonad (Program ρ σ ε) :=
  LawfulMonad.mk' _ id_map_apply (fun _ _ => rfl) bind_assoc_apply

/-! ## Ways out -/

/-- `try: p  except C: …`: the result, or `none` when an exception of `C` was raised. -/
def catching (C : ε → Bool) (p : Program ρ σ ε α) : Program ρ σ ε (Option α) := fun env s =>
  match p env s with
  | (.ok a, s') => (.ok (some a), s')
  | (.error e, s') => if C e then (.ok none, s') else (.error e, s')

/-- `try: p  except C: pass`. -/
def ignoring (C : ε → Bool) (p : Program ρ σ ε α) : Program ρ σ ε Unit := do
  let _ ← catching C p
  pure ()

/-- `try: p  except Exception: q; raise`. -/
def onRaise (p : Program ρ σ ε α) (q : Program ρ σ ε Unit) : Program ρ σ ε α :=
  tryCatch p fun e => do
    q
    throw e

/-- `try: p  finally: f`, for a clean-up that cannot fail. -/
def ensuring (p : Program ρ σ ε α) (f : σ → σ) : Program ρ σ ε α := fun env s =>
  match p env s with
  | (r, s') => (r, f s')

/-- Change the state. -/
def change (f : σ → σ) : Program ρ σ ε Unit := fun _ s => (.ok (), f s)

/-- Look at the state. -/
def look (f : σ → α) : Program ρ σ ε α := fun _ s => (.ok (f s), s)

/-- Look at the environment. -/
def ask (f : ρ → α) : Program ρ σ ε α := fun env s => (.ok (f env), s)

@[simp] theorem change_apply (f : σ → σ) (env : ρ) (s : σ) :
    (change f : Program ρ σ ε Unit) env s = (.ok (), f s) := rfl

@[simp] theorem look_apply (f : σ → α) (env : ρ) (s : σ) :
    (look f : Program ρ σ ε α) env s = (.ok (f s), s) := rfl

@[simp] theorem ask_apply (f : ρ → α) (env : ρ) (s : σ) :
    (ask f : Program ρ σ ε α) env s = (.ok (f env), s) := rfl

@[simp] theorem ensuring_apply (p : Program ρ σ ε α) (f : σ → σ) (env : ρ) (s : σ) :
    ensuring p f env s = ((p env s).1, f (p env s).2) := rfl

/-- Catching an exception leaves the state as it is. -/
@[simp] theorem catching_snd (C : ε → Bool) (p : Program ρ σ ε α) (env : ρ) (s : σ) :
    (catching C p env s).2 = (p env s).2 := by
  unfold catching
  rcases p env s with ⟨e | a, s'⟩
  · dsimp only
    split <;> rfl
  · rfl

@[simp] theorem ignoring_snd (C : ε → Bool) (p : Program ρ σ ε α) (env : ρ) (s : σ) :
    (ignoring C p env s).2 = (p env s).2 := by
  unfold ignoring
  rw [bind_apply, ← catching_snd C p]
  rcases catching C p env s with ⟨e | a, s'⟩ <;> rfl

end Program

end Effect
