/-
# The lock of the transfer state machine

`StateFactory.make` and `make_from_class` guard the body of a transition by an `RLock`
and by the flag `state_machine_locked`, which the `transition` decorator checks.  Threads
run these `with` blocks one statement at a time: the lock is asked for with a timeout
whose outcome is not looked at, the flag is set, the body runs, and both are given back.

The lock and the flag do what they are for in the runs in which no wait for the lock
expires and no block is entered from within another one (`orderly_isLock`).
-/
import Calld.Effect.Machine
import Calld.Transfers.State

namespace Calld.Transfers

open Effect

/-! ## Reentrant locks -/

/-- A `threading.RLock`: free, or held by a thread, with the number of further times it
has been acquired. -/
abbrev RLock (τ : Type) := Option (τ × ℕ)

namespace RLock

variable {τ : Type} [DecidableEq τ]

/-- `acquire`, when it does not have to wait. -/
def acquire (i : τ) : RLock τ → Option (RLock τ)
  | none => some (some (i, 0))
  | some (j, n) => if j = i then some (some (j, n + 1)) else none

/-- `release`: a RuntimeError, here `none`, for a thread that does not hold the lock. -/
def release (i : τ) : RLock τ → Option (RLock τ)
  | some (j, n + 1) => if j = i then some (some (j, n)) else none
  | some (j, 0) => if j = i then some none else none
  | none => none

/-- The thread that holds the lock. -/
def owner : RLock τ → Option τ := Option.map Prod.fst

end RLock

/-! ## Threads -/

/-- Where a `with state_factory.make(…)` block stands. -/
inductive Block where
  /-- before `state_machine_lock.acquire(timeout=10)` -/
  | acquiring
  /-- before `state_machine_locked = True` -/
  | marking
  /-- in the body of the `try` -/
  | inside
  /-- before `state_machine_locked = False` -/
  | unmarking
  /-- before `state_machine_lock.release()` -/
  | releasing
  deriving DecidableEq, Repr

/-- The global state, and the blocks every thread is in, the innermost first. -/
structure LockState (τ : Type) where
  configured : Bool
  stateMachineLock : RLock τ
  stateMachineLocked : Bool
  blocks : τ → List Block

namespace LockState

variable {τ : Type} [DecidableEq τ]

/-- The lock is free, the flag is down and no thread is in a block. -/
def initial (τ : Type) : LockState τ where
  configured := false
  stateMachineLock := none
  stateMachineLocked := false
  blocks := fun _ => []

/-- Put a thread in other blocks. -/
def setBlocks (s : LockState τ) (i : τ) (bs : List Block) : LockState τ :=
  { s with blocks := Function.update s.blocks i bs }

end LockState

/-- What a thread does next.  A body is left by returning or by raising alike. -/
inductive LockAction where
  | setDependencies
  | enter
  | acquire
  | timeout
  | mark
  | leave
  | unmark
  | release
  deriving DecidableEq, Repr

open LockState in
/-- One statement of a thread.  A thread that waits for the lock takes no step. -/
def lockStep {τ : Type} [DecidableEq τ] (i : τ) (a : LockAction) (s : LockState τ) :
    Option (LockState τ) :=
  match a, s.blocks i with
  | .setDependencies, _ => some { s with configured := true }
  | .enter, bs =>
    -- a block is entered from no other one or from the body of another one
    if bs = [] ∨ bs.head? = some .inside then
      -- RuntimeError('StateFactory is not configured') leaves everything as it is
      if s.configured then some (s.setBlocks i (.acquiring :: bs)) else some s
    else none
  | .acquire, .acquiring :: bs =>
    (s.stateMachineLock.acquire i).map fun l =>
      { s.setBlocks i (.marking :: bs) with stateMachineLock := l }
  | .timeout, .acquiring :: bs =>
    -- `acquire` has returned False: the block goes on all the same
    if s.stateMachineLock.acquire i = none then some (s.setBlocks i (.marking :: bs)) else none
  | .mark, .marking :: bs =>
    some { s.setBlocks i (.inside :: bs) with stateMachineLocked := true }
  | .leave, .inside :: bs => some (s.setBlocks i (.unmarking :: bs))
  | .unmark, .unmarking :: bs =>
    some { s.setBlocks i (.releasing :: bs) with stateMachineLocked := false }
  | .release, .releasing :: bs =>
    match s.stateMachineLock.release i with
    | some l => some { s.setBlocks i bs with stateMachineLock := l }
    -- RuntimeError('cannot release un-acquired lock')
    | none => some (s.setBlocks i bs)
  | _, _ => none

/-- The threads of calld, one statement at a time. -/
def lockMachine (τ : Type) [DecidableEq τ] : Machine (LockState τ) (τ × LockAction) where
  init s := s = LockState.initial τ
  step a s := lockStep a.1 a.2 s

namespace LockState

variable {τ : Type} {s s' : LockState τ} {i j : τ}

/-! ## What the lock is for -/

/-- At most one thread is in a body, the flag is up for as long as one is, and a thread
that is about to release the lock holds it. -/
structure IsLock (s : LockState τ) : Prop where
  exclusive : ∀ i j, .inside ∈ s.blocks i → .inside ∈ s.blocks j → i = j
  flagged : ∀ i, .inside ∈ s.blocks i → s.stateMachineLocked = true
  owned : ∀ i, (s.blocks i).head? = some .releasing → s.stateMachineLock.owner = some i

/-- No wait for the lock expires, and no block is entered from within another one. -/
def Patient (s : LockState τ) (a : τ × LockAction) : Prop :=
  a.2 ≠ .timeout ∧ (a.2 = .enter → s.blocks a.1 = [])

instance [DecidableEq τ] (s : LockState τ) (a : τ × LockAction) : Decidable (s.Patient a) :=
  inferInstanceAs (Decidable (_ ∧ _))

/-! ## The invariant -/

/-- A thread is in one block at most, past `acquire` it holds the lock, once, and in the
body the flag is up. -/
def Fits (s : LockState τ) (i : τ) : Prop :=
  match s.blocks i with
  | [] | [.acquiring] => ∀ n, s.stateMachineLock ≠ some (i, n)
  | [.inside] => s.stateMachineLock = some (i, 0) ∧ s.stateMachineLocked = true
  | [_] => s.stateMachineLock = some (i, 0)
  | _ => False

/-- A thread whose blocks are as before fits when neither the lock nor the flag moves. -/
theorem Fits.congr (hb : s'.blocks j = s.blocks j)
    (hl : s'.stateMachineLock = s.stateMachineLock)
    (hf : s'.stateMachineLocked = s.stateMachineLocked) (h : s.Fits j) : s'.Fits j := by
  unfold Fits at h ⊢
  rw [hb, hl, hf]
  exact h

/-- While the lock is free or held by `i`, another thread is in no block or waits. -/
theorem Fits.outside (hj : j ≠ i) (hl : s.stateMachineLock = none ∨ s.stateMachineLock = some (i, 0))
    (h : s.Fits j) : s.blocks j = [] ∨ s.blocks j = [.acquiring] := by
  have free : s.stateMachineLock ≠ some (j, 0) := by
    intro e
    rcases hl with hl | hl <;> rw [hl] at e <;> cases e
    exact hj rfl
  unfold Fits at h
  split at h
  · exact .inl ‹_›
  · exact .inr ‹_›
  · exact absurd h.1 free
  · exact absurd h free
  · exact h.elim

/-- What `i` does with the lock and the flag, while the lock is free or its own, does not
concern another thread. -/
theorem Fits.other (hj : j ≠ i)
    (hl : s.stateMachineLock = none ∨ s.stateMachineLock = some (i, 0))
    (hl' : s'.stateMachineLock = none ∨ s'.stateMachineLock = some (i, 0))
    (hb : s'.blocks j = s.blocks j) (h : s.Fits j) : s'.Fits j := by
  have free : ∀ n, s'.stateMachineLock ≠ some (j, n) := by
    intro n e
    rcases hl' with hl' | hl' <;> rw [hl'] at e <;> cases e
    exact hj rfl
  unfold Fits
  rcases h.outside hj hl with h | h <;> rw [hb, h] <;> exact free

theorem Fits.one {b : Block} {bs : List Block} (h : s.Fits i) (hb : s.blocks i = b :: bs) :
    bs = [] := by
  unfold Fits at h
  rw [hb] at h
  split at h <;> simp_all

/-- A thread that does not wait holds the lock. -/
theorem Fits.holds {b : Block} {bs : List Block} (h : s.Fits i) (hb : s.blocks i = b :: bs)
    (hne : b ≠ .acquiring) : s.stateMachineLock = some (i, 0) := by
  cases h.one hb
  unfold Fits at h
  rw [hb] at h
  cases b with
  | acquiring => exact absurd rfl hne
  | inside => exact h.1
  | marking => exact h
  | unmarking => exact h
  | releasing => exact h

theorem fits_initial : (initial τ).Fits i := fun _ => nofun

/-- A thread in no block, or one that waits, fits when it does not hold the lock. -/
theorem fits_outside (hb : s.blocks i = [] ∨ s.blocks i = [.acquiring])
    (hl : ∀ n, s.stateMachineLock ≠ some (i, n)) : s.Fits i := by
  unfold Fits
  rcases hb with hb | hb <;> rw [hb] <;> exact hl

/-- Threads that fit are in bodies one at a time, under the flag, with the lock. -/
theorem isLock_of_fits (h : ∀ i, s.Fits i) : s.IsLock := by
  have inside : ∀ i, .inside ∈ s.blocks i →
      s.stateMachineLock = some (i, 0) ∧ s.stateMachineLocked = true := by
    intro i hi
    obtain ⟨bs, bs', hb⟩ := List.append_of_mem hi
    have hb' : s.blocks i = [.inside] := by
      cases bs with
      | nil =>
        rw [List.nil_append] at hb
        rw [hb, (h i).one hb]
      | cons b bs =>
        have := (h i).one (hb.trans (List.cons_append ..))
        simp at this
    have := h i
    unfold Fits at this
    rw [hb'] at this
    exact this
  constructor
  · intro i j hi hj
    have := (inside i hi).1.symm.trans (inside j hj).1
    simpa using this
  · exact fun i hi => (inside i hi).2
  · intro i hi
    obtain ⟨bs, hb⟩ := List.head?_eq_some_iff.mp hi
    rw [(h i).holds hb (by decide)]
    rfl

/-! ## One step, every run -/

variable [DecidableEq τ]

@[simp] theorem setBlocks_self (bs : List Block) : (s.setBlocks i bs).blocks i = bs :=
  Function.update_self ..

theorem setBlocks_of_ne (h : j ≠ i) (bs : List Block) :
    (s.setBlocks i bs).blocks j = s.blocks j :=
  Function.update_of_ne h ..

theorem acquire_of_not_held {l l' : RLock τ} (h : l.acquire i = some l')
    (hl : ∀ n, l ≠ some (i, n)) : l = none ∧ l' = some (i, 0) := by
  rcases l with _ | ⟨k, n⟩
  · cases h
    exact ⟨rfl, rfl⟩
  · by_cases hk : k = i
    · exact absurd (by rw [hk]) (hl n)
    · simp [RLock.acquire, hk] at h

theorem release_held : RLock.release i (some (i, 0)) = some none := if_pos rfl

/-- The lock is free or held once by `i`. -/
def FreeFor (s : LockState τ) (i : τ) : Prop :=
  s.stateMachineLock = none ∨ s.stateMachineLock = some (i, 0)

/-- What a step of a thread that fits can do: it moves its own blocks, and the lock and
the flag only while no other thread holds the lock; and the thread still fits. -/
theorem fits_step {a : LockAction} (h : s.Fits i) (hc : s.Patient (i, a))
    (hs : lockStep i a s = some s') :
    s'.Fits i ∧ (∀ j, j ≠ i → s'.blocks j = s.blocks j) ∧
      (s'.stateMachineLock = s.stateMachineLock ∧ s'.stateMachineLocked = s.stateMachineLocked ∨
        s.FreeFor i ∧ s'.FreeFor i) := by
  have others : ∀ bs, ∀ j, j ≠ i → (s.setBlocks i bs).blocks j = s.blocks j :=
    fun bs j hj => setBlocks_of_ne hj bs
  unfold lockStep at hs
  split at hs
  case h_1 =>
    cases hs
    exact ⟨h, fun _ _ => rfl, .inl ⟨rfl, rfl⟩⟩
  case h_2 bs _ =>
    have hb : s.blocks i = [] := hc.2 rfl
    have out : ∀ n, s.stateMachineLock ≠ some (i, n) := by
      unfold Fits at h
      rwa [hb] at h
    split at hs
    · split at hs <;> cases hs
      · exact ⟨fits_outside (.inr (by rw [setBlocks_self, hb])) out, others _, .inl ⟨rfl, rfl⟩⟩
      · exact ⟨h, fun _ _ => rfl, .inl ⟨rfl, rfl⟩⟩
    · cases hs
  case h_3 bs hb =>
    cases h.one hb
    have out : ∀ n, s.stateMachineLock ≠ some (i, n) := by
      unfold Fits at h
      rwa [hb] at h
    obtain ⟨l, hl, rfl⟩ := Option.map_eq_some_iff.mp hs
    obtain ⟨free, rfl⟩ := acquire_of_not_held hl out
    refine ⟨?_, others _, .inr ⟨.inl free, .inr rfl⟩⟩
    unfold Fits
    rw [show ({ s.setBlocks i [.marking] with stateMachineLock := some (i, 0) } :
      LockState τ).blocks i = [.marking] from setBlocks_self ..]
  case h_4 => exact absurd rfl hc.1
  case h_5 bs hb =>
    cases h.one hb
    have held := h.holds hb (by decide)
    cases hs
    refine ⟨?_, others _, .inr ⟨.inr held, .inr held⟩⟩
    unfold Fits
    rw [show ({ s.setBlocks i [.inside] with stateMachineLocked := true } :
      LockState τ).blocks i = [.inside] from setBlocks_self ..]
    exact ⟨held, rfl⟩
  case h_6 bs hb =>
    cases h.one hb
    have held := h.holds hb (by decide)
    cases hs
    refine ⟨?_, others _, .inl ⟨rfl, rfl⟩⟩
    unfold Fits
    rw [setBlocks_self]
    exact held
  case h_7 bs hb =>
    cases h.one hb
    have held := h.holds hb (by decide)
    cases hs
    refine ⟨?_, others _, .inr ⟨.inr held, .inr held⟩⟩
    unfold Fits
    rw [show ({ s.setBlocks i [.releasing] with stateMachineLocked := false } :
      LockState τ).blocks i = [.releasing] from setBlocks_self ..]
    exact held
  case h_8 bs hb =>
    cases h.one hb
    have held := h.holds hb (by decide)
    rw [held, release_held] at hs
    cases hs
    exact ⟨fits_outside (.inl (setBlocks_self ..)) fun _ => nofun, others _,
      .inr ⟨.inr held, .inl rfl⟩⟩
  case h_9 => cases hs

/-- Step: all threads still fit. -/
theorem fits_all_step {a : τ × LockAction} (h : ∀ j, s.Fits j) (hc : s.Patient a)
    (hs : lockStep a.1 a.2 s = some s') (j : τ) : s'.Fits j := by
  obtain ⟨hi, hb, hl⟩ := fits_step (h a.1) hc hs
  by_cases hj : j = a.1
  · rw [hj]
    exact hi
  · rcases hl with ⟨hl, hf⟩ | ⟨free, free'⟩
    · exact (h j).congr (hb j hj) hl hf
    · exact (h j).other hj free free' (hb j hj)

/-- **The state lock is a lock** in every run of any number of threads in which no wait
for it expires and no block is entered from within another one. -/
theorem patient_isLock (h : (lockMachine τ).Reaches LockState.Patient s) : s.IsLock := by
  apply isLock_of_fits
  refine h.invariant (I := fun s => ∀ i, s.Fits i) ?_ ?_
  · intro s hs i
    rw [hs]
    exact fits_initial
  · intro s a s' hi hc hs j
    exact fits_all_step hi hc hs j

/-! ## Where it is not a lock -/

/-- One thread is in a body for more than ten seconds while another one waits. -/
def timedOutRun : List (Bool × LockAction) :=
  [(false, .setDependencies), (false, .enter), (false, .acquire), (false, .mark),
    (true, .enter), (true, .timeout), (true, .mark)]

/-- A body that enters a block of its own and comes back from it. -/
def nestedRun : List (Bool × LockAction) :=
  [(false, .setDependencies), (false, .enter), (false, .acquire), (false, .mark),
    (false, .enter), (false, .acquire), (false, .mark), (false, .leave), (false, .unmark)]

/-- A run from the beginning, or the beginning itself when a step of it cannot be taken. -/
def after (as : List (Bool × LockAction)) : LockState Bool :=
  ((lockMachine Bool).run as (initial Bool)).getD (initial Bool)

theorem after_reachable (as : List (Bool × LockAction)) :
    (lockMachine Bool).Reachable (after as) := by
  unfold after
  rcases h : (lockMachine Bool).run as (initial Bool) with _ | s
  · exact .init rfl
  · exact Machine.Reaches.reachable_run (.init rfl) h

/-- Once a wait has expired there are two threads in bodies; the second one to leave takes
the flag down under the first one and releases a lock that it does not hold.  A nested
block takes the flag down under the body around it. -/
theorem expired_wait_breaks_lock :
    (∃ s, (lockMachine Bool).Reachable s ∧
      .inside ∈ s.blocks false ∧ .inside ∈ s.blocks true) ∧
    (∃ s, (lockMachine Bool).Reachable s ∧
      .inside ∈ s.blocks false ∧ s.stateMachineLocked = false ∧
      (s.blocks true).head? = some .releasing ∧ s.stateMachineLock.owner = some false) ∧
    (∃ s, (lockMachine Bool).Reachable s ∧
      .inside ∈ s.blocks false ∧ s.stateMachineLocked = false) := by
  refine ⟨⟨after timedOutRun, after_reachable _, ?_⟩,
    ⟨after (timedOutRun ++ [(true, .leave), (true, .unmark)]), after_reachable _, ?_⟩,
    ⟨after nestedRun, after_reachable _, ?_⟩⟩ <;> decide

/-- A thread in the body of a transition, another one waiting for the lock. -/
def waitingRun : List (Bool × LockAction) :=
  [(false, .setDependencies), (false, .enter), (false, .acquire), (false, .mark), (true, .enter)]

/-- The lock at work. -/
theorem patient_isLock_waiting : (after waitingRun).IsLock := by
  have run : (lockMachine Bool).run waitingRun (initial Bool) = some (after waitingRun) :=
    Option.eq_some_of_isSome (by decide)
  exact patient_isLock (Machine.Reaches.run (.init rfl) (by decide) run)

end LockState

end Calld.Transfers
