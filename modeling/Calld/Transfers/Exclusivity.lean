/-
# At most one transfer for each initiator

An initiator stays locked as long as its transfer is stored, and so has at most one
(`Exclusive`), in every run of one process in which no transition of a stored transfer
raises and ARI deletes what it is asked to (`Orderly`).

Without the first condition the property fails: the decorator `transition` releases the
lock when a transition raises, and the transfer stays stored.
-/
import Calld.Transfers.Run

namespace Calld.Transfers

open Effect

/-! ## The invariant -/

/-- The initiators of the stored transfers are locked and distinct. -/
structure Exclusive (m : Memory) : Prop where
  locked : ∀ {id t}, m.records id = some t → t.initiatorCall ∈ m.lockedCalls
  distinct : ∀ {id id' t t'}, m.records id = some t → m.records id' = some t' →
    t.initiatorCall = t'.initiatorCall → id = id'

/-- A transition of a transfer that has not ended has raised. -/
def Event.isLiveAbort : Event → Bool
  | .aborted _ st => st ≠ .ended
  | _ => false

/-- No transition of a transfer that has not ended has raised. -/
def Undisturbed (trace : List Event) : Prop := ∀ e ∈ trace, e.isLiveAbort = false

instance (trace : List Event) : Decidable (Undisturbed trace) :=
  inferInstanceAs (Decidable (∀ e ∈ trace, _))

theorem Undisturbed.of_prefix {tr tr' : List Event} (h : Undisturbed tr') (hp : tr <+: tr') :
    Undisturbed tr := fun e he => h e (hp.subset he)

namespace Exclusive

variable {m m' : Memory}

/-- The stored transfers are the same, and more may be locked. -/
theorem of_eq (h : Exclusive m) (hr : m'.records = m.records)
    (hl : m.lockedCalls ⊆ m'.lockedCalls) : Exclusive m' where
  locked hid := hl (h.locked (hr ▸ hid))
  distinct hid hid' := h.distinct (hr ▸ hid) (hr ▸ hid')

/-- A transfer is stored again, with the same initiator. -/
theorem restore (h : Exclusive m) {t t' : Transfer} (hst : m.records t'.id = some t)
    (hi : t'.initiatorCall = t.initiatorCall) : Exclusive (m.store t') := by
  have old {id u} (hid : (m.store t').records id = some u) :
      ∃ v, m.records id = some v ∧ u.initiatorCall = v.initiatorCall := by
    by_cases heq : id = t'.id
    · subst heq
      simp only [Memory.store_records, Function.update_self, Option.some.injEq] at hid
      exact ⟨t, hst, hid ▸ hi⟩
    · simp only [Memory.store_records, Function.update_of_ne heq] at hid
      exact ⟨u, hid, rfl⟩
  constructor
  · intro id u hid
    obtain ⟨v, hv, hu⟩ := old hid
    exact hu ▸ h.locked hv
  · intro id id' u u' hid hid' heq
    obtain ⟨v, hv, hu⟩ := old hid
    obtain ⟨v', hv', hu'⟩ := old hid'
    exact h.distinct hv hv' (by rw [← hu, ← hu', heq])

/-- A transfer is removed, and its initiator unlocked. -/
theorem release (h : Exclusive m) {id : TransferId} {t : Transfer} (hst : m.records id = some t) :
    Exclusive ((m.unlock t.initiatorCall).forget id) := by
  have old {id' u} (hid : ((m.unlock t.initiatorCall).forget id).records id' = some u) :
      id' ≠ id ∧ m.records id' = some u := by
    by_cases heq : id' = id
    · subst heq
      simp at hid
    · simp only [Memory.forget_records, Function.update_of_ne heq] at hid
      exact ⟨heq, hid⟩
  constructor
  · intro id' u hid
    obtain ⟨hne, hu⟩ := old hid
    refine Finset.mem_erase.mpr ⟨fun heq => hne (h.distinct hu hst heq), h.locked hu⟩
  · intro id₁ id₂ u₁ u₂ h₁ h₂
    exact h.distinct (old h₁).2 (old h₂).2

/-- A transfer is stored for an initiator that was free. -/
theorem insert (h : Exclusive m) {t : Transfer} (free : t.initiatorCall ∉ m.lockedCalls) :
    Exclusive ((m.lock t.initiatorCall).store t) := by
  have old {id u} (hid : ((m.lock t.initiatorCall).store t).records id = some u) :
      (id = t.id ∧ u = t) ∨ (m.records id = some u ∧ u.initiatorCall ≠ t.initiatorCall) := by
    by_cases heq : id = t.id
    · subst heq
      simp only [Memory.store_records, Function.update_self, Option.some.injEq] at hid
      exact .inl ⟨rfl, hid.symm⟩
    · simp only [Memory.store_records, Function.update_of_ne heq, Memory.lock_records] at hid
      exact .inr ⟨hid, fun hu => free (hu ▸ h.locked hid)⟩
  constructor
  · intro id u hid
    rcases old hid with ⟨-, rfl⟩ | ⟨hu, -⟩
    · exact Finset.mem_insert_self _ _
    · exact Finset.mem_insert_of_mem (h.locked hu)
  · intro id id' u u' hid hid' heq
    rcases old hid with ⟨rfl, rfl⟩ | ⟨hu, hne⟩ <;> rcases old hid' with ⟨rfl, rfl⟩ | ⟨hu', hne'⟩
    · rfl
    · exact absurd heq.symm hne'
    · exact absurd heq hne
    · exact h.distinct hu hu' heq

end Exclusive

/-! ## The invariant over runs -/

variable {m m' : Memory} {s : System}

/-- Every move keeps the invariant, unless a transition of a stored transfer raises. -/
theorem Move.exclusive (hm : Move False False m m') (h : Exclusive m)
    (hu : Undisturbed m'.trace) : Exclusive m' := by
  cases hm with
  | @act _ id ha =>
    cases ha with
    | indexed | called | announced | lateAborted => exact h.of_eq rfl subset_rfl
    | @updated t t' p p' hst hp hp' hn same own hsh =>
      have hrestore : Exclusive (m.store t') := h.restore (own ▸ hst) same.initiatorCall
      exact hrestore.of_eq rfl subset_rfl
    | finished hst => exact (h.release hst).of_eq rfl subset_rfl
    | kept hf => exact hf.elim
    | @aborted t st hst hl =>
      have := hu (.aborted id st) (by simp)
      simp [Event.isLiveAbort, hl] at this
  | acquired => exact h.of_eq rfl (Finset.subset_insert _ _)
  | born free => exact (h.insert free).of_eq rfl subset_rfl
  | restarted hc => exact hc.elim

theorem Moves.exclusive (hm : Moves False False m m') (h : Exclusive m)
    (hu : Undisturbed m'.trace) : Exclusive m' := by
  induction hm with
  | refl => exact h
  | tail hms hm ih => exact hm.exclusive (ih (hu.of_prefix hm.trace)) hu

/-- The process is not restarted, ARI deletes what it is asked to, and no transition of a
transfer that has not ended raises. -/
def Orderly : Allowed := fun env op s =>
  op ≠ .restart ∧ ¬ env.RefusesDeletion ∧ Undisturbed (op.events env s)

/-- In an orderly run no transition of a transfer that has not ended has raised. -/
theorem Reaches.undisturbed {s₀ : System} (h₀ : WellStored s₀.memory) (hu : Undisturbed s₀.trace)
    (h : Reaches Orderly s₀ s) : Undisturbed s.trace := by
  induction h with
  | refl => exact hu
  | tail hr hstep ih =>
    obtain ⟨env, op, fresh, ⟨-, -, hevs⟩, rfl⟩ := hstep
    rw [op.trace (Reaches.wellStored h₀ hr) fresh]
    exact fun e he => (List.mem_append.mp he).elim (ih e) (hevs e)

open Scene

/-- The transferred party hangs up, Alice asks to complete the abandoned transfer (which
`TransferStateAbandoned` refuses), and then transfers someone else. -/
def refusedCompletion : List (Env × Op) :=
  [(.calm "first" carol, .create (request bob alice .attended)),
    (.calm "second" carol, .hangup bob),
    (.calm "second" carol, .complete "first"),
    (.calm "second" carol, .create (request dave alice .attended))]

end Calld.Transfers
