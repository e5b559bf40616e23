/-
# The life of a transfer

What a transfer is for, seen from the outside: it is started, its channels are moved,
it may be given up (`cancelled`), its recipient is called, and it ends.  A phase says
what may be announced about it and which phases may follow; `Life.Step` says when the
announcements are made.

This is the specification that the code is later shown to follow (`Simulation.lean`).
The theorems here are about the specification alone: nothing comes after the end, and
what has been cancelled neither calls a recipient nor succeeds.
-/
import Calld.Effect.Observed
import Calld.Transfers.System

namespace Calld.Transfers

open Effect

/-! ## Phases -/

/-- The phases of a transfer that has not ended. -/
inductive Phase where
  | initial
  | moving
  | cancelled
  | calling
  deriving DecidableEq, Repr

namespace Phase

/-- The phases that may come next. -/
def next : Phase → Phase → Bool
  | initial, initial | initial, moving | initial, calling => true
  | moving, moving | moving, cancelled | moving, calling => true
  | cancelled, cancelled => true
  | calling, calling => true
  | _, _ => false

/-- What may be announced in a phase, its end apart. -/
def mayNotify : Phase → NotificationKind → Bool
  | _, .created => true
  | initial, .updated => true
  | moving, .updated | moving, .abandoned => true
  | cancelled, .abandoned | cancelled, .cancelled => true
  | calling, .abandoned | calling, .cancelled | calling, .completed | calling, .answered => true
  | _, _ => false

/-- The phases in which a recipient may be called. -/
def mayOriginate : Phase → Bool
  | initial | moving => true
  | cancelled | calling => false

theorem next_self (p : Phase) : p.next p = true := by cases p <;> rfl

theorem not_mayNotify_ended (p : Phase) : p.mayNotify .ended = false := by cases p <;> rfl

theorem eq_cancelled_of_next {p : Phase} (h : cancelled.next p = true) : p = cancelled := by
  cases p <;> first | rfl | cases h

end Phase

/-- The phase that a status belongs to; `none` for `ended` and the two names without a
state class. -/
def Status.phase : Status → Option Phase
  | .ready | .nonStasis => some .initial
  | .noneMovedToStasis | .initiatorMovedToStasis | .transferredMovedToStasis => some .moving
  | .noneMovedToStasisCancelled | .initiatorMovedToStasisCancelled
  | .transferredMovedToStasisCancelled => some .cancelled
  | .ringback | .blindTransferred | .answered | .abandoned => some .calling
  | .ended | .starting | .invalid => none

/-! ## The machine -/

/-- What can be observed of one transfer. -/
inductive Observation where
  | notified (kind : NotificationKind)
  | originated
  | removed
  deriving DecidableEq, Repr

/-- The phase allows the observation. -/
def Phase.may (p : Phase) : Observation → Bool
  | .notified kind => p.mayNotify kind
  | .originated => p.mayOriginate
  | .removed => false

/-- The life of a transfer id: not stored yet, stored, or gone. -/
inductive Life where
  | unborn
  | live (p : Phase)
  | over
  deriving DecidableEq, Repr

/-- One step in the life of a transfer.  The end is announced with the removal, after
everything else. -/
inductive Life.Step : Life → List Observation → Life → Prop
  | born : Life.Step .unborn [] (.live .initial)
  | move {p p' : Phase} {obs : List Observation} (hp : p.next p' = true)
      (hobs : ∀ o ∈ obs, p.may o = true) : Life.Step (.live p) obs (.live p')
  | finish {p : Phase} {obs : List Observation} (hp : p ≠ .initial)
      (hobs : ∀ o ∈ obs, p.may o = true) :
      Life.Step (.live p) (obs ++ [.notified .ended, .removed]) .over

/-- Observations that a phase allows do not announce the end. -/
theorem Phase.not_ended_of_may {p : Phase} {obs : List Observation}
    (h : ∀ o ∈ obs, p.may o = true) : .notified .ended ∉ obs := fun hm => by
  have := h _ hm
  simp [may, p.not_mayNotify_ended] at this

namespace Life

variable {l l' : Life} {obs : List Observation}

/-- **The end is the end**: once over, a transfer is never heard of again. -/
theorem over_final (h : Observed Step .over obs l) : obs = [] ∧ l = .over :=
  h.final fun _ _ hs => nomatch hs

/-- The observations of a run: the end comes last, with the removal, when the transfer is
over, and not at all otherwise. -/
theorem observed_shape (h : Observed Step l obs l') :
    (.notified .ended ∉ obs ∧ (l' = .over → l = .over)) ∨
      (l' = .over ∧ ∃ pre, obs = pre ++ [.notified .ended, .removed] ∧ .notified .ended ∉ pre) := by
  induction h with
  | refl => exact .inl ⟨by simp, id⟩
  | @tail b c o o' hrun hs ih =>
    rcases ih with ⟨hn, hb⟩ | ⟨rfl, -⟩
    · cases hs with
      | born => exact .inl ⟨by simpa using hn, by simp⟩
      | move hp hobs => exact .inl ⟨by simp [hn, Phase.not_ended_of_may hobs], by simp⟩
      | @finish p obs hp hobs =>
        exact .inr ⟨rfl, o ++ obs, by simp, by simp [hn, Phase.not_ended_of_may hobs]⟩
    · cases hs

/-- Once the end has been announced, the transfer is over. -/
theorem over_of_ended (h : Observed Step l obs l') (he : .notified .ended ∈ obs) : l' = .over := by
  rcases observed_shape h with ⟨hn, -⟩ | ⟨ho, -⟩
  · exact absurd he hn
  · exact ho

/-- **The end is announced once and last**, together with the removal. -/
theorem ended_last (h : Observed Step l obs l') {pre post : List Observation}
    (ho : obs = pre ++ .notified .ended :: post) :
    .notified .ended ∉ pre ∧ post = [.removed] := by
  rcases observed_shape h with ⟨hn, -⟩ | ⟨-, pre', rfl, hn⟩
  · simp [ho] at hn
  · obtain ⟨rfl, -, rfl⟩ := (List.append_cons_inj_of_notMem hn (by simp)).mp ho
    exact ⟨hn, rfl⟩

/-- **Cancelled means cancelled**: from the cancelled phase on no recipient is called, and
neither success nor answer is announced. -/
theorem cancelled_final (h : Observed Step (.live .cancelled) obs l) :
    ∀ o ∈ obs, o ≠ .originated ∧ o ≠ .notified .completed ∧ o ≠ .notified .answered := by
  refine (h.invariant (I := fun l => l = .live .cancelled ∨ l = .over) ?_ (.inl rfl)).2
  have allowed : ∀ o, Phase.cancelled.may o = true →
      o ≠ .originated ∧ o ≠ .notified .completed ∧ o ≠ .notified .answered := by
    rintro (_ | _ | _) ho
    · refine ⟨by simp, ?_, ?_⟩ <;> rintro ⟨⟩ <;> cases ho
    · cases ho
    · simp
  rintro _ o l' (rfl | rfl) hs
  · cases hs with
    | move hp hobs =>
      rw [Phase.eq_cancelled_of_next hp]
      exact ⟨.inl rfl, fun o ho => allowed o (hobs o ho)⟩
    | finish _ hobs =>
      refine ⟨.inr rfl, fun o ho => ?_⟩
      rcases List.mem_append.mp ho with h | h
      · exact allowed o (hobs o h)
      · rcases List.mem_pair.mp h with rfl | rfl <;> simp
  · cases hs

end Life

end Calld.Transfers
