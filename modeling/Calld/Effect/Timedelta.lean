/-
# Differences of times

A difference of times is kept as days, seconds and microseconds.  Only the days may be
negative: whatever the three are that a difference is made of, its seconds are less than a
day and its microseconds less than a second.
-/
import Mathlib.Tactic.Ring
import Mathlib.Data.Int.Basic

namespace Effect

/-- `datetime.timedelta`. -/
structure Timedelta where
  days : ℤ
  seconds : ℕ
  microseconds : ℕ
  seconds_lt : seconds < 86400
  microseconds_lt : microseconds < 1000000
  deriving DecidableEq

namespace Timedelta

/-- `timedelta(days, seconds, microseconds)`. -/
def make (days seconds microseconds : ℤ) : Timedelta where
  days := days + (seconds + microseconds / 1000000) / 86400
  seconds := ((seconds + microseconds / 1000000) % 86400).toNat
  microseconds := (microseconds % 1000000).toNat
  seconds_lt := by omega
  microseconds_lt := by omega

/-- The microseconds of the whole difference. -/
def total (t : Timedelta) : ℤ := (t.days * 86400 + t.seconds) * 1000000 + t.microseconds

instance : Add Timedelta where
  add t u := make (t.days + u.days) (t.seconds + u.seconds) (t.microseconds + u.microseconds)

instance : Sub Timedelta where
  sub t u := make (t.days - u.days) (t.seconds - u.seconds) (t.microseconds - u.microseconds)

variable {t u : Timedelta}

theorem total_make (days seconds microseconds : ℤ) :
    (make days seconds microseconds).total =
      (days * 86400 + seconds) * 1000000 + microseconds := by
  unfold total make
  dsimp only
  omega

@[simp] theorem total_add : (t + u).total = t.total + u.total := by
  show (make _ _ _).total = _
  rw [total_make]
  unfold total
  ring

@[simp] theorem total_sub : (t - u).total = t.total - u.total := by
  show (make _ _ _).total = _
  rw [total_make]
  unfold total
  ring

/-- The whole seconds of a difference are the seconds of its days and its other seconds. -/
theorem total_div (t : Timedelta) : t.total / 1000000 = t.days * 86400 + t.seconds := by
  have hmicro := t.microseconds_lt
  unfold total
  omega

end Timedelta

end Effect
