/-
# The duration of a call

`CallEvent.duration` subtracts the creation time of the channel from the time of the event,
both read by `iso8601`, and takes the seconds of the difference.  The difference has its days
apart: a call of a day or more is counted from its last full day on.
-/
import Calld.Calls.Stats
import Calld.Effect.Timedelta

namespace Calld.CallStats

open Effect Effect.Program

/-! ## Dates -/

def isLeap (year : ℕ) : Bool := year % 4 = 0 ∧ (year % 100 ≠ 0 ∨ year % 400 = 0)

/-- `_DAYS_IN_MONTH`. -/
def daysInMonth (year month : ℕ) : ℕ :=
  if month = 2 then if isLeap year then 29 else 28
  else if month = 4 ∨ month = 6 ∨ month = 9 ∨ month = 11 then 30 else 31

/-- An aware `datetime`. -/
structure DateTime where
  year : ℕ
  month : ℕ
  day : ℕ
  hour : ℕ
  minute : ℕ
  second : ℕ
  microsecond : ℕ
  utcoffset : Timedelta
  year_mem : 1 ≤ year ∧ year ≤ 9999
  month_mem : 1 ≤ month ∧ month ≤ 12
  day_mem : 1 ≤ day ∧ day ≤ daysInMonth year month
  hour_lt : hour < 24
  minute_lt : minute < 60
  second_lt : second < 60
  microsecond_lt : microsecond < 1000000
  offset_mem : -86400000000 < utcoffset.total ∧ utcoffset.total < 86400000000

namespace DateTime

/-- `_days_before_year`. -/
def daysBeforeYear (year : ℕ) : ℕ :=
  (year - 1) * 365 + (year - 1) / 4 - (year - 1) / 100 + (year - 1) / 400

/-- `_days_before_month`. -/
def daysBeforeMonth (year month : ℕ) : ℕ :=
  ((List.range (month - 1)).map fun m => daysInMonth year (m + 1)).sum

/-- `toordinal`. -/
def toordinal (d : DateTime) : ℕ := daysBeforeYear d.year + daysBeforeMonth d.year d.month + d.day

def daySeconds (d : DateTime) : ℕ := d.second + d.minute * 60 + d.hour * 3600

/-- `__sub__`. -/
def sub (d e : DateTime) : Timedelta :=
  let base := Timedelta.make ((d.toordinal : ℤ) - e.toordinal) ((d.daySeconds : ℤ) - e.daySeconds)
    ((d.microsecond : ℤ) - e.microsecond)
  if d.utcoffset = e.utcoffset then base else base + e.utcoffset - d.utcoffset

/-- The microseconds, in UTC, since the day before the first one. -/
def instant (d : DateTime) : ℤ :=
  ((d.toordinal : ℤ) * 86400 + d.daySeconds) * 1000000 + d.microsecond - d.utcoffset.total

/-- A difference is the time between the instants, whatever the offsets are. -/
theorem total_sub (d e : DateTime) : (d.sub e).total = d.instant - e.instant := by
  unfold sub instant
  dsimp only
  split
  · rename_i hoffset
    rw [Timedelta.total_make, hoffset]
    ring
  · rw [Timedelta.total_sub, Timedelta.total_add, Timedelta.total_make]
    ring

end DateTime

/-! ## `CallEvent.duration` -/

/-- What the duration is made of: the creation time of the channel and the timestamp of the
event, as far as they are there. -/
structure CallTimes where
  creationtime : Option String
  timestamp : Option String

section Duration

-- `iso8601.parse_date`; it raises for what is no date
variable (parseDate : String → Option DateTime)

/-- `parse_date(dict_[key])`. -/
def readDate (text : Option String) : Except Exn DateTime :=
  match text with
  | none => throw .keyError
  | some text => (parseDate text).elim (throw .parseError) pure

/-- `CallEvent.duration`. -/
def duration (times : CallTimes) : Except Exn ℕ := do
  let startDatetime ← readDate parseDate times.creationtime
  let endDatetime ← readDate parseDate times.timestamp
  pure (endDatetime.sub startDatetime).seconds

end Duration

/-- The parser finds the instant of every text that denotes one. -/
def RightInstants (parseDate : String → Option DateTime) (instantOf : String → Option ℤ) : Prop :=
  ∀ text t, instantOf text = some t → ∃ d, parseDate text = some d ∧ d.instant = t

section Elapsed

variable {parseDate : String → Option DateTime} {instantOf : String → Option ℤ}
  {creationtime timestamp : String} {a b : ℤ}

/-- The duration is what a difference of the right length has in its seconds. -/
theorem duration_eq (hparse : RightInstants parseDate instantOf)
    (hstart : instantOf creationtime = some a) (hend : instantOf timestamp = some b) :
    ∃ t : Timedelta, t.total = b - a ∧
      duration parseDate ⟨some creationtime, some timestamp⟩ = .ok t.seconds := by
  obtain ⟨d, hd, rfl⟩ := hparse _ _ hstart
  obtain ⟨e, he, rfl⟩ := hparse _ _ hend
  refine ⟨e.sub d, e.total_sub d, ?_⟩
  unfold duration readDate
  simp only [hd, he]
  rfl

/-- The duration is the time between the instants, but for the full days in it. -/
theorem duration_mod (hparse : RightInstants parseDate instantOf)
    (hstart : instantOf creationtime = some a) (hend : instantOf timestamp = some b) :
    duration parseDate ⟨some creationtime, some timestamp⟩ =
      .ok ((b - a) / 1000000 % 86400).toNat := by
  obtain ⟨t, htotal, hduration⟩ := duration_eq hparse hstart hend
  have hseconds := t.seconds_lt
  have hdiv := t.total_div
  rw [hduration, ← htotal]
  congr 1
  omega

/-- The duration is the number of whole seconds between the instants exactly when less than a
day is between them. -/
theorem duration_elapsed_iff (hparse : RightInstants parseDate instantOf)
    (hstart : instantOf creationtime = some a) (hend : instantOf timestamp = some b)
    (hle : a ≤ b) :
    duration parseDate ⟨some creationtime, some timestamp⟩ = .ok ((b - a) / 1000000).toNat ↔
      b - a < 86400 * 1000000 := by
  rw [duration_mod hparse hstart hend]
  constructor
  · intro h
    have hseconds := Except.ok.inj h
    omega
  · intro h
    congr 1
    omega

/-- Half past one, an hour ahead of UTC or some hours behind it, and a day later. -/
def readDates (text : String) : Option DateTime :=
  if text = "2016-02-16T13:31:00+0100" then
    some ⟨2016, 2, 16, 13, 31, 0, 0, .make 0 3600 0, by decide, by decide, by decide, by decide,
      by decide, by decide, by decide, by decide⟩
  else if text = "2016-02-16T13:31:00-0500" then
    some ⟨2016, 2, 16, 13, 31, 0, 0, .make 0 (-18000) 0, by decide, by decide, by decide,
      by decide, by decide, by decide, by decide, by decide⟩
  else if text = "2016-02-17T13:31:00+0100" then
    some ⟨2016, 2, 17, 13, 31, 0, 0, .make 0 3600 0, by decide, by decide, by decide, by decide,
      by decide, by decide, by decide, by decide⟩
  else none

theorem rightInstants_map (parseDate : String → Option DateTime) :
    RightInstants parseDate fun text => (parseDate text).map DateTime.instant :=
  fun _ _ h => Option.map_eq_some_iff.mp h

/-- Six hours between two zones. -/
theorem duration_elapsed_iff_zones :
    duration readDates ⟨some "2016-02-16T13:31:00+0100", some "2016-02-16T13:31:00-0500"⟩ =
      .ok 21600 :=
  (duration_elapsed_iff (a := 63591309060000000) (b := 63591330660000000)
    (rightInstants_map readDates) (by decide) (by decide) (by decide)).mpr (by decide)

/-- A day is counted as nothing. -/
theorem day_lost :
    (readDates "2016-02-16T13:31:00+0100").map DateTime.instant = some 63591309060000000 ∧
      (readDates "2016-02-17T13:31:00+0100").map DateTime.instant = some 63591395460000000 ∧
      duration readDates ⟨some "2016-02-16T13:31:00+0100", some "2016-02-17T13:31:00+0100"⟩ =
        .ok 0 := by
  decide

end Elapsed

/-! ## The statistic -/

/-- The outside of an event with these times. -/
def CallTimes.env (parseDate : String → Option DateTime) (times : CallTimes) (env : Env) : Env :=
  { env with seconds := (duration parseDate times).toOption }

/-- `StatSender.duration` sends what `CallEvent.duration` gives, or nothing. -/
theorem stats_sendDuration (parseDate : String → Option DateTime) (times : CallTimes) (env : Env)
    (call : CallEvent) (s : World) :
    (sendDuration call (times.env parseDate env) s).2.stats =
      s.stats ++ ((duration parseDate times).toOption.map fun seconds =>
        ⟨.duration seconds, call.channel, call.app, call.appInstance⟩).toList := by
  unfold sendDuration
  rw [bind_apply, ask_apply]
  have hseconds : (times.env parseDate env).seconds = (duration parseDate times).toOption := rfl
  simp only [hseconds]
  cases (duration parseDate times).toOption with
  | none => simp
  | some seconds => rfl

end Calld.CallStats
