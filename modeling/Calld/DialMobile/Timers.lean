/-
# The timers of the PSTN fallbacks

A timer is armed once, and fires at most once: then its callback is one task, handed on
from section to section.  So the timer originates at most one leg, in whatever order the
sections are run.
-/
import Calld.DialMobile.Sections

namespace Calld.DialMobile

open Effect Effect.Program

/-- A leg is originated for a timer that has been armed, and that has not originated one. -/
def FiresOnce (past : List Event) : Event → Prop
  | .pstnOriginated timer call _ => .fallbackArmed timer call ∈ past ∧
      ∀ call' c, .pstnOriginated timer call' c ∉ past
  | _ => True

/-! ## The invariant -/

/-- The timer of a callback that is under way, and its call. -/
def Task.timer : Task → Option (ℕ × CallId)
  | .pstnFallback timer call | .fallbackLookup timer call | .fallbackCaller timer call _
  | .fallbackCommit timer call => some (timer, call)
  | _ => none

/-- The task is the callback of a timer. -/
def Task.isOf (timer : ℕ) (t : Task) : Bool := t.timer.any fun armed => armed.1 = timer

/-- The events about timers. -/
def Event.aboutTimer : Event → Bool
  | fallbackArmed .. | pstnOriginated .. => true
  | _ => false

/-- A timer has been armed and has not originated a leg. -/
def Unspent (timer : ℕ) (call : CallId) (w : World) : Prop :=
  .fallbackArmed timer call ∈ w.trace ∧ ∀ call' c, .pstnOriginated timer call' c ∉ w.trace

/-- What is known of the timers. -/
structure TimersKnown (w : World) : Prop where
  bounded : ∀ timer call, .fallbackArmed timer call ∈ w.trace → timer < w.objects
  pending : ∀ timer call, w.timers.get timer = some call → Unspent timer call w
  originated : ∀ timer call c, .pstnOriginated timer call c ∈ w.trace →
    .fallbackArmed timer call ∈ w.trace
  once : Always FiresOnce w.trace

/-- What is known of the timers, and of the callbacks under way. -/
structure TimersTracked (s : Sys) : Prop where
  known : TimersKnown s.world
  firing : ∀ t ∈ s.tasks, ∀ timer call, t.timer = some (timer, call) →
    Unspent timer call s.world ∧ s.world.timers.get timer = none
  once : ∀ timer, s.tasks.countP (Task.isOf timer) ≤ 1

/-! ## What is no matter of timers -/

/-- Timers may be stopped, and events about other things may happen. -/
abbrev TimerAside : World → World → Prop := Aside Event.aboutTimer World.timers

/-- The changes that are a matter of timers. -/
def Change.Ticks : Change → Prop
  | timerStarted .. => True
  | event e => e.aboutTimer = true
  | _ => False

theorem Change.timerAside {k : Change} (h : ¬ k.Ticks) (w : World) : TimerAside w (k.apply w) := by
  cases k with
  | timerStarted timer call => exact absurd trivial h
  | event e => exact .event (by simpa [Change.Ticks] using h) w
  | timerStopped timer => exact .of_shrinks rfl (Nat.le_refl _) (Effect.Dict.shrinks_pop _ timer)
  | object => exact .of_shrinks rfl (Nat.le_succ _) (.refl _)
  | _ => exact .of_shrinks rfl (Nat.le_refl _) (.refl _)

/-- The tasks that are a matter of timers. -/
def Task.Ticks : Task → Prop
  | .publishPush _ | .fallbackCommit .. => True
  | _ => False

theorem Task.timerAside {t : Task} (h : ¬ t.Ticks) (env : Env) (w : World) :
    TimerAside w (t.code env w).2 := by
  refine .of_madeOf (fun k hk w => Change.timerAside (fun hp => ?_) w) (t.madeOf_may env) w
  cases k with
  | timerStarted timer call => cases t <;> first | exact hk | exact h trivial
  | event e =>
    cases e <;> cases hp
    all_goals cases t <;> first | exact hk | exact h trivial
  | _ => exact hp

theorem timerAside_cancelPushMobile (env : Env) (call : CallId) (w : World) :
    TimerAside w (cancelPushMobile call env w).2 := by
  refine .of_madeOf (fun (k : Change) (hk : k.CancelsPush) w => Change.timerAside (fun hp => ?_) w)
    (madeOf_cancelPushMobile _ call fun _ hk => hk) w
  cases k with
  | event e => cases e <;> first | exact hk | cases hp
  | _ => first | exact hp | exact hk

/-- The callback of a timer is handed on, and only that. -/
theorem Task.Leads.timer {t u : Task} {armed : ℕ × CallId} (h : t.Leads u)
    (hu : u.timer = some armed) : t.timer = some armed := by
  cases h <;> first | exact hu | cases hu

section Worlds

variable {w w' : World} {timer : ℕ} {call : CallId}

theorem Unspent.aside (h : Unspent timer call w) (ha : TimerAside w w') : Unspent timer call w' :=
  ⟨(ha.mem_trace rfl).mpr h.1, fun call' c hc => h.2 call' c ((ha.mem_trace rfl).mp hc)⟩

namespace TimersKnown

theorem initial : TimersKnown World.initial :=
  ⟨fun _ _ => nofun, fun _ _ => nofun, fun _ _ _ => nofun, .nil⟩

theorem aside (h : TimersKnown w) (ha : TimerAside w w') : TimersKnown w' := by
  refine ⟨fun timer call hc => ?_, fun timer call hc => ?_, fun timer call c hc => ?_, ?_⟩
  · exact (h.bounded timer call ((ha.mem_trace rfl).mp hc)).trans_le ha.objects
  · exact (h.pending timer call (ha.entries _ _ hc)).aside ha
  · exact (ha.mem_trace rfl).mpr (h.originated timer call c ((ha.mem_trace rfl).mp hc))
  · obtain ⟨evs, hevs, htr⟩ := ha.trace
    rw [htr]
    refine h.once.append fun e he past => ?_
    have hother := hevs e he
    cases e <;> trivial

/-- A new timer has not originated a leg. -/
theorem fresh (h : TimersKnown w) (call' : CallId) (c : ChannelId) :
    .pstnOriginated w.objects call' c ∉ w.trace := fun hc =>
  Nat.lt_irrefl _ (h.bounded _ _ (h.originated _ _ _ hc))

theorem armed (h : TimersKnown w) (call : CallId) : TimersKnown (w.armed call) := by
  refine ⟨fun timer call' hc => ?_, fun timer call' hc => ?_, fun timer call' c hc => ?_,
    h.once.snoc trivial⟩
  · show timer < w.objects + 1
    rcases mem_snoc.mp hc with hc | hc
    · exact (h.bounded timer call' hc).trans (Nat.lt_succ_self _)
    · cases hc
      exact Nat.lt_succ_self _
  · have hget : (w.timers.set w.objects call).get timer = some call' := hc
    rw [Effect.Dict.get_set] at hget
    split at hget
    · rename_i htimer
      cases hget
      refine ⟨mem_snoc.mpr (.inr (by rw [htimer])), fun call' c hc => ?_⟩
      have hc := mem_of_snoc hc nofun
      rw [htimer] at hc
      exact h.fresh call' c hc
    · obtain ⟨ha, hn⟩ := h.pending timer call' hget
      exact ⟨mem_snoc.mpr (.inl ha), fun call'' c hc => hn call'' c (mem_of_snoc hc nofun)⟩
  · exact mem_snoc.mpr (.inl (h.originated timer call' c (mem_of_snoc hc nofun)))

theorem commit (h : TimersKnown w) {c : ChannelId} (hu : Unspent timer call w)
    (ht : w.timers.get timer = none) : TimersKnown (w.originated timer call c) := by
  refine ⟨fun timer' call' hc => ?_, fun timer' call' hc => ?_, fun timer' call' c' hc => ?_,
    h.once.snoc hu⟩
  · exact h.bounded timer' call' (mem_of_snoc hc nofun)
  · obtain ⟨ha, hn⟩ := h.pending timer' call' hc
    refine ⟨mem_snoc.mpr (.inl ha), fun call'' c' hc' => ?_⟩
    rcases mem_snoc.mp hc' with hc' | hc'
    · exact hn call'' c' hc'
    · cases hc'
      have hc : w.timers.get timer = some call' := hc
      rw [ht] at hc
      cases hc
  · rcases mem_snoc.mp hc with hc | hc
    · exact mem_snoc.mpr (.inl (h.originated timer' call' c' hc))
    · cases hc
      exact mem_snoc.mpr (.inl hu.1)

end TimersKnown

end Worlds

/-! ## Sections and runs -/

namespace TimersTracked

variable {s s' : Sys} {a : Label} {t : Task} {env : Env}

/-- The callbacks under way, when a section is handed on. -/
theorem once_after (h : TimersTracked s) (ht : t ∈ s.tasks) (timer : ℕ) :
    (s.after t env).tasks.countP (Task.isOf timer) ≤ 1 := by
  have hcount := (List.perm_cons_erase ht).countP_eq (Task.isOf timer)
  rw [List.countP_cons] at hcount
  show (s.tasks.erase t ++ following (t.code env s.world).1).countP _ ≤ 1
  rw [List.countP_append]
  have hle := h.once timer
  rcases t.leadsTo_following env s.world with hf | ⟨u, hf, hu⟩ <;> rw [hf]
  · rw [List.countP_nil]
    omega
  · rw [List.countP_singleton]
    split
    · -- the next section of this callback
      rename_i hof
      have htof : Task.isOf timer t = true := by
        obtain ⟨armed, harmed, heq⟩ := (Option.any_eq_true _ _).mp hof
        exact (Option.any_eq_true _ _).mpr ⟨armed, hu.timer harmed, heq⟩
      rw [if_pos htof] at hcount
      omega
    · omega

/-- The other tasks are not callbacks of the same timer. -/
theorem not_isOf (h : TimersTracked s) (ht : t ∈ s.tasks) {timer : ℕ} {call : CallId}
    (htimer : t.timer = some (timer, call)) {u : Task} (hu : u ∈ s.tasks.erase t)
    {call' : CallId} : u.timer ≠ some (timer, call') := by
  intro hutimer
  have hcount := (List.perm_cons_erase ht).countP_eq (Task.isOf timer)
  rw [List.countP_cons, if_pos (by simp [Task.isOf, htimer])] at hcount
  have hpos : 0 < (s.tasks.erase t).countP (Task.isOf timer) :=
    List.countP_pos_iff.mpr ⟨u, hu, by simp [Task.isOf, hutimer]⟩
  have hle := h.once timer
  omega

/-- The callbacks that do not concern a timer in the world after a section. -/
theorem run_aside (h : TimersTracked s) (ht : t ∈ s.tasks)
    (ha : TimerAside s.world (t.code env s.world).2) : TimersTracked (s.after t env) := by
  refine ⟨h.known.aside ha, fun u hu timer call hutimer => ?_, h.once_after ht⟩
  have hold : Unspent timer call s.world ∧ s.world.timers.get timer = none := by
    rcases List.mem_append.mp hu with hu | hu
    · exact h.firing u (List.mem_of_mem_erase hu) timer call hutimer
    · exact h.firing t ht timer call ((Task.leads_of_mem hu).timer hutimer)
  exact ⟨hold.1.aside ha, ha.entries.get_none hold.2⟩

theorem run_publish {push : Push} (h : TimersTracked s) (ht : .publishPush push ∈ s.tasks) :
    TimersTracked (s.after (.publishPush push) env) := by
  have hpublished : TimerAside s.world (s.world.published push) :=
    (Change.timerAside (k := .event (.pushNotification (push.notification push.originCallId)))
      nofun _).trans (Change.timerAside
        (k := .incomingCall push.originCallId (.notified push)) id _)
  rcases publishPush_cases env (w := s.world) push with hw | ⟨-, hw | hw⟩
  · exact h.run_aside ht (show TimerAside s.world (publishPush push env s.world).2 by
      rw [hw]
      exact .refl _)
  · exact h.run_aside ht (show TimerAside s.world (publishPush push env s.world).2 by
      rw [hw]
      exact hpublished)
  · have hknown := (h.known.aside hpublished).armed push.originCallId
    refine ⟨(show TimersKnown (publishPush push env s.world).2 by rwa [hw]), ?_, h.once_after ht⟩
    intro u hu timer call hutimer
    have hmem : u ∈ s.tasks := by
      rcases List.mem_append.mp hu with hu | hu
      · exact List.mem_of_mem_erase hu
      · nomatch Task.leads_of_mem hu
    obtain ⟨⟨harmed, hspent⟩, hnone⟩ := h.firing u hmem timer call hutimer
    show Unspent timer call (publishPush push env s.world).2 ∧
      (publishPush push env s.world).2.timers.get timer = none
    rw [hw]
    refine ⟨⟨mem_snoc.mpr (.inl (mem_snoc.mpr (.inl harmed))), fun call' c hc => ?_⟩, ?_⟩
    · exact hspent call' c (mem_of_snoc (mem_of_snoc hc nofun) nofun)
    · show (s.world.timers.set s.world.objects push.originCallId).get timer = none
      rw [Effect.Dict.get_set_of_ne, hnone]
      exact Nat.ne_of_lt (h.known.bounded timer call harmed)

theorem run_commit {timer : ℕ} {call : CallId} (h : TimersTracked s)
    (ht : .fallbackCommit timer call ∈ s.tasks) :
    TimersTracked (s.after (.fallbackCommit timer call) env) := by
  obtain ⟨hunspent, hnone⟩ := h.firing _ ht timer call rfl
  rcases fallbackCommit_cases env (w := s.world) timer call with hw | ⟨c, -, -, hw⟩
  · exact h.run_aside ht (show TimerAside s.world (fallbackCommit timer call env s.world).2 by
      rw [hw]
      exact .refl _)
  · -- the leg is originated; what follows is no matter of timers
    have hrest : TimerAside (s.world.originated timer call c)
        (fallbackCommit timer call env s.world).2 := by
      rw [hw]
      rcases legOriginated_cases env (w := s.world) timer call c with
        ⟨e, -, hl⟩ | ⟨w', hcancel, hl⟩ <;> rw [hl]
      · exact .refl _
      · have hpush := timerAside_cancelPushMobile env call (s.world.originated timer call c)
        rw [hcancel] at hpush
        exact hpush.trans (Change.timerAside (k := .fallback call (.dialing c)) id _)
    have hknown := (h.known.commit (c := c) hunspent hnone).aside hrest
    refine ⟨hknown, fun u hu timer' call' hutimer => ?_, h.once_after ht⟩
    rcases List.mem_append.mp hu with hu | hu
    · obtain ⟨⟨harmed, hspent⟩, hnone'⟩ :=
        h.firing u (List.mem_of_mem_erase hu) timer' call' hutimer
      refine ⟨Unspent.aside ⟨mem_snoc.mpr (.inl harmed), fun call'' c' hc => ?_⟩ hrest,
        hrest.entries.get_none hnone'⟩
      rcases mem_snoc.mp hc with hc | hc
      · exact hspent call'' c' hc
      · cases hc
        exact h.not_isOf ht rfl hu hutimer
    · cases Task.leads_of_mem hu with
      | commitAbort => cases hutimer

theorem run (h : TimersTracked s) (ht : t ∈ s.tasks) : TimersTracked (s.after t env) := by
  by_cases htick : t.Ticks
  case neg => exact h.run_aside ht (t.timerAside htick env s.world)
  case pos =>
    cases t with
    | publishPush push => exact h.run_publish ht
    | fallbackCommit timer call => exact h.run_commit ht
    | _ => exact htick.elim

/-- What arrives is not the callback of a timer. -/
theorem arrive (h : TimersTracked s) (ht : t.Arrives s.world) :
    TimersTracked ⟨s.world, t :: s.tasks⟩ := by
  have hnone : t.timer = none := by cases t <;> first | rfl | exact ht.elim
  refine ⟨h.known, fun u hu timer call hutimer => ?_, fun timer => ?_⟩
  · rcases List.mem_cons.mp hu with rfl | hu
    · rw [hnone] at hutimer
      cases hutimer
    · exact h.firing u hu timer call hutimer
  · rw [List.countP_cons, if_neg (by simp [Task.isOf, hnone])]
    exact h.once timer

/-- A timer fires: it is not armed any more, and its callback is under way. -/
theorem fire {timer : ℕ} {call : CallId} (h : TimersTracked s)
    (htimer : s.world.timers.get timer = some call) : TimersTracked (s.fired timer call) := by
  have ha : TimerAside s.world (s.fired timer call).world :=
    Change.timerAside (k := .timerStopped timer) id s.world
  refine ⟨h.known.aside ha, fun u hu timer' call' hutimer => ?_, fun timer' => ?_⟩
  · rcases List.mem_cons.mp hu with rfl | hu
    · cases hutimer
      exact ⟨(h.known.pending timer call htimer).aside ha, Effect.Dict.get_pop_self ..⟩
    · obtain ⟨hunspent, hnone⟩ := h.firing u hu timer' call' hutimer
      exact ⟨hunspent.aside ha, ha.entries.get_none hnone⟩
  · show List.countP _ (.pstnFallback timer call :: s.tasks) ≤ 1
    rw [List.countP_cons]
    split
    · -- no callback of a timer is under way while it is armed
      rename_i hof
      have heq : timer = timer' := by simpa [Task.isOf, Task.timer] using hof
      subst heq
      have hzero : s.tasks.countP (Task.isOf timer) = 0 := by
        refine List.countP_eq_zero.mpr fun u hu hof => ?_
        obtain ⟨⟨timer', call'⟩, harmed, heq⟩ := (Option.any_eq_true _ _).mp hof
        obtain rfl : timer' = timer := by simpa using heq
        rw [(h.firing u hu timer' call' harmed).2] at htimer
        cases htimer
      omega
    · exact h.once timer'

theorem step (h : TimersTracked s) (hs : machine.step a s = some s') : TimersTracked s' := by
  obtain ⟨t, rfl, ht, rfl⟩ | ⟨timer, call, rfl, hcall, rfl⟩ | ⟨t, env, rfl, ht, -, rfl⟩ :=
    step_cases hs
  · exact h.arrive ht
  · exact h.fire hcall
  · exact h.run ht

end TimersTracked

/-- The timers are tracked along every run. -/
theorem reachable_timersTracked {s : Sys} (h : machine.Reachable s) : TimersTracked s := by
  refine h.invariant (fun s hs => ?_) fun s a s' hI _ hs => hI.step hs
  rw [show s = Sys.start from hs]
  exact ⟨.initial, fun _ => nofun, fun _ => Nat.zero_le _⟩

end Calld.DialMobile
