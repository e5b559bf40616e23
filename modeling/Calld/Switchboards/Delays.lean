/-
# The delay of the no-answer fallback

A timer is armed whenever a call is queued, and it is never cancelled: when it fires it tests
whether the call is in the queue, not in which stay.  So a call that has left the queue and
has come back is redirected by the timer of its first stay.

As long as every timer redirects in the stay for which it was armed, the call has been in the
queue for the whole delay: the timer is armed after the stay has begun.
-/
import Calld.Switchboards.Fallbacks

namespace Calld.Switchboards

open Effect Effect.Interactive

/-! ## The property -/

/-- The call was in the queue of the switchboard, in a stay that had lasted for the timeout
with which it was queued. -/
def Fallback.Honoured (f : Fallback) (w : World) : Prop :=
  ∃ p T, f.place = some p ∧ p.bridge = bridgeQueueId f.switchboardUuid ∧
    w.timeouts p.entry = some T ∧ p.since + T ≤ f.time

/-- Every fallback that was executed has honoured its delay. -/
def DelaysHonoured (s : SwitchboardPool) : Prop := ∀ f ∈ s.world.fallbacks, f.Honoured s.world

/-- A timer redirects the call in the stay for which it was armed. -/
def InItsStay (w : World) (ph : ℕ → Option Phase) (i : ℕ) (x : Answer) (r : Request) : Bool :=
  match ph i, r, x with
  | some ⟨.fallback t (.found _), _⟩, .continueInDialplan .., .done =>
    (w.place.get t.callId).map (·.entry) = some t.entry
  | _, _, _ => true

/-! ## The invariant -/

/-- A timer is due when the stay for which it was armed, in the queue, has lasted for its
timeout. -/
structure Timer.Armed (t : Timer) (w : World) : Prop where
  entry : t.entry < w.entries
  timeout : w.timeouts t.entry = some t.timeout
  place : ∀ p, w.place.get t.callId = some p → p.entry = t.entry →
    p.bridge = bridgeQueueId t.switchboardUuid ∧ p.since + t.timeout ≤ t.due

/-- The stay for which a program is to arm a timer. -/
def Phase.entered (k : Phase) : Option ℕ :=
  match k.role with
  | .queueing _ _ (.entered n) => some n
  | _ => none

/-- A program that is to arm a timer knows the stay, which has none yet; a timer that has fired
was due. -/
def Phase.Paced (w : World) (k : Phase) : Prop :=
  match k.role with
  | .queueing sb c (.entered n) =>
    n < w.entries ∧ w.timeouts n = none ∧
      ∀ p, w.place.get c = some p → p.entry = n → p.bridge = bridgeQueueId sb ∧ p.since ≤ w.now
  | .fallback t _ => t.Armed w ∧ t.due ≤ w.now
  | _ => True

structure Paced (w : World) (ph : ℕ → Option Phase) : Prop where
  fresh : ∀ c p, w.place.get c = some p → p.entry < w.entries
  free : ∀ n, w.entries ≤ n → w.timeouts n = none
  known : ∀ i k, ph i = some k → k.Paced w
  once : ∀ i j k k' n, ph i = some k → ph j = some k' → k.entered = some n →
    k'.entered = some n → i = j
  timers : ∀ t ∈ w.timers, t.Armed w
  honoured : ∀ f ∈ w.fallbacks, f.Honoured w

section Delays

variable {w w' : World} {ph : ℕ → Option Phase} {k : Phase} {r : Request} {x : Answer}
  {a : Except Exn r.Reply} {i : ℕ}

/-- Time goes on, stays that have begun are not entered again, and the timeouts of the stays
stand. -/
structure World.Later (w w' : World) : Prop where
  entries : w.entries ≤ w'.entries
  now : w.now ≤ w'.now
  timeouts : ∀ n T, w.timeouts n = some T → w'.timeouts n = some T
  place : ∀ c p, w'.place.get c = some p → p.entry < w.entries → w.place.get c = some p

theorem Timer.Armed.later {t : Timer} (h : t.Armed w) (hl : w.Later w') : t.Armed w' where
  entry := lt_of_lt_of_le h.entry hl.entries
  timeout := hl.timeouts _ _ h.timeout
  place p hp hn := h.place p (hl.place _ p hp (hn ▸ h.entry)) hn

theorem Fallback.Honoured.later {f : Fallback} (h : f.Honoured w) (hl : w.Later w') :
    f.Honoured w' := by
  obtain ⟨p, T, hp, hb, htimeout, hdue⟩ := h
  exact ⟨p, T, hp, hb, hl.timeouts _ _ htimeout, hdue⟩

theorem Phase.Paced.later (h : k.Paced w) (hl : w.Later w')
    (hfree : ∀ n, k.entered = some n → w'.timeouts n = none) : k.Paced w' := by
  unfold Phase.Paced at h ⊢
  split at h
  · next hrole =>
    obtain ⟨hlt, -, hplace⟩ := h
    refine ⟨lt_of_lt_of_le hlt hl.entries, hfree _ ?_, fun p hp hn => ?_⟩
    · unfold Phase.entered
      rw [hrole]
    · obtain ⟨hbridge, hsince⟩ := hplace p (hl.place _ p hp (hn ▸ hlt)) hn
      exact ⟨hbridge, hsince.trans hl.now⟩
  · exact ⟨h.1.later hl, h.2.trans hl.now⟩
  · trivial

/-- What becomes of the stays: one begins when a channel enters a bridge. -/
theorem place_apply {ch : Change} {c : String} {p : Place}
    (hp : (w.apply ch).place.get c = some p) :
    w.place.get c = some p ∨
      ∃ b, ch = .enter c b ∧ p = ⟨b, w.entries, w.now⟩ := by
  have hpop (c' : String) (hp : (w.place.pop c').get c = some p) : w.place.get c = some p := by
    rw [Dict.get_pop] at hp
    split at hp
    · cases hp
    · exact hp
  cases ch with
  | enter c' b =>
    change (w.place.set c' _).get c = some p at hp
    rw [Dict.get_set] at hp
    split at hp
    · next heq =>
      subst heq
      exact .inr ⟨b, rfl, (Option.some.inj hp).symm⟩
    · exact .inl hp
  | leave c' => exact .inl (hpop c' hp)
  | redirect t n => exact .inl (hpop t.callId hp)
  | _ => exact .inl hp

theorem entries_apply (w : World) (ch : Change) :
    w.entries ≤ (w.apply ch).entries ∧ (w.apply ch).now = w.now ∧
      ∀ c b, ch = .enter c b → (w.apply ch).entries = w.entries + 1 := by
  cases ch with
  | enter c b => exact ⟨Nat.le_succ _, rfl, fun _ _ _ => rfl⟩
  | _ => exact ⟨le_rfl, rfl, fun _ _ h => by cases h⟩

/-- A change that arms no timer leaves the timers and the timeouts as they are. -/
theorem timers_apply {ch : Change} (h : ∀ t, ch ≠ .arm t) :
    (w.apply ch).timers = w.timers ∧ (w.apply ch).timeouts = w.timeouts := by
  cases ch with
  | arm t => exact absurd rfl (h t)
  | _ => exact ⟨rfl, rfl⟩

theorem later_apply {ch : Change} (h : ∀ t, ch = .arm t → w.timeouts t.entry = none) :
    w.Later (w.apply ch) := by
  obtain ⟨hentries, hnow, -⟩ := entries_apply w ch
  refine ⟨hentries, hnow.ge, fun n T hT => ?_, fun c p hp hlt => ?_⟩
  · cases ch with
    | arm t =>
      have hne : n ≠ t.entry := by
        rintro rfl
        rw [h t rfl] at hT
        cases hT
      exact (Function.update_of_ne hne _ _).trans hT
    | _ => exact hT
  · obtain hold | ⟨b, -, rfl⟩ := place_apply hp
    · exact hold
    · exact absurd hlt (lt_irrefl _)

theorem timeouts_none {ch : Change} {n : ℕ} (h : w.timeouts n = none)
    (hne : ∀ t, ch = .arm t → n ≠ t.entry) : (w.apply ch).timeouts n = none := by
  cases ch with
  | arm t => exact (Function.update_of_ne (hne t rfl) _ _).trans h
  | _ => exact h

theorem fresh_apply {ch : Change} (h : ∀ c p, w.place.get c = some p → p.entry < w.entries)
    (c : String) (p : Place) (hp : (w.apply ch).place.get c = some p) :
    p.entry < (w.apply ch).entries := by
  obtain ⟨hentries, -, henter⟩ := entries_apply w ch
  obtain hold | ⟨b, rfl, rfl⟩ := place_apply hp
  · exact lt_of_lt_of_le (h c p hold) hentries
  · rw [henter c b rfl]
    exact Nat.lt_succ_self _

/-! ## Steps -/

/-- Only a program that has put the call into the queue arms a timer, for this stay, once. -/
theorem arm_cases {t : Timer} (h : k.change w i r x = .arm t) :
    ∃ sb c n delay, k.role = .queueing sb c (.entered n) ∧ t = ⟨w.now + delay, delay, sb, c, n⟩ ∧
      (k.next w r x).entered = none := by
  obtain h' | ⟨_, _, _, _, _, -, -, -, h'⟩ | ⟨sb, c, n, delay, _, _, _, hrole, rfl, rfl, h'⟩ |
    ⟨_, _, _, _, _, _, -, -, -, h'⟩ := change_cases w i k r x
  · rw [h'] at h
    unfold Request.change at h
    split at h <;> first | cases h | skip
    split at h <;> cases h
  · rw [h'] at h
    cases h
  · rw [h'] at h
    refine ⟨sb, c, n, delay, hrole, (Change.arm.inj h).symm, ?_⟩
    unfold Phase.entered Phase.next Role.next
    rw [hrole]
    rfl
  · rw [h'] at h
    cases h

theorem QueueStage.next_entered {stage : QueueStage} {sb c : String} {n : ℕ}
    (h : stage.next w sb c r x = .entered n) : stage = .entered n ∨
      r = .addChannel (bridgeQueueId sb) c ∧ x = .done ∧ n = w.entries := by
  unfold QueueStage.next at h
  split at h
  · next b c' =>
    by_cases hbc : b = bridgeQueueId sb ∧ c' = c
    · rw [if_pos hbc] at h
      obtain ⟨rfl, rfl⟩ := hbc
      exact .inr ⟨rfl, rfl, (QueueStage.entered.inj h).symm⟩
    · rw [if_neg hbc] at h
      exact .inl h
  · cases h
  · exact .inl h

theorem Phase.entered_eq {n : ℕ} (h : k.entered = some n) :
    ∃ sb c, k.role = .queueing sb c (.entered n) := by
  unfold Phase.entered at h
  split at h
  · next hrole =>
    obtain rfl := Option.some.inj h
    exact ⟨_, _, hrole⟩
  · cases h

/-- A program that is to arm a timer was so before, or has put the call into the queue. -/
theorem entered_cases {n : ℕ} (h : (k.next w r x).entered = some n) :
    (k.entered = some n ∧ (k.next w r x).role = k.role) ∨
    (∃ sb c, (k.next w r x).role = .queueing sb c (.entered n) ∧ n = w.entries ∧
      k.change w i r x = .enter c (bridgeQueueId sb)) := by
  obtain ⟨sb, c, hrole⟩ := Phase.entered_eq h
  obtain ⟨role, inLock⟩ := k
  cases role with
  | answering sb c stage => cases hrole
  | fallback t stage => cases hrole
  | other => cases hrole
  | queueing sb' c' stage =>
    obtain ⟨rfl, rfl, hstage⟩ := Role.queueing.inj hrole
    obtain rfl | ⟨rfl, rfl, hn⟩ := QueueStage.next_entered hstage
    · exact .inl ⟨rfl, hrole⟩
    · exact .inr ⟨sb', c', hrole, hn, by cases stage <;> rfl⟩

/-- The timer of a fallback stays the same. -/
theorem fallback_role {t : Timer} {stage : FallbackStage}
    (h : (k.next w r x).role = .fallback t stage) : ∃ stage', k.role = .fallback t stage' := by
  obtain ⟨role, inLock⟩ := k
  cases role with
  | fallback t' stage' =>
    obtain ⟨rfl, -⟩ := Role.fallback.inj h
    exact ⟨stage', rfl⟩
  | answering sb c stage' => cases h
  | queueing sb c stage' => cases h
  | other => cases h

theorem Paced.later (h : Paced w ph) (hk : ph i = some k) :
    w.Later (w.apply (k.change w i r x)) := by
  refine later_apply fun t ht => ?_
  obtain ⟨sb, c, n, delay, hrole, rfl, -⟩ := arm_cases ht
  have hknown := h.known i k hk
  unfold Phase.Paced at hknown
  rw [hrole] at hknown
  exact hknown.2.1

/-- What is known of the program that is answered. -/
theorem Paced.known_next (h : Paced w ph) (hk : ph i = some k) :
    (k.next w r x).Paced (w.apply (k.change w i r x)) := by
  have hlater := h.later (r := r) (x := x) hk
  have hknown := h.known i k hk
  unfold Phase.Paced
  split
  · next sb c n hrole =>
    have hentered : (k.next w r x).entered = some n := by
      unfold Phase.entered
      rw [hrole]
    have hnotarm (t : Timer) : k.change w i r x ≠ .arm t := by
      intro ht
      obtain ⟨_, _, _, _, -, -, hnone⟩ := arm_cases ht
      rw [hnone] at hentered
      cases hentered
    obtain ⟨hsame, hroles⟩ | ⟨sb', c', hnext, hn, henter⟩ := entered_cases (i := i) hentered
    · have hpaced := hknown.later hlater fun m hm => by
        obtain rfl := Option.some.inj (hsame.symm.trans hm)
        rw [(timers_apply hnotarm).2]
        unfold Phase.Paced at hknown
        rw [← hroles, hrole] at hknown
        exact hknown.2.1
      unfold Phase.Paced at hpaced
      rw [← hroles, hrole] at hpaced
      exact hpaced
    · rw [hrole] at hnext
      obtain ⟨rfl, rfl, -⟩ := Role.queueing.inj hnext
      rw [(timers_apply hnotarm).2, henter, (entries_apply w _).2.2 _ _ rfl, hn]
      refine ⟨Nat.lt_succ_self _, h.free _ le_rfl, fun p hp hpn => ?_⟩
      obtain hold | ⟨b, hb, rfl⟩ := place_apply hp
      · exact absurd (h.fresh c p hold) (hpn ▸ lt_irrefl _)
      · exact ⟨(Change.enter.inj hb).2.symm, le_rfl⟩
  · next t stage hrole =>
    obtain ⟨stage', hrole'⟩ := fallback_role hrole
    unfold Phase.Paced at hknown
    rw [hrole'] at hknown
    exact ⟨hknown.1.later hlater, hknown.2.trans hlater.now⟩
  · trivial

/-- An answer keeps the invariant. -/
theorem Paced.answer (h : Paced w ph) (hk : ph i = some k) (ht : k.role.takes k.inLock r)
    (ha : r.reply w x = some a) (hC : InItsStay w ph i x r = true) :
    Paced (w.apply (k.change w i r x)) (Function.update ph i (some (k.next w r x))) := by
  have hlater := h.later (r := r) (x := x) hk
  have hself := h.known_next (r := r) (x := x) hk
  have hentered {n : ℕ} (hn : (k.next w r x).entered = some n) {j : ℕ} {l : Phase}
      (hj : ph j = some l) (hl : l.entered = some n) : j = i := by
    obtain ⟨hsame, -⟩ | ⟨_, _, -, hnew, -⟩ := entered_cases (i := i) hn
    · exact h.once j i l k n hj hk hl hsame
    · -- the stay that begins is one that nobody has been in
      have hknown := h.known j l hj
      obtain ⟨sb, c, hrole⟩ := Phase.entered_eq hl
      unfold Phase.Paced at hknown
      rw [hrole] at hknown
      exact absurd hknown.1 (hnew ▸ lt_irrefl _)
  refine ⟨fresh_apply h.fresh, fun n hn => ?_, fun j l hj => ?_, fun j j' l l' n hj hj' hl hl' => ?_,
    fun t ht' => ?_, fun f hf => ?_⟩
  · refine timeouts_none (h.free n (hlater.entries.trans hn)) fun t harm => ?_
    obtain ⟨sb, c, m, delay, hrole, rfl, -⟩ := arm_cases harm
    have hknown := h.known i k hk
    unfold Phase.Paced at hknown
    rw [hrole] at hknown
    have hlt := lt_of_lt_of_le hknown.1 hlater.entries
    exact (lt_of_lt_of_le hlt hn).ne'
  · obtain ⟨-, rfl⟩ | ⟨hne, hold⟩ := System.update_cases hj
    · exact hself
    · refine (h.known j l hold).later hlater fun m hm => ?_
      obtain ⟨sb, c, hrole⟩ := Phase.entered_eq hm
      have hknown := h.known j l hold
      unfold Phase.Paced at hknown
      rw [hrole] at hknown
      refine timeouts_none hknown.2.1 fun t harm heq => hne ?_
      obtain ⟨_, _, m', _, hrole', rfl, -⟩ := arm_cases harm
      have hk' : k.entered = some m' := by
        unfold Phase.entered
        rw [hrole']
      exact h.once j i l k m hold hk hm (heq ▸ hk')
  · obtain ⟨rfl, rfl⟩ | ⟨hne, hold⟩ := System.update_cases hj
    · obtain ⟨rfl, -⟩ | ⟨hne', hold'⟩ := System.update_cases hj'
      · rfl
      · exact (hentered hl hold' hl').symm
    · obtain ⟨rfl, rfl⟩ | ⟨hne', hold'⟩ := System.update_cases hj'
      · exact hentered hl' hold hl
      · exact h.once j j' l l' n hold hold' hl hl'
  · by_cases harm : ∃ t, k.change w i r x = .arm t
    · obtain ⟨t₀, harm⟩ := harm
      obtain ⟨sb, c, n, delay, hrole, rfl, -⟩ := arm_cases harm
      have hknown := h.known i k hk
      unfold Phase.Paced at hknown
      rw [hrole] at hknown
      obtain ⟨hlt, -, hplace⟩ := hknown
      rw [harm] at ht' hlater ⊢
      rcases List.mem_cons.mp ht' with rfl | hold
      · -- the stay has begun before now
        refine ⟨hlt, Function.update_self .., fun p hp hn => ?_⟩
        obtain ⟨hbridge, hsince⟩ := hplace p hp hn
        refine ⟨hbridge, ?_⟩
        show p.since + delay ≤ w.now + delay
        omega
      · exact (h.timers t hold).later hlater
    · rw [(timers_apply fun t₀ heq => harm ⟨t₀, heq⟩).1] at ht'
      exact (h.timers t ht').later hlater
  · obtain ⟨hredirect, -⟩ | ⟨t, n, _, _, _, _, hrole, rfl, rfl, hredirect, -⟩ :=
      fallback_cases (i := i) ht ha
    · rw [fallbacks_apply hredirect] at hf
      exact (h.honoured f hf).later hlater
    · have hknown := h.known i k hk
      unfold Phase.Paced at hknown
      rw [hrole] at hknown
      obtain ⟨harmed, hdue⟩ := hknown
      rw [hredirect] at hf hlater ⊢
      rcases List.mem_cons.mp hf with rfl | hold
      · have hstay : (w.place.get t.callId).map (·.entry) = some t.entry := by
          obtain ⟨role, inLock⟩ := k
          obtain rfl : role = _ := hrole
          simpa [InItsStay, hk] using hC
        obtain ⟨p, hp, hentry⟩ := Option.map_eq_some_iff.mp hstay
        obtain ⟨hbridge, hsince⟩ := harmed.place p hp hentry
        refine ⟨p, t.timeout, hp, hbridge, hlater.timeouts _ _ (hentry ▸ harmed.timeout), ?_⟩
        exact hsince.trans hdue
      · exact (h.honoured f hold).later hlater

/-- What happens beside the programs arms no timer. -/
theorem Paced.aside (h : Paced w ph) (hl : w.Later w')
    (hfresh : ∀ c p, w'.place.get c = some p → p.entry < w'.entries)
    (htimeouts : w'.timeouts = w.timeouts) (htimers : ∀ t ∈ w'.timers, t ∈ w.timers)
    (hfallbacks : w'.fallbacks = w.fallbacks) : Paced w' ph where
  fresh := hfresh
  free n hn := htimeouts ▸ h.free n (hl.entries.trans hn)
  known j l hj := by
    refine (h.known j l hj).later hl fun n hn => ?_
    obtain ⟨sb, c, hrole⟩ := Phase.entered_eq hn
    have hknown := h.known j l hj
    unfold Phase.Paced at hknown
    rw [hrole] at hknown
    rw [htimeouts]
    exact hknown.2.1
  once := h.once
  timers t ht := (h.timers t (htimers t ht)).later hl
  honoured f hf := (h.honoured f (hfallbacks ▸ hf)).later hl

/-- A program that starts has put no call into the queue; a timer that fires was armed. -/
theorem Paced.start (h : Paced w ph) (hentered : k.entered = none) (hpaced : k.Paced w) :
    Paced w (Function.update ph i (some k)) where
  fresh := h.fresh
  free := h.free
  known := System.forall_update h.known hpaced
  once j j' l l' n hj hj' hl hl' := by
    obtain ⟨-, rfl⟩ | ⟨-, hold⟩ := System.update_cases hj
    · rw [hentered] at hl
      cases hl
    obtain ⟨-, rfl⟩ | ⟨-, hold'⟩ := System.update_cases hj'
    · rw [hentered] at hl'
      cases hl'
    · exact h.once j j' l l' n hold hold' hl hl'
  timers := h.timers
  honoured := h.honoured

theorem Paced.outside (h : Paced w ph) {e : Outside} (he : switchboards.outside e w = some w') :
    Paced w' ph := by
  have hmove {ch : Change} (harm : ∀ t, ch ≠ .arm t) (hredirect : ∀ t n, ch ≠ .redirect t n) :
      Paced (w.apply ch) ph := by
    obtain ⟨htimers, htimeouts⟩ := timers_apply (w := w) harm
    exact h.aside (later_apply fun t ht => absurd ht (harm t)) (fresh_apply h.fresh) htimeouts
      (by rw [htimers]; exact fun _ => id) (fallbacks_apply hredirect)
  cases e with
  | tick time =>
    cases he
    have hlater : w.Later { w with now := w.now + time } :=
      ⟨le_rfl, by simp, fun _ _ => id, fun _ _ hp _ => hp⟩
    exact h.aside hlater h.fresh rfl (fun _ => id) rfl
  | move c b =>
    cases b with
    | none =>
      cases he
      exact hmove (by simp) (by simp)
    | some b =>
      cases he
      exact hmove (by simp) (by simp)

end Delays

/-! ## Runs -/

/-- In every run in which the timers redirect in their stays, the invariant holds. -/
theorem paced_of_reaches {s : SwitchboardPool} (h : switchboards.machine.Reaches
    (System.Answers fun w ph i x r => InItsStay w ph i x r = true) s) :
    Paced s.world s.phases := by
  refine System.invariant_phases (I := Paced) launch_keeps ?_ ?_ ?_ ?_ h
  · rintro w ⟨hfresh, -, htimers, htimeouts, -, hfallbacks⟩
    refine ⟨hfresh, fun n _ => htimeouts n, fun _ _ hk => ?_, fun _ _ _ _ _ hk => ?_, ?_, ?_⟩
    · cases hk
    · cases hk
    · rw [htimers]
      exact fun t ht => absurd ht List.not_mem_nil
    · rw [hfallbacks]
      exact fun f hf => absurd hf List.not_mem_nil
  · intro w ph i job w' k p hinv hi hl
    obtain ⟨rfl, ⟨sb, c, rfl⟩ | ⟨sb, c, rfl⟩ | rfl⟩ | ⟨n, t, htimer, hdue, rfl, rfl⟩ :=
      launch_cases hl
    · exact hinv.start rfl trivial
    · exact hinv.start rfl trivial
    · exact hinv.start rfl trivial
    · have hlater : w.Later { w with timers := w.timers.eraseIdx n } :=
        ⟨le_rfl, le_rfl, fun _ _ => id, fun _ _ hp _ => hp⟩
      have harmed := hinv.timers t (List.mem_of_getElem? htimer)
      exact (hinv.aside hlater hinv.fresh rfl (fun _ => List.mem_of_mem_eraseIdx) rfl).start rfl
        ⟨harmed.later hlater, hdue⟩
  · rintro w ph i x k r y hinv hk ht hC ha
    obtain ⟨a, hreply, rfl⟩ := Option.map_eq_some_iff.mp ha
    exact hinv.answer hk ht hreply hC
  · intro w ph e w' hinv he
    exact hinv.outside he

/-- **As long as every timer redirects the call in the stay for which it was armed, every fallback
honours its delay.** -/
theorem fallbacks_honour_delay {s : SwitchboardPool} (h : switchboards.machine.Reaches
    (System.Answers fun w ph i x r => InItsStay w ph i x r = true) s) : DelaysHonoured s :=
  (paced_of_reaches h).honoured

/-! ## A call that comes back -/

/-- A call leaves the queue, and comes back before its first timer fires. -/
def comesBack : List SwitchboardLabel :=
  queues 0 ++ [.outside (.move "1.1" none), .outside (.tick 8)] ++ queues 1 ++
    [.outside (.tick 2), .start 2 (.noanswerTimeout 1), .answer 2 queued, .answer 2 .done]

/-- **The call is redirected when it has been in the queue for two seconds of ten.** -/
theorem redirected_early : ¬ ∀ s, switchboards.machine.Reachable s → DelaysHonoured s := by
  intro hall
  have hdelays := hall _ (after_reaches (Machine.meets_true comesBack noCalls))
  have hfallbacks : (after comesBack).world.fallbacks =
      [⟨"red", "1.1", 1, some ⟨redQueue, 1, 8⟩, 10⟩] := rfl
  have htimeouts : (after comesBack).world.timeouts 1 = some 10 := rfl
  obtain ⟨p, T, hp, -, hT, hdue⟩ := hdelays _ (by rw [hfallbacks]; exact List.mem_singleton_self _)
  obtain rfl := Option.some.inj hp
  obtain rfl := Option.some.inj (htimeouts.symm.trans hT)
  exact absurd hdue (by decide)

/-- The timer of a call that stays fires. -/
def timesOut : List SwitchboardLabel := queues 0 ++ fires 1 ++ [.answer 1 .done]

theorem timesOut_meets : switchboards.machine.Meets
    (System.Answers fun w ph i x r => InItsStay w ph i x r = true) timesOut noCalls := by
  decide

/-- A call that stays is redirected after its ten seconds. -/
theorem fallbacks_honour_delay_once :
    (after timesOut).world.fallbacks = [⟨"red", "1.1", 0, some ⟨redQueue, 0, 0⟩, 10⟩] ∧
      DelaysHonoured (after timesOut) :=
  ⟨rfl, fallbacks_honour_delay (after_reaches timesOut_meets)⟩

end Calld.Switchboards
