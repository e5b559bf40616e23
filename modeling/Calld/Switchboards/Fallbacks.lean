/-
# A queued call goes to one place

`on_queued_call_noanswer_timeout` tests whether the call is in the queue and then redirects
it, in another thread and without the lock.  Between the two steps an operator may be
originated for the call, and between the originate and the removal the timer still finds it.

A call goes to one place only as long as neither of the two goes on while the other has found
the call in the same stay.
-/
import Calld.Switchboards.Answering

namespace Calld.Switchboards

open Effect Effect.Interactive

/-! ## What an answer does to the fallbacks -/

section Steps

variable {w w' : World} {k : Phase} {r : Request} {x : Answer} {a : Except Exn r.Reply} {i : ℕ}

/-- How far a fallback gets with an answer; the other programs redirect nobody for it. -/
theorem fallback_cases (ht : k.role.takes k.inLock r) (ha : r.reply w x = some a) :
    ((∀ t n, k.change w i r x ≠ .redirect t n) ∧ ((∀ t n, (k.next w r x).role ≠
        .fallback t (.found n)) ∨
      ∃ t p, k.role = .fallback t .untested ∧ k.change w i r x = .nothing ∧
        (∃ id json, r = .bridgesGet id ∧ x = .bridge json ∧ t.callId ∈ json.channels) ∧
        w.place.get t.callId = some p ∧ p.bridge = bridgeQueueId t.switchboardUuid ∧
          (k.next w r x).role = .fallback t (.found p.entry))) ∨
    (∃ t n c ctx ext prio, k.role = .fallback t (.found n) ∧
      r = .continueInDialplan c ctx ext prio ∧ x = .done ∧
      k.change w i r x = .redirect t n ∧ (k.next w r x).role = .fallback t .redirected) := by
  have hno (h : ∀ t n, k.role ≠ .fallback t (.found n)) (t : Timer) (n : ℕ) :
      k.change w i r x ≠ .redirect t n := by
    intro heq
    obtain h' | ⟨_, _, _, _, _, -, -, -, h'⟩ | ⟨_, _, _, _, _, _, _, -, -, -, h'⟩ |
      ⟨t, n, _, _, _, _, hrole, -⟩ := change_cases w i k r x
    · rw [h'] at heq
      unfold Request.change at heq
      split at heq <;> first | cases heq | skip
      split at heq <;> cases heq
    · rw [h'] at heq
      cases heq
    · rw [h'] at heq
      cases heq
    · exact h t n hrole
  obtain ⟨role, inLock⟩ := k
  cases role with
  | fallback t stage =>
    cases stage with
    | untested =>
      refine .inl ⟨hno (by simp), ?_⟩
      cases r <;> first | exact absurd ht id | skip
      obtain rfl : _ = bridgeQueueId t.switchboardUuid := ht
      cases x with
      | bridge json =>
        obtain ⟨⟨-, hperm⟩, -⟩ := Option.ite_none_right_eq_some.mp ha
        obtain ⟨hc, p, hp, hb, hstage⟩ | ⟨-, hstage⟩ :=
          stage_cases (c := t.callId) FallbackStage.found .missed hperm
        · exact .inr ⟨t, p, rfl, rfl, ⟨_, json, rfl, rfl, hc⟩, hp, hb,
            congrArg (Role.fallback t) hstage⟩
        · refine .inl fun t' n h => ?_
          have : (Role.fallback t .missed) = .fallback t' (.found n) :=
            (congrArg (Role.fallback t) hstage).symm.trans h
          cases this
      | failure f => exact .inl fun t n h => by cases h
      | _ => cases ha
    | found n =>
      cases r <;> first | exact absurd ht id | skip
      cases x with
      | done => exact .inr ⟨t, n, _, _, _, _, rfl, rfl, rfl, rfl, rfl⟩
      | failure f =>
        exact .inl ⟨by simp [Phase.change, Request.change], .inl fun t n h => by cases h⟩
      | _ => cases ha
    | missed => cases r <;> exact absurd ht id
    | redirected => cases r <;> exact absurd ht id
  | answering sb c stage => exact .inl ⟨hno (by simp), .inl fun t n h => by cases h⟩
  | queueing sb c stage => exact .inl ⟨hno (by simp), .inl fun t n h => by cases h⟩
  | other => exact .inl ⟨hno (by simp), .inl fun t n h => by cases h⟩

/-- Only a redirect is new among the fallbacks. -/
theorem fallbacks_apply {ch : Change} (h : ∀ t n, ch ≠ .redirect t n) :
    (w.apply ch).fallbacks = w.fallbacks := by
  cases ch with
  | redirect t n => exact absurd rfl (h t n)
  | _ => rfl

/-- An offer is the answer to an originate. -/
theorem offer_request {o : Offer} (h : k.change w i r x = .offer o) :
    (∃ request, r = .originate request) ∧ ∃ value, x = .text value := by
  obtain h' | ⟨_, _, _, request, value, -, hr, hx, -⟩ | ⟨_, _, _, _, _, _, _, -, -, -, h'⟩ |
    ⟨_, _, _, _, _, _, -, -, -, h'⟩ := change_cases w i k r x
  · rw [h'] at h
    unfold Request.change at h
    split at h <;> first | cases h | skip
    split at h <;> cases h
  · exact ⟨⟨request, hr⟩, value, hx⟩
  · rw [h'] at h
    cases h
  · rw [h'] at h
    cases h

end Steps

/-! ## One place -/

/-- No call is both sent to the fallback and offered to an operator in one stay. -/
def OnePlace (s : SwitchboardPool) : Prop :=
  ∀ f ∈ s.world.fallbacks, ∀ o ∈ s.world.offers, ¬ (o.callId = f.callId ∧ o.entry = f.entry)

/-- A timer does not find a call for which an operator was originated in this stay. -/
def Phase.Clear (w : World) (k : Phase) (r : Request) (x : Answer) : Bool :=
  match k.role, r, x with
  | .fallback t .untested, .bridgesGet _, .bridge json =>
    t.callId ∈ json.channels → ∀ p ∈ w.place.get t.callId, ∀ o ∈ w.offers,
      ¬ (o.callId = t.callId ∧ o.entry = p.entry)
  | _, _, _ => true

/-- A request has found a call to answer it, and a timer has found it in the same stay. -/
def Phase.Contends : Phase → Phase → Bool
  | ⟨.answering _ c (.found n), true⟩, ⟨.fallback t (.found m), _⟩ => c = t.callId ∧ n = m
  | ⟨.fallback t (.found m), _⟩, ⟨.answering _ c (.found n), true⟩ => c = t.callId ∧ n = m
  | _, _ => false

/-- The answers that originate an operator or redirect a call. -/
def Request.Decides : Request → Answer → Bool
  | .originate _, .text _ => true
  | .continueInDialplan .., .done => true
  | _, _ => false

/-- A timer and an answer request are not in each other's way: the timer does not find a call
for which somebody was originated, and neither goes on while the other has found the call in
the same stay. -/
def Apart (w : World) (ph : ℕ → Option Phase) (i : ℕ) (x : Answer) (r : Request) : Prop :=
  ∀ k ∈ ph i, k.Clear w r x ∧ (r.Decides x → ∀ j, ∀ k' ∈ ph j, ¬ k.Contends k')

/-- A call that a timer has found has not been offered. -/
def Phase.Unoffered (w : World) (k : Phase) : Prop :=
  match k.role with
  | .fallback t (.found n) =>
    n < w.entries ∧ ∀ o ∈ w.offers, ¬ (o.callId = t.callId ∧ o.entry = n)
  | _ => True

/-- A call that has been sent to the fallback is not offered, nor found in the stay again. -/
def Fallback.Alone (f : Fallback) (w : World) (ph : ℕ → Option Phase) : Prop :=
  f.entry < w.entries ∧ (∀ o ∈ w.offers, ¬ (o.callId = f.callId ∧ o.entry = f.entry)) ∧
    (∀ i sb, ph i ≠ some ⟨.answering sb f.callId (.found f.entry), true⟩) ∧
    ∀ p, w.place.get f.callId = some p → p.entry ≠ f.entry

structure Separate (w : World) (ph : ℕ → Option Phase) : Prop where
  fresh : ∀ c p, w.place.get c = some p → p.entry < w.entries
  found : ∀ i k, ph i = some k → k.Unoffered w
  alone : ∀ f ∈ w.fallbacks, f.Alone w ph

section OnePlace

variable {w w' : World} {ph : ℕ → Option Phase} {k : Phase} {r : Request} {x : Answer}
  {a : Except Exn r.Reply} {i : ℕ}

theorem Phase.Unoffered.drift (h : k.Unoffered w) (hd : w.Drifts w') : k.Unoffered w' := by
  unfold Phase.Unoffered at h ⊢
  split at h
  · rw [hd.offers]
    exact ⟨lt_of_lt_of_le h.1 hd.entries, h.2⟩
  · trivial

/-- A fallback stays alone while the world drifts and nobody finds its stay. -/
theorem Fallback.Alone.drift {f : Fallback} (h : f.Alone w ph) (hd : w.Drifts w')
    {ph' : ℕ → Option Phase}
    (hph : ∀ i sb, ph' i ≠ some ⟨.answering sb f.callId (.found f.entry), true⟩) :
    f.Alone w' ph' := by
  obtain ⟨hlt, hoffers, -, hplace⟩ := h
  refine ⟨lt_of_lt_of_le hlt hd.entries, hd.offers ▸ hoffers, hph, fun p hp hn => ?_⟩
  exact hplace p (hd.place_old hp (hn ▸ hlt)) hn

/-- No answer request finds the stay of a fallback. -/
theorem Separate.next_found (h : Separate w ph) (hk : ph i = some k)
    (ht : k.role.takes k.inLock r) (ha : r.reply w x = some a) {f : Fallback}
    (hf : f ∈ w.fallbacks) (sb : String) :
    k.next w r x ≠ ⟨.answering sb f.callId (.found f.entry), true⟩ := by
  obtain ⟨-, -, hasking, hplace⟩ := h.alone f hf
  intro hnext
  have hrole : (k.next w r x).role = .answering sb f.callId (.found f.entry) := by rw [hnext]
  have hlock : (k.next w r x).inLock = true := by rw [hnext]
  obtain ⟨-, hstage⟩ | ⟨_, _, _, -, -, hoffered⟩ := next_cases (i := i) ht ha
  · obtain hsame | hother | ⟨_, _, -, hrefused⟩ | ⟨_, _, p, -, -, -, hp, -, hfound⟩ |
      ⟨_, _, _, -, hleft | hleft⟩ := hstage
    · -- it would have found the call before, and have the lock
      have hkrole : k.role = .answering sb f.callId (.found f.entry) := hsame ▸ hrole
      have hklock : k.inLock = true := by
        obtain ⟨rfl, -⟩ | ⟨-, hkl, -⟩ | ⟨hl, -⟩ := lock_cases (i := i) ht ha
        · rw [hkrole] at ht
          exact absurd ht id
        · exact hkl
        · exact hl ▸ hlock
      refine hasking i sb (hk.trans (congrArg some ?_))
      obtain ⟨role, inLock⟩ := k
      obtain rfl : role = _ := hkrole
      obtain rfl : inLock = true := hklock
      rfl
    · exact (hother _ _ _).2 hrole
    · rw [hrole] at hrefused
      cases hrefused
    · rw [hrole] at hfound
      injection hfound with _ hcall hentry
      exact hplace p (hcall ▸ hp) (AnswerStage.found.inj hentry).symm
    · rw [hrole] at hleft
      cases hleft
    · rw [hrole] at hleft
      cases hleft
  · rw [hnext] at hoffered
    cases hoffered

/-- A call that a timer finds has not been offered, and stays so. -/
theorem Separate.unoffered_next (h : Separate w ph) (hk : ph i = some k)
    (ht : k.role.takes k.inLock r) (ha : r.reply w x = some a) (hC : Apart w ph i x r)
    (hno : ∀ o, k.change w i r x ≠ .offer o) :
    (k.next w r x).Unoffered (w.apply (k.change w i r x)) := by
  unfold Phase.Unoffered
  obtain ⟨-, hnot | ⟨t, p, hrole, hnothing, ⟨id, json, rfl, rfl, hc⟩, hp, -, hnext⟩⟩ |
    ⟨t, n, _, _, _, _, -, -, -, -, hnext⟩ := fallback_cases (i := i) ht ha
  · split
    · next hrole => exact absurd hrole (hnot _ _)
    · trivial
  · rw [hnext, hnothing]
    have hclear := (hC k hk).1
    simp only [Phase.Clear, hrole, decide_eq_true_eq] at hclear
    exact ⟨h.fresh _ p hp, hclear hc p hp⟩
  · rw [hnext]
    trivial

/-- An answer keeps the invariant. -/
theorem Separate.answer (h : Separate w ph) (hk : ph i = some k)
    (ht : k.role.takes k.inLock r) (ha : r.reply w x = some a) (hC : Apart w ph i x r) :
    Separate (w.apply (k.change w i r x)) (Function.update ph i (some (k.next w r x))) := by
  have hask {f : Fallback} (hf : f ∈ w.fallbacks) (j : ℕ) (sb : String) :
      Function.update ph i (some (k.next w r x)) j ≠
        some ⟨.answering sb f.callId (.found f.entry), true⟩ := by
    intro hj
    obtain ⟨rfl, hnext⟩ | ⟨-, hold⟩ := System.update_cases hj
    · exact h.next_found hk ht ha hf sb hnext.symm
    · exact (h.alone f hf).2.2.1 j sb hold
  obtain ⟨hno, -⟩ | ⟨sb, c, n, rfl, hoffer, hnext⟩ := next_cases (i := i) ht ha
  · have hdrift := drifts_apply (w := w) hno
    have hself := h.unoffered_next hk ht ha hC hno
    refine ⟨hdrift.fresh h.fresh, ?_, fun f hf => ?_⟩
    · exact System.forall_update (fun j l hj => (h.found j l hj).drift hdrift) hself
    obtain ⟨hredirect, -⟩ | ⟨t, n, _, _, _, _, hrole, rfl, rfl, hredirect, hnext⟩ :=
      fallback_cases (i := i) ht ha
    · rw [fallbacks_apply hredirect] at hf
      exact (h.alone f hf).drift hdrift (hask hf)
    · rw [hredirect] at hf hdrift ⊢
      rcases List.mem_cons.mp hf with rfl | hf
      · -- the call leaves the stay, in which nobody was originated
        have hfound := h.found i k hk
        unfold Phase.Unoffered at hfound
        rw [hrole] at hfound
        refine ⟨hfound.1, hfound.2, fun j sb hj => ?_, fun p hp => ?_⟩
        · obtain ⟨rfl, hsame⟩ | ⟨-, hold⟩ := System.update_cases hj
          · rw [← hsame] at hnext
            cases hnext
          · refine (hC k hk).2 rfl j _ hold ?_
            obtain ⟨role, inLock⟩ := k
            obtain rfl : role = _ := hrole
            simp [Phase.Contends]
        · change (w.place.pop t.callId).get t.callId = some p at hp
          rw [Dict.get_pop, if_pos rfl] at hp
          cases hp
      · exact (h.alone f hf).drift hdrift (hask hf)
  · rw [hoffer]
    refine ⟨h.fresh, fun j l hj => ?_, fun f hf => ?_⟩
    · obtain ⟨-, rfl⟩ | ⟨hne, hold⟩ := System.update_cases hj
      · rw [hnext]
        trivial
      · have hl := h.found j l hold
        unfold Phase.Unoffered at hl ⊢
        split
        · next t m hrole =>
          rw [hrole] at hl
          refine ⟨hl.1, fun o ho => ?_⟩
          rcases List.mem_cons.mp ho with rfl | ho
          · -- it is not found by a timer while the operator is originated
            rintro ⟨rfl, rfl⟩
            obtain ⟨⟨request, rfl⟩, value, rfl⟩ := offer_request hoffer
            refine (hC _ hk).2 rfl j l hold ?_
            obtain ⟨role, inLock⟩ := l
            obtain rfl : role = _ := hrole
            simp [Phase.Contends]
          · exact hl.2 o ho
        · trivial
    · obtain ⟨hlt, hoffers, hasking, hplace⟩ := h.alone f hf
      refine ⟨hlt, fun o ho => ?_, hask hf, hplace⟩
      rcases List.mem_cons.mp ho with rfl | ho
      · rintro ⟨rfl, rfl⟩
        exact hasking i sb hk
      · exact hoffers o ho

/-- What concerns neither the calls that are offered nor those that are redirected. -/
theorem Separate.drift (h : Separate w ph) (hd : w.Drifts w')
    (hfallbacks : w'.fallbacks = w.fallbacks) : Separate w' ph where
  fresh := hd.fresh h.fresh
  found j l hj := (h.found j l hj).drift hd
  alone f hf := by
    have halone := h.alone f (hfallbacks ▸ hf)
    exact halone.drift hd halone.2.2.1

/-- A program that starts has found nothing. -/
theorem Separate.start (h : Separate w ph) (hrole : (∀ t n, k.role ≠ .fallback t (.found n)) ∧
    ∀ sb c n, k.role ≠ .answering sb c (.found n)) :
    Separate w (Function.update ph i (some k)) where
  fresh := h.fresh
  found := by
    refine System.forall_update h.found ?_
    unfold Phase.Unoffered
    split
    · next heq => exact absurd heq (hrole.1 _ _)
    · trivial
  alone f hf := by
    refine (h.alone f hf).drift (.refl w) fun j sb hj => ?_
    obtain ⟨-, hself⟩ | ⟨-, hold⟩ := System.update_cases hj
    · exact hrole.2 _ _ _ (congrArg Phase.role hself.symm)
    · exact (h.alone f hf).2.2.1 j sb hold

end OnePlace

/-- In every run in which they are not in each other's way, the invariant holds. -/
theorem separate_of_reaches {s : SwitchboardPool}
    (h : switchboards.machine.Reaches (System.Answers Apart) s) : Separate s.world s.phases := by
  refine System.invariant_phases (I := Separate) launch_keeps ?_ ?_ ?_ ?_ h
  · rintro w ⟨hfresh, -, -, -, -, hfallbacks⟩
    refine ⟨hfresh, fun _ _ hk => ?_, ?_⟩
    · cases hk
    · rw [hfallbacks]
      exact fun f hf => absurd hf List.not_mem_nil
  · intro w ph i job w' k p hinv hi hl
    obtain ⟨rfl, ⟨sb, c, rfl⟩ | ⟨sb, c, rfl⟩ | rfl⟩ | ⟨n, t, -, -, rfl, rfl⟩ := launch_cases hl
    · exact hinv.start ⟨by simp, by simp⟩
    · exact hinv.start ⟨by simp, by simp⟩
    · exact hinv.start ⟨by simp, by simp⟩
    · have hdrift : w.Drifts { w with timers := w.timers.eraseIdx n } :=
        ⟨rfl, le_rfl, fun _ _ => .inl⟩
      exact (hinv.drift hdrift rfl).start ⟨by simp, by simp⟩
  · rintro w ph i x k r y hinv hk ht hC ha
    obtain ⟨a, hreply, rfl⟩ := Option.map_eq_some_iff.mp ha
    exact hinv.answer hk ht hreply hC
  · intro w ph e w' hinv he
    have hfallbacks : w'.fallbacks = w.fallbacks := by
      cases e with
      | tick time =>
        cases he
        rfl
      | move c b =>
        cases b with
        | none =>
          cases he
          rfl
        | some b =>
          cases he
          rfl
    exact hinv.drift (outside_drifts he).1 hfallbacks

/-- **As long as the timers and the answer requests are not in each other's way, no call is both
sent to the fallback and offered to an operator in one stay.** -/
theorem calls_go_to_one_place {s : SwitchboardPool}
    (h : switchboards.machine.Reaches (System.Answers Apart) s) : OnePlace s :=
  fun f hf o ho => ((separate_of_reaches h).alone f hf).2.1 o ho

/-! ## A timer and an operator -/

/-- A call enters the queue of a switchboard that has a timeout and a fallback. -/
def queues (i : ℕ) : List SwitchboardLabel :=
  [.start i (.stasisStart ⟨"1.1", ["switchboard", "switchboard_queue", "tenant", "red"], none⟩),
    .answer i unqueued, .answer i (.switchboard ⟨none, none⟩), .answer i .done,
    .answer i (.channel ⟨"1.1", ⟨"caller", "1000"⟩⟩), .answer i .done, .answer i .done,
    .answer i .done, .answer i .done, .answer i (.switchboard ⟨none, none⟩), .answer i queued,
    .answer i (.channel ⟨"1.1", ⟨"caller", "1000"⟩⟩), .answer i .done, .answer i (.text "10"),
    .answer i (.text "ivr"), .answer i .done]

/-- The timer fires, and finds the call. -/
def fires (i : ℕ) : List SwitchboardLabel :=
  [.outside (.tick 10), .start i (.noanswerTimeout 0), .answer i queued]

/-- An operator answers between the two steps of the timer. -/
def answeredMeanwhile : List SwitchboardLabel :=
  queues 0 ++ fires 1 ++
    [.start 2 (.answerQueuedCall "tenant" "red" "1.1" "alice" none)] ++ finds 2 ++ originates 2 ++
    [.answer 1 .done]

/-- **The call is redirected, and the operator was originated for it.** -/
theorem redirected_and_offered :
    ¬ ∀ s, switchboards.machine.Reachable s → OnePlace s := by
  intro hall
  have hone := hall _ (after_reaches (Machine.meets_true answeredMeanwhile noCalls))
  have hfallbacks : (after answeredMeanwhile).world.fallbacks =
      [⟨"red", "1.1", 0, some ⟨redQueue, 0, 0⟩, 10⟩] := rfl
  have hoffers : (after answeredMeanwhile).world.offers = [⟨2, "1.1", 0⟩] := rfl
  refine hone _ (by rw [hfallbacks]; exact List.mem_singleton_self _) _
    (by rw [hoffers]; exact List.mem_singleton_self _) ⟨rfl, rfl⟩

/-- The same among the programs below a number. -/
def ApartBelow (n : ℕ) (w : World) (ph : ℕ → Option Phase) (i : ℕ) (x : Answer) (r : Request) :
    Prop :=
  ∀ k ∈ ph i, k.Clear w r x ∧ (r.Decides x → ∀ j < n, ∀ k' ∈ ph j, ¬ k.Contends k')

instance (n : ℕ) (w : World) (ph : ℕ → Option Phase) (i : ℕ) (x : Answer) (r : Request) :
    Decidable (ApartBelow n w ph i x r) :=
  inferInstanceAs (Decidable (∀ k ∈ ph i, k.Clear w r x ∧
    (r.Decides x → ∀ j < n, ∀ k' ∈ ph j, ¬ k.Contends k')))

theorem meets_apart {n : ℕ} {as : List SwitchboardLabel} {s : SwitchboardPool}
    (hidle : ∀ j, n ≤ j → s.tasks j = none) (has : ∀ a ∈ as, ∀ i job, a = .start i job → i < n)
    (h : switchboards.machine.Meets (System.Answers (ApartBelow n)) as s) :
    switchboards.machine.Meets (System.Answers Apart) as s := by
  induction as generalizing s with
  | nil => trivial
  | cons a as ih =>
    refine ⟨?_, fun t ht => ih (fun j hj => ?_) (fun b hb => has b (List.mem_cons_of_mem a hb))
      (h.2 t ht)⟩
    · cases a with
      | start i job => trivial
      | outside e => trivial
      | answer i x =>
        intro r hr k hk
        obtain ⟨hclear, hapart⟩ := h.1 r hr k hk
        refine ⟨hclear, fun hdecides j k' hk' => ?_⟩
        by_cases hj : j < n
        · exact hapart hdecides j hj k' hk'
        · have hnone : s.phases j = none := by simp [Pool.phases, hidle j (by omega)]
          rw [hnone] at hk'
          cases hk'
    · have hrun : switchboards.machine.run [a] s = some t := by
        simpa [Machine.run] using ht
      refine System.idle_run (hidle j hj) (fun b hb job heq => ?_) hrun
      have hlt := has b (by simpa using Or.inl (List.mem_singleton.mp hb)) j job heq
      omega

/-- The timer redirects the call, which is queued again, and an operator answers it. -/
def redirectedFirst : List SwitchboardLabel :=
  queues 0 ++ fires 1 ++ [.answer 1 .done, .outside (.move "1.1" (some redQueue)),
    .start 2 (.answerQueuedCall "tenant" "red" "1.1" "alice" none)] ++ finds 2 ++ originates 2 ++
    leaves 2

/-- The call is redirected in one stay and offered in another. -/
theorem redirected_then_offered :
    (after redirectedFirst).world.fallbacks = [⟨"red", "1.1", 0, some ⟨redQueue, 0, 0⟩, 10⟩] ∧
      (after redirectedFirst).world.offers = [⟨2, "1.1", 1⟩] ∧ OnePlace (after redirectedFirst) := by
  have hstarts : ∀ a ∈ redirectedFirst, ∀ i job, a = .start i job → i < 3 := by
    intro a ha i job heq
    subst heq
    simp [redirectedFirst, queues, fires, finds, originates, leaves] at ha
    omega
  have hmeets : switchboards.machine.Meets (System.Answers (ApartBelow 3)) redirectedFirst
      noCalls := by
    decide
  exact ⟨rfl, rfl, calls_go_to_one_place
    (after_reaches (meets_apart (fun _ _ => rfl) hstarts hmeets))⟩

end Calld.Switchboards
