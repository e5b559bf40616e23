/-
# One operator for every stay in a queue

`answer_queued_call` originates the operator before it takes the call out of the queue.  The
lock spans the test, the originate and the removal, so another answer request tests either
before the originate, and waits, or after the removal, and does not find the call.

What the proof asks of Asterisk is that the removal succeeds: `removeChannel` takes the
channel out, or tells that it is not in the bridge.
-/
import Calld.Switchboards.Phases

namespace Calld.Switchboards

open Effect Effect.Interactive

/-! ## What an answer does -/

section Steps

variable {w : World} {k : Phase} {r : Request} {x : Answer} {a : Except Exn r.Reply} {i : ℕ}

/-- What is done for a request: what the request does, an offer, a timer or a redirect. -/
theorem change_cases (w : World) (i : ℕ) (k : Phase) (r : Request) (x : Answer) :
    k.change w i r x = r.change w x ∨
    (∃ sb c n o value, k.role = .answering sb c (.found n) ∧ r = .originate o ∧
      x = .text value ∧ k.change w i r x = .offer ⟨i, c, n⟩) ∨
    (∃ sb c n delay tenant sb' c', k.role = .queueing sb c (.entered n) ∧
      r = .callLater delay tenant sb' c' ∧ x = .done ∧
      k.change w i r x = .arm ⟨w.now + delay, delay, sb, c, n⟩) ∨
    (∃ t n c ctx ext prio, k.role = .fallback t (.found n) ∧
      r = .continueInDialplan c ctx ext prio ∧ x = .done ∧
      k.change w i r x = .redirect t n) := by
  obtain ⟨role, inLock⟩ := k
  unfold Phase.change
  dsimp only
  split
  · exact .inr (.inl ⟨_, _, _, _, _, rfl, rfl, rfl, rfl⟩)
  · exact .inr (.inr (.inl ⟨_, _, _, _, _, _, _, rfl, rfl, rfl, rfl⟩))
  · exact .inr (.inr (.inr ⟨_, _, _, _, _, _, rfl, rfl, rfl, rfl⟩))
  · exact .inl rfl

/-- A request that is not about the lock leaves it as it is. -/
theorem locked_apply (w : World) (i : ℕ) (k : Phase) (x : Answer) (ha : r ≠ .acquire) (hr : r ≠ .release) :
    (w.apply (k.change w i r x)).locked = w.locked := by
  obtain h | ⟨_, _, _, _, _, -, -, -, h⟩ | ⟨_, _, _, _, _, _, _, -, -, -, h⟩ |
    ⟨_, _, _, _, _, _, -, -, -, h⟩ := change_cases w i k r x
  · rw [h]
    unfold Request.change
    split <;> first | rfl | exact absurd rfl ha | exact absurd rfl hr | skip
    split <;> rfl
  · rw [h]; rfl
  · rw [h]; rfl
  · rw [h]; rfl

theorem takes_acquire {role : Role} {inLock : Bool} (h : role.takes inLock .acquire) :
    inLock = false := by
  cases role with
  | answering sb c stage =>
    cases stage <;> first | exact h | exact absurd h id
  | queueing sb c stage => cases stage <;> exact absurd h id
  | fallback t stage => cases stage <;> exact absurd h id
  | other => exact h

theorem takes_release {role : Role} {inLock : Bool} (h : role.takes inLock .release) :
    inLock = true := by
  cases role with
  | answering sb c stage =>
    cases stage <;> first | exact h | exact absurd h id
  | queueing sb c stage => cases stage <;> exact absurd h id
  | fallback t stage => cases stage <;> exact absurd h id
  | other => exact h

/-- The lock requests do nothing else. -/
theorem change_lock (hr : r = .acquire ∨ r = .release) : k.change w i r x = r.change w x := by
  obtain h | ⟨_, _, _, _, _, -, h, -⟩ | ⟨_, _, _, _, _, _, _, -, h, -⟩ |
    ⟨_, _, _, _, _, _, -, h, -⟩ := change_cases w i k r x
  · exact h
  all_goals
    subst h
    rcases hr with h | h <;> cases h

/-- The lock after an answer: it is taken when it is free, and given back by who has it. -/
theorem lock_cases (ht : k.role.takes k.inLock r) (ha : r.reply w x = some a) :
    (r = .acquire ∧ w.locked = false ∧ k.inLock = false ∧ (k.next w r x).inLock = true ∧
      (w.apply (k.change w i r x)).locked = true) ∨
    (r = .release ∧ k.inLock = true ∧ (k.next w r x).inLock = false ∧
      (w.apply (k.change w i r x)).locked = false) ∨
    ((k.next w r x).inLock = k.inLock ∧ (w.apply (k.change w i r x)).locked = w.locked) := by
  by_cases hacquire : r = .acquire
  · subst hacquire
    cases x with
    | done =>
      have hfree : w.locked = false := by
        have := (Option.ite_none_left_eq_some.mp ha).1
        simpa using this
      refine .inl ⟨rfl, hfree, takes_acquire ht, rfl, ?_⟩
      rw [change_lock (.inl rfl)]
      rfl
    | _ => cases ha
  by_cases hrelease : r = .release
  · subst hrelease
    refine .inr (.inl ⟨rfl, takes_release ht, rfl, ?_⟩)
    rw [change_lock (.inr rfl)]
    rfl
  · refine .inr (.inr ⟨?_, locked_apply w i k x hacquire hrelease⟩)
    cases r <;> first | rfl | exact absurd rfl hacquire | exact absurd rfl hrelease

/-- Only an answer request that has found the call makes an offer. -/
theorem no_offer (h : ∀ sb c n, k.role ≠ .answering sb c (.found n)) (o : Offer) :
    k.change w i r x ≠ .offer o := by
  intro heq
  obtain h' | ⟨sb, c, n, _, _, hrole, -⟩ | ⟨_, _, _, _, _, _, _, -, -, -, h'⟩ |
    ⟨_, _, _, _, _, _, -, -, -, h'⟩ := change_cases w i k r x
  · rw [h'] at heq
    unfold Request.change at heq
    split at heq <;> first | cases heq | skip
    split at heq <;> cases heq
  · exact h sb c n hrole
  · rw [h'] at heq
    cases heq
  · rw [h'] at heq
    cases heq

/-- Nothing but an offer is new in the world, and stays that begin have new numbers. -/
structure World.Drifts (w w' : World) : Prop where
  offers : w'.offers = w.offers
  entries : w.entries ≤ w'.entries
  place : ∀ c p, w'.place.get c = some p →
    w.place.get c = some p ∨ (w.entries ≤ p.entry ∧ p.entry < w'.entries)

theorem World.Drifts.refl (w : World) : w.Drifts w := ⟨rfl, le_rfl, fun _ _ => .inl⟩

theorem drifts_apply {ch : Change} (h : ∀ o, ch ≠ .offer o) : w.Drifts (w.apply ch) := by
  have hpop (c : String) (w' : World) (hoffers : w'.offers = w.offers)
      (hentries : w'.entries = w.entries) (hplace : w'.place = w.place.pop c) : w.Drifts w' := by
    refine ⟨hoffers, hentries.ge, fun c' p hp => .inl ?_⟩
    rw [hplace, Dict.get_pop] at hp
    split at hp
    · cases hp
    · exact hp
  cases ch with
  | nothing => exact .refl w
  | acquire => exact ⟨rfl, le_rfl, fun _ _ => .inl⟩
  | release => exact ⟨rfl, le_rfl, fun _ _ => .inl⟩
  | arm t => exact ⟨rfl, le_rfl, fun _ _ => .inl⟩
  | offer o => exact absurd rfl (h o)
  | leave c => exact hpop c _ rfl rfl rfl
  | redirect t n => exact hpop t.callId _ rfl rfl rfl
  | enter c b =>
    refine ⟨rfl, Nat.le_succ _, fun c' p hp => ?_⟩
    change (w.place.set c _).get c' = some p at hp
    rw [Dict.get_set] at hp
    split at hp
    · cases hp
      exact .inr ⟨le_rfl, Nat.lt_succ_self _⟩
    · exact .inl hp

/-- How far an answer request gets with an answer; the other programs make no offer. -/
theorem next_cases (ht : k.role.takes k.inLock r) (ha : r.reply w x = some a) :
    ((∀ o, k.change w i r x ≠ .offer o) ∧ ((k.next w r x).role = k.role ∨
      (∀ sb c st, k.role ≠ .answering sb c st ∧ (k.next w r x).role ≠ .answering sb c st) ∨
      (∃ sb c, k.role = .answering sb c .untested ∧
        (k.next w r x).role = .answering sb c .refused) ∨
      (∃ sb c p, k.role = .answering sb c .untested ∧ (k.next w r x).inLock = k.inLock ∧
        k.change w i r x = .nothing ∧ w.place.get c = some p ∧ p.bridge = bridgeQueueId sb ∧
          (k.next w r x).role = .answering sb c (.found p.entry)) ∨
      (∃ sb c n, k.role = .answering sb c (.offered n) ∧
        ((k.next w r x).role = .answering sb c (.cleared n) ∨
          (k.next w r x).role = .answering sb c (.kept n))))) ∨
    (∃ sb c n, k = ⟨.answering sb c (.found n), true⟩ ∧ k.change w i r x = .offer ⟨i, c, n⟩ ∧
      k.next w r x = ⟨.answering sb c (.offered n), true⟩) := by
  obtain ⟨role, inLock⟩ := k
  cases role with
  | answering sb c stage =>
    cases stage with
    | untested =>
      refine .inl ⟨no_offer (by simp), ?_⟩
      cases r <;> first | exact absurd ht id | exact .inl rfl | skip
      obtain rfl : _ = bridgeQueueId sb := ht
      cases x with
      | bridge json =>
        obtain ⟨⟨-, hperm⟩, -⟩ := Option.ite_none_right_eq_some.mp ha
        obtain ⟨-, p, hp, hb, hstage⟩ | ⟨-, hstage⟩ :=
          stage_cases (c := c) AnswerStage.found .refused hperm
        · exact .inr (.inr (.inr (.inl ⟨sb, c, p, rfl, rfl, rfl, hp, hb,
            congrArg (Role.answering sb c) hstage⟩)))
        · exact .inr (.inr (.inl ⟨sb, c, rfl, congrArg (Role.answering sb c) hstage⟩))
      | failure f =>
        cases f <;> first | exact .inl rfl | exact .inr (.inr (.inl ⟨sb, c, rfl, rfl⟩))
      | _ => cases ha
    | found n =>
      cases r <;> first | exact absurd ht id | skip
      case originate o =>
        obtain rfl : inLock = true := ht
        cases x with
        | text value => exact .inr ⟨sb, c, n, rfl, rfl, rfl⟩
        | failure f => exact .inl ⟨by simp [Phase.change, Request.change], .inl rfl⟩
        | _ => cases ha
      all_goals exact .inl ⟨by simp [Phase.change, Request.change], .inl rfl⟩
    | offered n =>
      refine .inl ⟨no_offer (by simp), ?_⟩
      have hsplit (P : Prop) [Decidable P] :
          Role.answering sb c (if P then .cleared n else .kept n) = .answering sb c (.cleared n) ∨
            Role.answering sb c (if P then .cleared n else .kept n) = .answering sb c (.kept n) := by
        split
        · exact .inl rfl
        · exact .inr rfl
      cases r <;> first | exact absurd ht id | skip
      · cases x with
        | bridge json => exact .inl rfl
        | failure f => exact .inr (.inr (.inr (.inr ⟨sb, c, n, rfl, hsplit _⟩)))
        | _ => cases ha
      · cases x with
        | done => exact .inr (.inr (.inr (.inr ⟨sb, c, n, rfl, .inl rfl⟩)))
        | failure f => exact .inr (.inr (.inr (.inr ⟨sb, c, n, rfl, hsplit _⟩)))
        | _ => cases ha
    | cleared n => exact .inl ⟨no_offer (by simp), .inl (by cases r <;> rfl)⟩
    | kept n => exact .inl ⟨no_offer (by simp), .inl (by cases r <;> rfl)⟩
    | refused => exact .inl ⟨no_offer (by simp), .inl (by cases r <;> rfl)⟩
  | queueing sb c stage =>
    exact .inl ⟨no_offer (by simp), .inr (.inl (by simp [Phase.next, Role.next]))⟩
  | fallback t stage =>
    exact .inl ⟨no_offer (by simp), .inr (.inl (by simp [Phase.next, Role.next]))⟩
  | other => exact .inl ⟨no_offer (by simp), .inl rfl⟩

end Steps

/-! ## The assumption -/

/-- What Asterisk answers to the removal: a bridge is found or there is none, and
`removeChannel` takes the channel out or tells that it is not in the bridge any more. -/
def Request.removed (w : World) : Request → Answer → Bool
  | .bridgesGet _, .failure f => f = .ariNotFound
  | .removeChannel b c, .failure f =>
    (f = .ariNotFound ∨ f = .ariUnprocessable) ∧ c ∉ w.channelsOf b
  | _, _ => true

/-- Asterisk answers so to the answer requests that have originated an operator. -/
def removes (w : World) (ph : ℕ → Option Phase) (i : ℕ) (x : Answer) (r : Request) : Bool :=
  match ph i with
  | some ⟨.answering _ _ (.offered _), _⟩ => r.removed w x
  | _ => true

/-! ## The invariant -/

/-- What is known of an answer request that has found the call or offered it: the stay is one
of the queue, and as long as it has the lock nobody else has offered the call. -/
def Phase.Sound (w : World) (k : Phase) : Prop :=
  match k.role with
  | .answering sb c (.found n) =>
    n < w.entries ∧ (∀ p, w.place.get c = some p → p.entry = n → p.bridge = bridgeQueueId sb) ∧
      (k.inLock = true → ∀ o ∈ w.offers, ¬ (o.callId = c ∧ o.entry = n))
  | .answering sb c (.offered n) =>
    k.inLock = true ∧ n < w.entries ∧
      ∀ p, w.place.get c = some p → p.entry = n → p.bridge = bridgeQueueId sb
  | _ => True

/-- The call of an offer is out of the stay, unless the request is still to take it out. -/
def Offer.Settled (o : Offer) (w : World) (ph : ℕ → Option Phase) : Prop :=
  o.entry < w.entries ∧
    ((∃ i sb, ph i = some ⟨.answering sb o.callId (.offered o.entry), true⟩) ∨
      ∀ p, w.place.get o.callId = some p → p.entry ≠ o.entry)

/-- The request that made an offer has not refused. -/
def Offer.Made (o : Offer) (ph : ℕ → Option Phase) : Prop :=
  ∃ k sb st, ph o.request = some k ∧ k.role = .answering sb o.callId st ∧ st ≠ .refused ∧
    st ≠ .untested

structure Exclusive (w : World) (ph : ℕ → Option Phase) : Prop where
  fresh : ∀ c p, w.place.get c = some p → p.entry < w.entries
  locked : ∀ i k, ph i = some k → k.inLock = true → w.locked = true
  unique : ∀ i j k k', ph i = some k → ph j = some k' → k.inLock = true → k'.inLock = true → i = j
  sound : ∀ i k, ph i = some k → k.Sound w
  settled : ∀ o ∈ w.offers, o.Settled w ph
  made : ∀ o ∈ w.offers, o.Made ph
  once : w.offers.Pairwise fun o o' => ¬ (o.callId = o'.callId ∧ o.entry = o'.entry)

section Invariant

variable {w w' : World} {ph : ℕ → Option Phase} {k : Phase} {r : Request} {x : Answer}
  {a : Except Exn r.Reply} {i : ℕ}

/-- A stay that has begun is not entered again. -/
theorem World.Drifts.place_old (hd : w.Drifts w') {c : String} {p : Place}
    (hp : w'.place.get c = some p) (hlt : p.entry < w.entries) : w.place.get c = some p := by
  rcases hd.place c p hp with h | ⟨h, -⟩
  · exact h
  · omega

theorem World.Drifts.fresh (hd : w.Drifts w')
    (h : ∀ c p, w.place.get c = some p → p.entry < w.entries) (c : String) (p : Place)
    (hp : w'.place.get c = some p) : p.entry < w'.entries := by
  rcases hd.place c p hp with hold | ⟨-, hnew⟩
  · exact lt_of_lt_of_le (h c p hold) hd.entries
  · exact hnew

theorem Phase.Sound.drift (h : k.Sound w) (hd : w.Drifts w') : k.Sound w' := by
  unfold Phase.Sound at h ⊢
  split at h
  · obtain ⟨hlt, hplace, hoffers⟩ := h
    refine ⟨lt_of_lt_of_le hlt hd.entries, fun p hp hn => ?_, fun hlock => ?_⟩
    · exact hplace p (hd.place_old hp (hn ▸ hlt)) hn
    · rw [hd.offers]
      exact hoffers hlock
  · obtain ⟨hlock, hlt, hplace⟩ := h
    refine ⟨hlock, lt_of_lt_of_le hlt hd.entries, fun p hp hn => ?_⟩
    exact hplace p (hd.place_old hp (hn ▸ hlt)) hn
  · trivial

/-- The same role, and the lock as far as it matters. -/
theorem Phase.Sound.same {k' : Phase} (h : k.Sound w) (hrole : k'.role = k.role)
    (hfound : ∀ sb c n, k.role = .answering sb c (.found n) → k'.inLock = true →
      k.inLock = true)
    (hoffered : ∀ sb c n, k.role = .answering sb c (.offered n) → k'.inLock = k.inLock) :
    k'.Sound w := by
  unfold Phase.Sound at h ⊢
  rw [hrole]
  split at h
  · next hk =>
    obtain ⟨hlt, hplace, hoffers⟩ := h
    exact ⟨hlt, hplace, fun hin => hoffers (hfound _ _ _ hk hin)⟩
  · next hk =>
    obtain ⟨hlock, hrest⟩ := h
    exact ⟨(hoffered _ _ _ hk).trans hlock, hrest⟩
  · trivial

/-- An offer that is settled stays so while the world drifts, and so does one whose request
moves on to take the call out. -/
theorem Offer.Settled.drift {o : Offer} (h : o.Settled w ph) (hd : w.Drifts w')
    {ph' : ℕ → Option Phase}
    (hph : ∀ i sb, ph i = some ⟨.answering sb o.callId (.offered o.entry), true⟩ →
      ph' i = ph i ∨ ∀ p, w'.place.get o.callId = some p → p.entry ≠ o.entry) :
    o.Settled w' ph' := by
  obtain ⟨hlt, hopen | hleft⟩ := h
  · obtain ⟨i, sb, hi⟩ := hopen
    refine ⟨lt_of_lt_of_le hlt hd.entries, ?_⟩
    rcases hph i sb hi with hsame | hleft
    · exact .inl ⟨i, sb, hsame.trans hi⟩
    · exact .inr hleft
  · refine ⟨lt_of_lt_of_le hlt hd.entries, .inr fun p hp hn => ?_⟩
    exact hleft p (hd.place_old hp (hn ▸ hlt)) hn

/-- A channel that has been removed from a bridge is not in it. -/
theorem after_removal {b c : String} {p : Place}
    (hp : (w.apply (Request.change w (.removeChannel b c) .done)).place.get c = some p) :
    w.place.get c = some p ∧ p.bridge ≠ b := by
  have hchange : Request.change w (.removeChannel b c) .done =
      if (w.place.get c).map (·.bridge) = some b then .leave c else .nothing := rfl
  rw [hchange] at hp
  split at hp
  · change (w.place.pop c).get c = some p at hp
    rw [Dict.get_pop, if_pos rfl] at hp
    cases hp
  · next hout =>
    refine ⟨hp, fun hb => hout ?_⟩
    rw [show w.place.get c = some p from hp, Option.map_some, hb]

/-- The removal, as Asterisk answers it, ends the stay. -/
theorem left_of_removed {sb c : String} {n : ℕ}
    (hrole : k = ⟨.answering sb c (.offered n), true⟩)
    (hbridge : ∀ p, w.place.get c = some p → p.entry = n → p.bridge = bridgeQueueId sb)
    (ht : k.role.takes k.inLock r) (ha : r.reply w x = some a) (hr : r.removed w x = true) :
    k.next w r x = k ∨
      ∀ p, (w.apply (k.change w i r x)).place.get c = some p → p.entry ≠ n := by
  subst hrole
  have hout (h : c ∉ w.channelsOf (bridgeQueueId sb)) (p : Place)
      (hp : w.place.get c = some p) : p.entry ≠ n :=
    fun hn => h (mem_channelsOf.mpr ⟨p, hp, hbridge p hp hn⟩)
  cases r <;> first | exact absurd ht id | skip
  case bridgesGet id =>
    obtain rfl : id = bridgeQueueId sb := ht
    cases x with
    | bridge json => exact .inl rfl
    | failure f =>
      obtain ⟨hnone, -⟩ := Option.ite_none_right_eq_some.mp ha
      have hf : f = .ariNotFound := by simpa [Request.removed] using hr
      refine .inr (hout ?_)
      rw [hnone hf]
      exact List.not_mem_nil
    | _ => cases ha
  case removeChannel b c' =>
    obtain ⟨rfl, rfl⟩ := ht
    cases x with
    | done =>
      refine .inr fun p hp hn => ?_
      obtain ⟨hold, hb⟩ := after_removal hp
      exact hb (hbridge p hold hn)
    | failure f =>
      refine .inr (hout ?_)
      simp only [Request.removed, Bool.decide_and, Bool.and_eq_true, decide_eq_true_eq] at hr
      exact hr.2
    | _ => cases ha

/-- The lock, for the program that is answered and for the others. -/
theorem Exclusive.locks (h : Exclusive w ph) (hk : ph i = some k)
    (ht : k.role.takes k.inLock r) (ha : r.reply w x = some a) :
    let ph' := Function.update ph i (some (k.next w r x))
    (∀ j k', ph' j = some k' → k'.inLock = true →
      (w.apply (k.change w i r x)).locked = true) ∧
    ∀ j j' l l', ph' j = some l → ph' j' = some l' → l.inLock = true → l'.inLock = true →
      j = j' := by
  have hothers : ∀ j l, ph j = some l → j ≠ i → l.inLock = true →
      (w.apply (k.change w i r x)).locked = true ∧ (k.next w r x).inLock ≠ true := by
    intro j l hj hne hl
    have hlocked := h.locked j l hj hl
    obtain ⟨-, hfree, -⟩ | ⟨-, hkl, -⟩ | ⟨hsame, hlock⟩ := lock_cases (i := i) ht ha
    · exact absurd hlocked (by simp [hfree])
    · exact absurd (h.unique j i l k hj hk hl hkl) hne
    · refine ⟨hlock.trans hlocked, fun hnext => ?_⟩
      exact hne (h.unique j i l k hj hk hl (hsame ▸ hnext))
  have hself : (k.next w r x).inLock = true → (w.apply (k.change w i r x)).locked = true := by
    intro hnext
    obtain ⟨-, -, -, -, hlock⟩ | ⟨-, -, hfree, -⟩ | ⟨hsame, hlock⟩ := lock_cases (i := i) ht ha
    · exact hlock
    · exact absurd hnext (by simp [hfree])
    · exact hlock.trans (h.locked i k hk (hsame ▸ hnext))
  refine ⟨fun j l hj hl => ?_, fun j j' l l' hj hj' hl hl' => ?_⟩
  · obtain ⟨rfl, rfl⟩ | ⟨hne, hold⟩ := System.update_cases hj
    · exact hself hl
    · exact (hothers j l hold hne hl).1
  · obtain ⟨rfl, rfl⟩ | ⟨hne, hold⟩ := System.update_cases hj
    · obtain ⟨rfl, rfl⟩ | ⟨hne', hold'⟩ := System.update_cases hj'
      · rfl
      · exact absurd hl (hothers j' l' hold' hne' hl').2
    · obtain ⟨rfl, rfl⟩ | ⟨hne', hold'⟩ := System.update_cases hj'
      · exact absurd hl' (hothers j l hold hne hl).2
      · exact h.unique j j' l l' hold hold' hl hl'

/-- A call that is found by who has the lock has not been offered in this stay. -/
theorem Exclusive.not_offered (h : Exclusive w ph) {sb c : String} {p : Place}
    (hk : ph i = some k) (hrole : k.role = .answering sb c .untested) (hlock : k.inLock = true)
    (hp : w.place.get c = some p) (o : Offer) (ho : o ∈ w.offers) :
    ¬ (o.callId = c ∧ o.entry = p.entry) := by
  rintro ⟨rfl, hentry⟩
  obtain ⟨-, ⟨j, sb', hj⟩ | hleft⟩ := h.settled o ho
  · -- the request that is to take the call out has the lock as well
    obtain rfl := h.unique i j k _ hk hj hlock rfl
    rw [hk] at hj
    cases hj
    cases hrole
  · exact hleft p hp hentry.symm

/-- What is known of the program that is answered. -/
theorem Exclusive.sound_next (h : Exclusive w ph) (hk : ph i = some k)
    (ht : k.role.takes k.inLock r) (ha : r.reply w x = some a) :
    (k.next w r x).Sound (w.apply (k.change w i r x)) := by
  have hsound := h.sound i k hk
  obtain ⟨hno, hstage⟩ | ⟨sb, c, n, rfl, hoffer, hnext⟩ := next_cases (i := i) ht ha
  · have hdrift := drifts_apply (w := w) hno
    obtain hsame | hother | ⟨sb, c, -, hnext⟩ | ⟨sb, c, p, hrole, hlock, hnothing, hp, hb, hnext⟩ |
      ⟨sb, c, n, -, hnext⟩ := hstage
    · -- the same stage, in which the lock is not taken
      refine (hsound.drift hdrift).same hsame (fun sb c n hrole hin => ?_) fun sb c n hrole => ?_
      · obtain ⟨rfl, -⟩ | ⟨-, hlock, -⟩ | ⟨hlock, -⟩ := lock_cases (i := i) ht ha
        · rw [hrole] at ht
          exact absurd ht id
        · exact hlock
        · exact hlock ▸ hin
      · obtain ⟨rfl, -⟩ | ⟨rfl, -⟩ | ⟨hlock, -⟩ := lock_cases (i := i) ht ha
        · rw [hrole] at ht
          exact absurd ht id
        · rw [hrole] at ht
          exact absurd ht id
        · exact hlock
    · unfold Phase.Sound
      split
      · next hrole => exact absurd hrole (hother _ _ _).2
      · next hrole => exact absurd hrole (hother _ _ _).2
      · trivial
    · unfold Phase.Sound
      rw [hnext]
      trivial
    · unfold Phase.Sound
      rw [hnext, hnothing]
      refine ⟨h.fresh c p hp, fun p' hp' _ => ?_, fun hin o ho => ?_⟩
      · obtain rfl : p = p' := Option.some.inj (hp.symm.trans hp')
        exact hb
      · exact h.not_offered hk hrole (hlock ▸ hin) hp o ho
    · unfold Phase.Sound
      rcases hnext with hnext | hnext <;> rw [hnext] <;> trivial
  · unfold Phase.Sound at hsound ⊢
    rw [hnext, hoffer]
    obtain ⟨hlt, hplace, -⟩ := hsound
    exact ⟨rfl, hlt, hplace⟩

/-- The request that has made an offer goes on. -/
theorem Exclusive.made_next (h : Exclusive w ph) (hk : ph i = some k)
    (ht : k.role.takes k.inLock r) (ha : r.reply w x = some a) (o : Offer) (ho : o ∈ w.offers) :
    o.Made (Function.update ph i (some (k.next w r x))) := by
  obtain ⟨l, sb, st, hl, hrole, hrefused, huntested⟩ := h.made o ho
  by_cases hi : o.request = i
  · subst hi
    obtain rfl : k = l := Option.some.inj (hk.symm.trans hl)
    have hnew : ∀ st', (k.next w r x).role = .answering sb o.callId st' → st' ≠ .refused →
        st' ≠ .untested → o.Made (Function.update ph o.request (some (k.next w r x))) :=
      fun st' hst hne hne' => ⟨_, sb, st', Function.update_self .., hst, hne, hne'⟩
    obtain ⟨-, hstage⟩ | ⟨sb', c, n, rfl, -, hnext⟩ := next_cases (i := o.request) ht ha
    · obtain hsame | hother | ⟨sb', c, hk', -⟩ | ⟨sb', c, p, hk', -⟩ | ⟨sb', c, n, hk', hnext⟩ :=
        hstage
      · exact hnew st (hsame.trans hrole) hrefused huntested
      · exact absurd hrole (hother _ _ _).1
      · rw [hrole] at hk'
        cases hk'
        exact absurd rfl huntested
      · rw [hrole] at hk'
        cases hk'
        exact absurd rfl huntested
      · rw [hrole] at hk'
        cases hk'
        rcases hnext with hnext | hnext
        · exact hnew _ hnext (by simp) (by simp)
        · exact hnew _ hnext (by simp) (by simp)
    · cases hrole
      exact hnew _ (by rw [hnext]) (by simp) (by simp)
  · exact ⟨l, sb, st, (Function.update_of_ne hi _ _).trans hl, hrole, hrefused, huntested⟩

/-- The offers so far are settled after an answer. -/
theorem Exclusive.settled_next (h : Exclusive w ph) (hk : ph i = some k)
    (ht : k.role.takes k.inLock r) (ha : r.reply w x = some a)
    (hr : removes w ph i x r = true) (hno : ∀ o, k.change w i r x ≠ .offer o) (o : Offer)
    (ho : o ∈ w.offers) : o.Settled (w.apply (k.change w i r x))
      (Function.update ph i (some (k.next w r x))) := by
  refine (h.settled o ho).drift (drifts_apply hno) fun j sb hj => ?_
  by_cases hji : j = i
  · subst hji
    obtain rfl : _ = k := Option.some.inj (hj.symm.trans hk)
    have hbridge := (h.sound j _ hj).2.2
    have hremoved : r.removed w x = true := by
      simpa [removes, hj] using hr
    rcases left_of_removed rfl hbridge ht ha hremoved with hsame | hleft
    · rw [hsame, Function.update_self]
      exact .inl hj.symm
    · exact .inr hleft
  · exact .inl (Function.update_of_ne hji _ _)

/-- A program that starts: nothing but its timer changes. -/
theorem launch_starts {job : Job} {p : Code (Option String)}
    (h : switchboards.launch job w = some (w', k, p)) :
    (w.Drifts w' ∧ w'.locked = w.locked) ∧ k.inLock = false ∧ k.Sound w' := by
  obtain ⟨rfl, ⟨sb, c, rfl⟩ | ⟨sb, c, rfl⟩ | rfl⟩ | ⟨n, t, -, -, rfl, rfl⟩ := launch_cases h
  · exact ⟨⟨.refl _, rfl⟩, rfl, trivial⟩
  · exact ⟨⟨.refl _, rfl⟩, rfl, trivial⟩
  · exact ⟨⟨.refl _, rfl⟩, rfl, trivial⟩
  · exact ⟨⟨⟨rfl, le_rfl, fun _ _ => .inl⟩, rfl⟩, rfl, trivial⟩

/-- What happens beside the programs. -/
theorem outside_drifts {e : Outside} (h : switchboards.outside e w = some w') :
    w.Drifts w' ∧ w'.locked = w.locked := by
  cases e with
  | tick time =>
    cases h
    exact ⟨⟨rfl, le_rfl, fun _ _ => .inl⟩, rfl⟩
  | move c b =>
    cases b with
    | none =>
      cases h
      exact ⟨drifts_apply (by simp), rfl⟩
    | some b =>
      cases h
      exact ⟨drifts_apply (by simp), rfl⟩

/-- An answer keeps the invariant. -/
theorem Exclusive.answer (h : Exclusive w ph) (hk : ph i = some k)
    (ht : k.role.takes k.inLock r) (ha : r.reply w x = some a)
    (hr : removes w ph i x r = true) :
    Exclusive (w.apply (k.change w i r x)) (Function.update ph i (some (k.next w r x))) := by
  obtain ⟨hlocked, hunique⟩ := h.locks hk ht ha
  have hself := h.sound_next hk ht ha
  obtain ⟨hno, -⟩ | ⟨sb, c, n, rfl, hoffer, hnext⟩ := next_cases (i := i) ht ha
  · have hdrift := drifts_apply (w := w) hno
    refine ⟨hdrift.fresh h.fresh, hlocked, hunique, ?_, ?_, ?_, ?_⟩
    · exact System.forall_update (fun j l hj => (h.sound j l hj).drift hdrift) hself
    · rw [hdrift.offers]
      exact h.settled_next hk ht ha hr hno
    · rw [hdrift.offers]
      exact h.made_next hk ht ha
    · rw [hdrift.offers]
      exact h.once
  · obtain ⟨hlt, hplace, hnone⟩ := h.sound i _ hk
    rw [hoffer] at hlocked hself ⊢
    refine ⟨h.fresh, hlocked, hunique, fun j l hj => ?_, fun o ho => ?_, fun o ho => ?_, ?_⟩
    · obtain ⟨rfl, rfl⟩ | ⟨hne, hold⟩ := System.update_cases hj
      · exact hself
      · -- the lock keeps the others from having found the call
        have hl := h.sound j l hold
        unfold Phase.Sound at hl ⊢
        split
        · next hrole =>
          rw [hrole] at hl
          refine ⟨hl.1, hl.2.1, fun hin => absurd (h.unique j i l _ hold hk hin rfl) hne⟩
        · next hrole =>
          rw [hrole] at hl
          exact hl
        · trivial
    · rcases List.mem_cons.mp ho with rfl | ho
      · exact ⟨hlt, .inl ⟨i, sb, by rw [Function.update_self, hnext]⟩⟩
      · refine (h.settled o ho).drift ⟨rfl, le_rfl, fun _ _ => .inl⟩ fun j sb' hj => .inl ?_
        refine Function.update_of_ne (fun hji => ?_) _ _
        rw [hji, hk] at hj
        cases hj
    · rcases List.mem_cons.mp ho with rfl | ho
      · exact ⟨_, sb, _, Function.update_self .., by rw [hnext], by simp, by simp⟩
      · exact h.made_next hk ht ha o ho
    · refine List.Pairwise.cons (fun o ho hsame => ?_) h.once
      exact hnone rfl o ho ⟨hsame.1.symm, hsame.2.symm⟩

/-- What does not concern the requests keeps the invariant. -/
theorem Exclusive.drift (h : Exclusive w ph) (hd : w.Drifts w') (hlock : w'.locked = w.locked) :
    Exclusive w' ph where
  fresh := hd.fresh h.fresh
  locked j l hj hl := hlock.trans (h.locked j l hj hl)
  unique := h.unique
  sound j l hj := (h.sound j l hj).drift hd
  settled o ho := (h.settled o (hd.offers ▸ ho)).drift hd fun _ _ _ => .inl rfl
  made o ho := h.made o (hd.offers ▸ ho)
  once := hd.offers ▸ h.once

/-- A program that starts has no lock, and has found nothing. -/
theorem Exclusive.start (h : Exclusive w ph) (hi : ph i = none) (hlock : k.inLock = false)
    (hsound : k.Sound w) : Exclusive w (Function.update ph i (some k)) where
  fresh := h.fresh
  locked j l hj hl := by
    obtain ⟨-, rfl⟩ | ⟨-, hold⟩ := System.update_cases hj
    · exact absurd hl (by simp [hlock])
    · exact h.locked j l hold hl
  unique j j' l l' hj hj' hl hl' := by
    obtain ⟨-, rfl⟩ | ⟨-, hold⟩ := System.update_cases hj
    · exact absurd hl (by simp [hlock])
    obtain ⟨-, rfl⟩ | ⟨-, hold'⟩ := System.update_cases hj'
    · exact absurd hl' (by simp [hlock])
    · exact h.unique j j' l l' hold hold' hl hl'
  sound := System.forall_update h.sound hsound
  settled o ho := (h.settled o ho).drift (.refl w) fun j sb hj => by
    refine .inl (Function.update_of_ne (fun hji => ?_) _ _)
    rw [hji, hi] at hj
    cases hj
  made o ho := by
    obtain ⟨l, sb, st, hl, hrest⟩ := h.made o ho
    refine ⟨l, sb, st, (Function.update_of_ne (fun hji => ?_) _ _).trans hl, hrest⟩
    rw [hji, hi] at hl
    cases hl
  once := h.once

end Invariant

/-! ## Runs -/

section Runs

variable {s : SwitchboardPool}

/-- In every run in which the removals succeed, the invariant holds. -/
theorem exclusive_of_reaches (h : switchboards.machine.Reaches
    (System.Answers fun w ph i x r => removes w ph i x r = true) s) :
    Exclusive s.world s.phases := by
  refine System.invariant_phases (I := Exclusive) launch_keeps ?_ ?_ ?_ ?_ h
  · rintro w ⟨hfresh, -, -, -, hoffers, -⟩
    refine ⟨hfresh, fun _ _ hk => ?_, fun _ _ _ _ hk => ?_, fun _ _ hk => ?_, ?_, ?_, ?_⟩
    · cases hk
    · cases hk
    · cases hk
    · rw [hoffers]
      exact fun o ho => absurd ho List.not_mem_nil
    · rw [hoffers]
      exact fun o ho => absurd ho List.not_mem_nil
    · rw [hoffers]
      exact List.Pairwise.nil
  · intro w ph i job w' k p hinv hi hl
    obtain ⟨hd, hlock, hstart⟩ := launch_starts hl
    exact (hinv.drift hd.1 hd.2).start hi hlock hstart
  · rintro w ph i x k r y hinv hk ht hr ha
    obtain ⟨a, hreply, rfl⟩ := Option.map_eq_some_iff.mp ha
    exact hinv.answer hk ht hreply hr
  · intro w ph e w' hinv he
    obtain ⟨hd, hlock⟩ := outside_drifts he
    exact hinv.drift hd hlock

/-- No two operators are offered a call in one stay. -/
def OneOperator (s : SwitchboardPool) : Prop :=
  s.world.offers.Pairwise fun o o' => ¬ (o.callId = o'.callId ∧ o.entry = o'.entry)

/-- An answer request that finds the call no longer in the queue has originated nobody, does
not return, and raises `NoSuchCall`. -/
def RefusesUnqueued (s : SwitchboardPool) : Prop :=
  ∀ i k p call, s.tasks i = some (k, p) → k.Refused call →
    (∀ o ∈ s.world.offers, o.request ≠ i) ∧ (∀ a, p ≠ .ok a) ∧
      ∀ e, p = .error e → e = .noSuchCall call

end Runs

/-! ## Two operators -/

/-- The second operator is refused. -/
def refuses (i : ℕ) : List SwitchboardLabel :=
  [.answer i .done, .answer i (.switchboard ⟨none, none⟩), .answer i unqueued, .answer i .done]

def oneAnswers : List SwitchboardLabel :=
  twoOperators ++ finds 0 ++ originates 0 ++ leaves 0 ++ refuses 1

theorem oneAnswers_meets : switchboards.machine.Meets
    (System.Answers fun w ph i x r => removes w ph i x r = true) oneAnswers noCalls := by
  decide

end Calld.Switchboards
