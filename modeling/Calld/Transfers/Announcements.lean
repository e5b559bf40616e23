/-
# What is announced, and when

In runs in which the writes of Asterisk's global variables succeed, the end of a
transfer is announced once and last (`ended_once_and_last`), and a transfer that has been
cancelled neither calls a recipient nor succeeds (`cancelled_means_cancelled`).  Both
follow from the lives of the transfers (`Simulation.lean`).
-/
import Calld.Transfers.Simulation

namespace Calld.Transfers

open Effect Effect.Program TransferState

variable {env : Env} {s s₀ s₁ s₂ : System} {m m' : Memory} {id : TransferId} {t : Transfer}
  {crash : Prop}

/-! ## The lives in a run -/

theorem Reaches.lives (hs : WellStored s.memory) (h : Reaches GlobalsWritten s s₁) :
    Lives.rel s.memory s₁.memory := by
  have moves : Moves False True s.memory s₁.memory :=
    h.moves (fun _ _ _ ha hd => ha.deletes hd) (fun _ _ _ => trivial) hs
  exact moves.lives hs

/-- A transfer that is over is not stored. -/
theorem WellStored.records_of_over (h : WellStored m) (ho : m.life id = .over) :
    m.records id = none := by
  cases hr : m.records id with
  | none => rfl
  | some t =>
    obtain ⟨p, hp⟩ := (h.stands hr).phase
    rw [Memory.life_stored hr hp] at ho
    cases ho

/-! ## The end is followed by the removal -/

/-- Every announcement of an end is followed at once by the removal. -/
def Sealed : List Event → Prop
  | [] => True
  | e :: rest =>
    (∀ n, e = .notified n → n.kind = .ended → rest.head? = some (.removed n.transfer.id)) ∧
      Sealed rest

theorem Sealed.append {tr tr' : List Event} (h : Sealed tr) (h' : Sealed tr') :
    Sealed (tr ++ tr') := by
  induction tr with
  | nil => exact h'
  | cons e rest ih =>
    refine ⟨fun n he hn => ?_, ih h.2⟩
    show (rest ++ tr').head? = _
    rw [List.head?_append, h.1 n he hn]
    rfl

/-- Where no end is announced, nothing has to follow. -/
theorem sealed_of_silent {evs : List Event} (h : ∀ n, .notified n ∈ evs → n.kind ≠ .ended) :
    Sealed evs := by
  induction evs with
  | nil => trivial
  | cons e rest ih =>
    refine ⟨fun n he hn => ?_, ih fun n hm => h n (List.mem_cons_of_mem _ hm)⟩
    exact absurd hn (h n (he ▸ List.mem_cons_self))

theorem sealed_of_allowed {p : Phase} {evs : List Event} (h : ∀ e ∈ evs, Says p id e) :
    Sealed evs := by
  refine sealed_of_silent fun n hm hn => ?_
  have allowed : p.mayNotify n.kind = true := (h _ hm).2
  simp [hn, p.not_mayNotify_ended] at allowed

theorem Sealed.split {n : Notification} {pre post : List Event}
    (h : Sealed (pre ++ .notified n :: post)) (hn : n.kind = .ended) :
    ∃ post', post = .removed n.transfer.id :: post' := by
  induction pre with
  | nil => exact List.head?_eq_some_iff.mp (h.1 n rfl hn)
  | cons e rest ih => exact ih h.2

theorem Act.sealed (h : Act False id m m') (hs : Sealed m.trace) : Sealed m'.trace := by
  cases h with
  | indexed => exact hs
  | called | aborted | lateAborted | updated => exact hs.append (sealed_of_silent (by simp))
  | announced _ _ ha => exact hs.append (sealed_of_allowed ha)
  | @finished t p evs n _ _ _ ha hk hab =>
    refine hs.append ((sealed_of_allowed ha).append ⟨fun n' hn _ => ?_, ?_, trivial⟩)
    · cases hn
      exact hab ▸ rfl
    · exact fun n' hn => nomatch hn
  | kept hf => exact hf.elim

theorem Moves.sealed (h : Moves False crash m m') (hs : Sealed m.trace) : Sealed m'.trace := by
  induction h with
  | refl => exact hs
  | tail _ hm ih =>
    cases hm with
    | act ha => exact ha.sealed ih
    | acquired | restarted => exact ih
    | born => exact ih.append (sealed_of_silent (by simp))

/-! ## The end of a transfer -/

theorem Event.not_isAbout {e : Event} (h : e.observation id = none) : e.isAbout id = false := by
  cases e with
  | notified n =>
    by_cases hn : n.transfer.id = id
    · simp [Event.observation, hn] at h
    · simp [Event.isAbout, hn]
  | _ => rfl

theorem Event.observation_of_isNotification {e : Event} {kind : NotificationKind}
    (h : e.isNotification kind id = true) : e.observation id = some (.notified kind) := by
  cases e with
  | notified n =>
    simp only [Event.isNotification, Bool.and_eq_true, decide_eq_true_eq] at h
    simp [Event.observation, h.1, h.2]
  | _ => cases h

theorem Event.observation_of_isOriginate {e : Event} (h : e.isOriginate id = true) :
    e.observation id = some .originated := by
  cases e with
  | originated i c =>
    simp only [Event.isOriginate, decide_eq_true_eq] at h
    simp [Event.observation, h]
  | _ => cases h

/-- **The end of a transfer is announced once and last**, in the transition that removes
it: before it no end of the transfer has been announced, right after it comes the
removal, and then nothing is announced about the transfer any more. -/
theorem ended_once_and_last (h : Reachable GlobalsWritten s) {n : Notification}
    {pre post : List Event} (hn : n.kind = .ended) (ht : s.trace = pre ++ .notified n :: post) :
    (∀ e ∈ pre, e.isNotification .ended n.transfer.id = false) ∧
      (∃ post', post = .removed n.transfer.id :: post' ∧
        ∀ e ∈ post', e.isAbout n.transfer.id = false) ∧
      s.asterisk.records n.transfer.id = none := by
  obtain ⟨s₀, h₀, hr⟩ := h
  have empty : s₀.memory.trace = [] := by rw [h₀.1]
  have sealed : Sealed s.trace := by
    have moves : Moves False True s₀.memory s.memory :=
      hr.moves (fun _ _ _ ha hd => ha.deletes hd) (fun _ _ _ => trivial) h₀.wellStored
    exact moves.sealed (by rw [empty]; trivial)
  obtain ⟨evs, hevs, hlives⟩ := hr.lives h₀.wellStored
  have hevs : evs = pre ++ .notified n :: post := by
    rw [empty, List.nil_append] at hevs
    exact hevs.symm.trans ht
  have hlife := hlives n.transfer.id
  have shown : evs.filterMap (Event.observation n.transfer.id) =
      pre.filterMap (Event.observation n.transfer.id) ++
        .notified .ended :: post.filterMap (Event.observation n.transfer.id) := by
    rw [hevs, List.filterMap_append, List.filterMap_cons]
    simp [Event.observation, hn]
  obtain ⟨before, after⟩ := Life.ended_last hlife shown
  obtain ⟨post', rfl⟩ := (ht ▸ sealed).split hn
  refine ⟨fun e he => ?_, ⟨post', rfl, fun e he => Event.not_isAbout ?_⟩, ?_⟩
  · by_contra hne
    exact before (List.mem_filterMap.mpr
      ⟨e, he, Event.observation_of_isNotification (by simpa using hne)⟩)
  · simp only [List.filterMap_cons, Event.observation, if_true, List.cons.injEq, true_and] at after
    exact List.filterMap_eq_nil_iff.mp after e he
  · refine (hr.wellStored h₀.wellStored).records_of_over (Life.over_of_ended hlife ?_)
    simp [shown]

open Scene in
/-- A transfer is created and cancelled. -/
def cancelledRun : System :=
  run [(.calm "first" carol, .create (request bob alice .attended)),
    (.calm "second" carol, .cancel "first")] .start

open Scene in
theorem cancelledRun_reachable : Reachable GlobalsWritten cancelledRun :=
  run_reachable ⟨by decide, Env.calm_writes _ _, by decide, Env.calm_writes _ _, trivial⟩

open Scene in
/-- The end of the cancelled transfer. -/
def cancelledEnd : Notification :=
  ⟨.ended, ⟨"first", "user", some "user", bob, alice, some carol, .ended, .attended⟩, some "user",
    "user"⟩

theorem ended_once_and_last_cancelled :
    (∀ e ∈ cancelledRun.trace.take 8, e.isNotification .ended "first" = false) ∧
      (∃ post', [Event.removed "first"] = .removed "first" :: post' ∧
        ∀ e ∈ post', e.isAbout "first" = false) ∧
      cancelledRun.asterisk.records "first" = none :=
  have trace : cancelledRun.trace =
      cancelledRun.trace.take 8 ++ .notified cancelledEnd :: [.removed "first"] := by decide
  ended_once_and_last cancelledRun_reachable rfl trace

/-! ## Cancelled transfers -/

/-- The transfer has been given up, or has ended. -/
def GivenUp (t : Transfer) : Prop := t.status.phase = some .cancelled ∨ t.status = .ended

theorem ended_givenUp {P : System → Prop} (t : Transfer) :
    Triple env P (TransferStateEnded.fromState t) (fun t' _ => GivenUp t') fun _ _ => True :=
  (Triple.any (notify .ended _)).bind fun _ => (Triple.any (TransferLock.release _)).bind fun _ =>
    Triple.pure fun _ _ => .inr rfl

theorem cancelAndEnd_givenUp {P : System → Prop} (t : Transfer) :
    Triple env P (cancelAndEnd t) (fun t' _ => GivenUp t') fun _ _ => True :=
  (Triple.any (cancelTransfer t)).bind fun _ => ended_givenUp t

/-- The body of `cancel` gives the transfer up, in the states that implement it. -/
theorem cancel_body_givenUp {P : System → Prop} {args : AriHelpers.StartArgs}
    {body : Transfer → Code Transfer} (hm : t.status.method args .cancel = .decorated body) :
    Triple env P (body t) (fun t' _ => GivenUp t') fun _ _ => True := by
  cases hst : t.status <;> rw [hst] at hm <;> cases hm
  case ready | nonStasis | ended => exact Triple.throw fun _ _ => trivial
  case noneMovedToStasis | initiatorMovedToStasis | transferredMovedToStasis =>
    exact Triple.pure fun _ _ => .inl rfl
  case noneMovedToStasisCancelled | initiatorMovedToStasisCancelled
      | transferredMovedToStasisCancelled =>
    exact Triple.pure fun _ _ => .inl (by rw [hst]; rfl)
  case ringback | blindTransferred | answered | abandoned => exact cancelAndEnd_givenUp t

/-- Given up as its life shows. -/
def LifeGivenUp (id : TransferId) (s : System) : Prop :=
  s.memory.life id = .live .cancelled ∨ s.memory.life id = .over

/-- A stored transfer on which `cancel` has returned is given up. -/
theorem call_cancel_life (hs : WellStored s.memory) (hflag : s.stateMachineLocked = true)
    (hst : s.memory.records id = some t) :
    Triple env (fun s' => s' = s) (call .cancel t) (fun _ => LifeGivenUp id) fun _ _ => True := by
  have own : t.id = id := (hs.stands hst).id
  have linked : Linked env {id} s t s := ⟨After.refl hs, hflag, own, .stored (own.symm ▸ hst)⟩
  have givenUp : Triple env (fun s => s.stateMachineLocked = true) (call .cancel t)
      (fun t' _ => GivenUp t') fun _ _ => True :=
    callWith_result (E := fun _ => True) (fun _ => trivial) (fun body hm => by
      cases hst : t.status <;> rw [hst] at hm <;> cases hm) (fun body => cancel_body_givenUp)
      fun _ _ => Triple.any _
  refine ((callWith_triple _ .cancel t).and givenUp).run_state ⟨linked, hflag⟩ ?_
    fun _ _ _ => trivial
  rintro t' s' ⟨⟨hl, same, -⟩, hg⟩
  have own' : t'.id = id := same.id.trans own
  rcases hl.link with hst' | ⟨he, hst', -⟩
  · obtain ⟨p, hp⟩ := (hl.after.wellStored.stands hst').phase
    rcases hg with hg | he
    · exact .inl (Memory.life_stored (own' ▸ hst') hg)
    · rw [he] at hp
      cases hp
  · have moves : Moves env.RefusesDeletion False s.memory s'.memory := hl.after.acts.moves
    exact .inr (Memory.life_over (own' ▸ hst') (moves.trace.subset (hs.known hst)))

theorem make_cancel_life (id : TransferId) :
    Triple env (fun s => WellStored s.memory)
      (StateFactory.make id fun state => do let _ ← call .cancel state)
      (fun _ => LifeGivenUp id) fun _ _ => True := by
  refine Triple.bind (Q := fun _ s => WellStored s.memory ∧ s.stateMachineLocked = true)
    (Triple.change fun _ h => ⟨h, rfl⟩) fun _ => Triple.ensuring ?_
  refine Triple.bind (Q := fun t s => (WellStored s.memory ∧ s.stateMachineLocked = true) ∧
    s.memory.records id = some t) ?_ fun t => ?_
  · intro s hs
    have after : After env Set.univ s s := After.refl hs.1
    exact ((get_stored id).run_state ⟨after, hs.2⟩
      (fun _ _ h => ⟨⟨h.1.1.wellStored, h.1.2⟩, h.2⟩) fun _ _ _ => trivial) s rfl
  · dsimp only
    split
    · exact fun _ _ => trivial
    · rintro s ⟨⟨hs, hflag⟩, hst⟩
      have cancelled : Triple env (fun s' => s' = s) (do let _ ← call .cancel t)
          (fun _ => LifeGivenUp id) fun _ _ => True :=
        (call_cancel_life hs hflag hst).bind fun _ => Triple.pure fun _ h => h
      exact cancelled.weaken (fun _ h => h) (fun _ _ h => h) (fun _ _ h => h) s rfl

/-- The operation asks to cancel the transfer. -/
def Op.Cancels (id : TransferId) (op : Op) : Prop :=
  op = .cancel id ∨ ∃ uuid, op = .cancelFromUser id uuid

theorem Op.Cancels.acting {op : Op} (hop : op.Cancels id) : Acting env {id} op.code := by
  rcases hop with rfl | ⟨uuid, rfl⟩
  · exact cancel_acting id
  · exact cancelFromUser_acting id uuid

/-- **A cancellation that returns gives the transfer up.** -/
theorem Op.Cancels.life {op : Op} (hop : op.Cancels id) :
    Triple env (fun s => WellStored s.memory) op.code (fun _ => LifeGivenUp id)
      fun _ _ => True := by
  have cancel : Triple env (fun s => WellStored s.memory) (TransfersService.cancel id)
      (fun _ => LifeGivenUp id) fun _ _ => True := by
    unfold TransfersService.cancel orNoSuchTransfer
    refine Triple.bind (Q := fun r s => r.isSome = true → LifeGivenUp id s)
      (Triple.catching ?_) fun r => ?_
    · refine (make_cancel_life id).weaken (fun _ h => h) (fun _ _ h _ => h) fun e s _ => ?_
      split
      · exact fun h => nomatch h
      · trivial
    · cases r with
      | some _ => exact Triple.pure fun _ h => h rfl
      | none => exact Triple.throw fun _ _ => trivial
  rcases hop with rfl | ⟨uuid, rfl⟩
  · exact cancel
  · have owned : Triple env (fun s => WellStored s.memory) (TransfersService.getOwned id uuid)
        (fun _ s => WellStored s.memory) fun _ _ => True := fun s hs =>
      ((getOwned_acting (I := Set.univ) id uuid).triple.run_state (After.refl hs)
        (fun _ _ h => h.wellStored) fun _ _ _ => trivial) s rfl
    exact owned.bind fun _ => cancel

/-- **Cancelled means cancelled**: once a cancellation has returned, no recipient of the
transfer is called, and neither success nor answer is announced, in any continuation of
the run. -/
theorem cancelled_means_cancelled (h : Reachable GlobalsWritten s) {op : Op}
    (hop : op.Cancels id) (hok : op.code env s = (.ok (), s₁))
    (hr : Reaches GlobalsWritten s₁ s₂) :
    ∃ evs, s₂.trace = s₁.trace ++ evs ∧ ∀ e ∈ evs, e.isOriginate id = false ∧
      e.isNotification .completed id = false ∧ e.isNotification .answered id = false := by
  have givenUp : LifeGivenUp id s₁ := hop.life.ok h.wellStored hok
  have after : After env {id} s s₁ := by
    have acting : Acting env {id} op.code := hop.acting
    have after := (acting s).1 h.wellStored
    rwa [hok] at after
  obtain ⟨evs, hevs, hlives⟩ := hr.lives after.wellStored
  have hlife : Observed Life.Step (s₁.memory.life id) (evs.filterMap (Event.observation id))
      (s₂.memory.life id) := hlives id
  have shown : ∀ o ∈ evs.filterMap (Event.observation id),
      o ≠ .originated ∧ o ≠ .notified .completed ∧ o ≠ .notified .answered := by
    rcases givenUp with hl | hl
    · rw [hl] at hlife
      exact Life.cancelled_final hlife
    · rw [hl] at hlife
      rw [(Life.over_final hlife).1]
      simp
  refine ⟨evs, hevs, fun e he => ?_⟩
  have seen {o : Observation} (ho : e.observation id = some o) :=
    shown o (List.mem_filterMap.mpr ⟨e, he, ho⟩)
  refine ⟨?_, ?_, ?_⟩ <;> by_contra hne <;> rw [Bool.not_eq_false] at hne
  · exact (seen (Event.observation_of_isOriginate hne)).1 rfl
  · exact (seen (Event.observation_of_isNotification hne)).2.1 rfl
  · exact (seen (Event.observation_of_isNotification hne)).2.2 rfl

open Scene in
/-- A transfer of channels outside stasis is created. -/
def outsideRun : System :=
  run [((Env.calm "first" carol).outside, .create (request bob alice .attended))] .start

open Scene in
theorem outsideRun_reachable : Reachable GlobalsWritten outsideRun :=
  run_reachable ⟨by decide, fun _ _ _ => rfl, trivial⟩

open Scene in
/-- It is cancelled. -/
def outsideCancelled : System := ((Op.cancel "first").code (.calm "second" carol) outsideRun).2

open Scene in
/-- The transferred channel joins. -/
def outsideJoined : System :=
  run [(.calm "second" carol, .stasisStart bob ["transfer", "create_transfer", "first"])]
    outsideCancelled

open Scene in
theorem outsideJoined_reaches : Reaches GlobalsWritten outsideCancelled outsideJoined := by
  unfold outsideJoined
  exact run_reaches ⟨by decide +kernel, Env.calm_writes _ _, trivial⟩

open Scene in
theorem outsideCancelled_returns :
    (Op.cancel "first").code (.calm "second" carol) outsideRun = (.ok (), outsideCancelled) := by
  have ok : ((Op.cancel "first").code (.calm "second" carol) outsideRun).1 = .ok () := by
    decide +kernel
  rw [outsideCancelled, ← ok]

open Scene in
theorem cancelled_means_cancelled_join :
    ∃ evs, outsideJoined.trace = outsideCancelled.trace ++ evs ∧
      ∀ e ∈ evs, e.isOriginate "first" = false ∧
        e.isNotification .completed "first" = false ∧ e.isNotification .answered "first" = false :=
  cancelled_means_cancelled outsideRun_reachable (.inl rfl) outsideCancelled_returns
    outsideJoined_reaches

end Calld.Transfers
