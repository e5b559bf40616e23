/-
# Hangups that are delivered twice

Every hangup comes as `StasisEnd` and as `ChannelDestroyed`.  The state in which the first
delivery leaves the transfer absorbs the second one, or the transfer is not stored any more
(`hangup_repeats`).  This takes a first delivery that is carried out: one that a failing request
cuts short leaves the work to the second.
-/
import Calld.Transfers.Hangups

namespace Calld.Transfers

open Effect Effect.Program TransfersStasis TransferState

variable {env env' : Env} {I : Set TransferId} {s s' s₀ : System} {m m' m'' : Memory}
  {t t' : Transfer} {c : ChannelId} {role : Role} {tr : Transition} {g : Target}

/-! ## What has not changed -/

/-- The notification of an event. -/
def Event.notification? : Event → Option Notification
  | .notified n => some n
  | _ => none

/-- The notifications published so far. -/
def Memory.notifications (m : Memory) : List Notification := m.trace.filterMap Event.notification?

/-- The stored transfers, the listed ones, the locked initiators and the published notifications
are the same. -/
structure Unmoved (m m' : Memory) : Prop where
  records : m'.records = m.records
  index : ∀ id, id ∈ m'.index ↔ id ∈ m.index
  lockedCalls : m'.lockedCalls = m.lockedCalls
  notifications : m'.notifications = m.notifications

theorem Unmoved.of_eq (h : m' = m) : Unmoved m m' := by
  subst h
  exact ⟨rfl, fun _ => Iff.rfl, rfl, rfl⟩

/-- Some events are no notifications. -/
theorem notifications_log {evs : List Event} (h : ∀ e ∈ evs, e.notification? = none) :
    (m.log evs).notifications = m.notifications := by
  have none : evs.filterMap Event.notification? = [] := List.filterMap_eq_nil_iff.mpr h
  rw [Memory.notifications, Memory.log_trace, List.filterMap_append, none, List.append_nil,
    Memory.notifications]

/-! ## Calls that change nothing -/

/-- The state object is stored again as it was. -/
theorem upsert_unmoved (hst : m.records t.id = some t) (hid : t.id ∈ m.index) {evs : List Event}
    (hevs : ∀ e ∈ evs, e.notification? = none) :
    Triple env (fun v => v.memory = m.log evs) (StatePersistor.upsert t)
      (fun _ v => Unmoved m v.memory) fun _ v => Unmoved m v.memory := by
  have stored : ((m.log evs).store t).records = m.records := by
    rw [Memory.store_records, Memory.log_records, Function.update_eq_self_iff, hst]
  have silent : (((m.log evs).store t).log [.stored t.id]).notifications = m.notifications := by
    rw [notifications_log (by simp [Event.notification?])]
    exact notifications_log hevs
  have logged : Unmoved m (m.log evs) :=
    ⟨rfl, fun _ => Iff.rfl, rfl, notifications_log hevs⟩
  have written : Unmoved m (((m.log evs).store t).log [.stored t.id]) :=
    ⟨stored, fun _ => Iff.rfl, rfl, silent⟩
  refine (upsert_memory t).weaken (fun _ h => h) ?_ ?_
  · rintro - v ⟨hindexed | ⟨ids, -, hothers, hkeeps, hv⟩, hlisted⟩
    · rw [hindexed]
      exact written
    · rw [hv] at hlisted ⊢
      refine ⟨stored, fun id => ?_, rfl, silent⟩
      by_cases heq : id = t.id
      · subst heq
        exact ⟨fun _ => hid, fun _ => hlisted⟩
      · exact hothers id heq
  · rintro - v (hv | hv)
    · rw [hv]
      exact logged
    · rw [hv]
      exact written

/-- A method that returns the state object as it is. -/
theorem call_absorbed {body : Transfer → Code Transfer} {p : Phase}
    (hm : t.status.method ⟨"", "", .object [], none⟩ tr = .decorated body)
    (hb : body t = pure t) (hp : t.status.phase = some p) (hst : m.records t.id = some t)
    (hid : t.id ∈ m.index) :
    Triple env (fun v => Linked env I s₀ t v ∧ v.memory = m) (call tr t)
      (fun _ v => Unmoved m v.memory) fun _ v => Unmoved m v.memory := by
  have cached : Triple env (fun u => u.memory = m.log [Event.called t.id t.status tr])
      (StatePersistor.upsert t) (fun _ u => Unmoved m u.memory) fun _ u => Unmoved m u.memory :=
    upsert_unmoved hst hid (by simp [Event.notification?])
  have written : Triple env (fun u => u.memory = m.log [Event.called t.id t.status tr])
      (do
        updateCache t
        return t) (fun _ u => Unmoved m u.memory) fun _ u => Unmoved m u.memory := by
    rw [updateCache_of_phase hp]
    exact cached.bind fun _ => Triple.pure fun _ h => h
  unfold call callWith transition
  rw [hm]
  refine (Triple.look (Q := fun flag u => flag = true ∧ u.memory = m) fun u hu =>
    ⟨hu.1.flag, hu.2⟩).bind fun flag => ?_
  rintro u ⟨rfl, rfl⟩
  have returned : onRaise (body t) (abort t t.initiatorCall) = pure t := by
    rw [hb]
    rfl
  simp only [Bool.not_true, Bool.false_eq_true, if_false, returned, pure_bind]
  exact written _ rfl

/-- What a call leaves that the state does not implement. -/
def Memory.rejected (m : Memory) (t : Transfer) (tr : Transition) : Memory :=
  (m.unlock t.initiatorCall).log [.called t.id t.status tr, .aborted t.id t.status]

theorem call_rejected (hm : t.status.method ⟨"", "", .object [], none⟩ tr = .decorated notImplemented) :
    Triple env (fun v => Linked env I s₀ t v ∧ v.memory = m) (call tr t)
      (fun _ _ => False) fun _ v => v.memory = m.rejected t tr := by
  rintro v ⟨hl, rfl⟩
  unfold call callWith transition
  rw [hm]
  simp only [bind_apply, look_apply, hl.flag, Bool.not_true, Bool.false_eq_true, if_false, record,
    change_apply, onRaise, tryCatch_apply, notImplemented, throw_apply, abort, TransferLock.release]
  simp only [System.memory, Memory.rejected, Memory.unlock, Memory.log, List.append_assoc,
    List.cons_append, List.nil_append]

/-! ## Calls that are cut short -/

theorem updateCache_unhandled (t : Transfer) :
    Gives env (isHandled · = false) (updateCache t) fun _ => True := by
  refine updateCache_gives (fun _ _ e _ => ?_) (fun _ _ _ _ _ => rfl) t
  split <;> rfl

/-- A call that raises an exception which `invalid_event` handles ends with the clean-up of the
decorator. -/
theorem call_handled {body : Transfer → Code Transfer}
    (hm : t.status.method ⟨"", "", .object [], none⟩ tr = .decorated body) :
    Triple env (fun _ => True) (call tr t) (fun _ _ => True)
      fun e v => isHandled e = true → v.trace.getLast? = some (.aborted t.id t.status) := by
  have cleaned : Triple env (fun _ => True) (onRaise (body t) (abort t t.initiatorCall))
      (fun _ _ => True)
      fun e v => isHandled e = true → v.trace.getLast? = some (.aborted t.id t.status) := by
    refine (Triple.any _).onRaise fun e v _ => ?_
    simp [abort, record, TransferLock.release, bind_apply]
  have written (t' : Transfer) : Triple env (fun _ => True) (do
      updateCache t'
      return t') (fun _ _ => True)
      fun e v => isHandled e = true → v.trace.getLast? = some (.aborted t.id t.status) := by
    have cached : Triple env (fun _ => True) (updateCache t') (fun _ _ => True)
        fun e _ => isHandled e = false := (updateCache_unhandled t').triple
    refine (cached.weaken (fun _ h => h) (fun _ _ h => h) ?_).bind
      fun _ => Triple.pure fun _ _ => trivial
    intro e v he hh
    rw [he] at hh
    cases hh
  unfold call callWith transition
  rw [hm]
  refine (Triple.look (Q := fun _ _ => True) fun _ h => h).bind fun flag => ?_
  cases flag with
  | false =>
    refine Triple.throw fun _ _ hh => ?_
    cases hh
  | true =>
    exact Triple.bind (Q := fun _ _ => True) (Triple.change fun _ h => h)
      fun _ => cleaned.bind fun t' => written t'

/-! ## A delivery of a hangup -/

/-- A hangup does nothing unless it finds a transfer of the channel, or else it does what the call
of the transition does.  Asterisk may fail to show the transfers. -/
theorem hangup_listed {Q : Memory → Prop} {E : Exn → Memory → Prop} (hw : WellStored s.memory)
    (idle : Q s.memory) (fails : ∀ e, E e s.memory)
    (hcall : ∀ u ∈ s.asterisk.live, u.names c = true → ∀ role, u.role c = some role →
      ∀ v, v.memory = s.memory →
      Triple env (fun w => Linked env {u.id} v u w ∧ w.memory = v.memory)
        (call (hangupTransition role) u) (fun _ w => Q w.memory)
        fun e w => if isHandled e = true then Q w.memory else E e w.memory) :
    Triple env (fun u => u = s) (hangup c) (fun _ u => Q u.memory) fun e u => E e u.memory := by
  have lookup : Triple env (fun u => u = s)
      (catching Exn.isKeyError (StatePersistor.getByChannel c))
      (fun r u => Quiet s u ∧ ∀ t, r = some t → t ∈ s.asterisk.live ∧ t.names c = true)
      fun e u => E e u.memory := by
    have listed : Triple env (Quiet s) (StatePersistor.getByChannel c)
        (fun t u => Quiet s u ∧ t ∈ s.asterisk.live ∧ t.names c = true)
        fun e u => Quiet s u ∧ (True ∨ e = .keyError) :=
      getByChannel_listed (fun _ _ _ _ _ => trivial) c
    refine Triple.catching (listed.run_state (quiet.refl s) ?_ ?_)
    · rintro t u ⟨hq, hmem⟩
      refine ⟨hq, fun t' ht' => ?_⟩
      obtain rfl := Option.some.inj ht'
      exact hmem
    · rintro e u ⟨hq, -⟩
      split
      · refine ⟨hq, fun t' ht' => ?_⟩
        cases ht'
      · rw [hq.memory]
        exact fails e
  unfold hangup
  refine lookup.bind fun r => Triple.of_fact fun hr => ?_
  cases r with
  | none =>
    refine Triple.pure fun u hq => ?_
    rw [hq.memory]
    exact idle
  | some t =>
    obtain ⟨hlive, hnames⟩ := hr t rfl
    obtain ⟨role, hrole⟩ := Option.isSome_iff_exists.mp ((t.role_isSome c).trans hnames)
    simp only [roleOf, hrole]
    refine partyHangup_at (X := fun _ => True) hw (hw.records_of_live hlive)
      (fun _ _ _ _ => trivial) (fun e _ => ?_) fun v hv => hcall t hlive hnames role hrole v hv
    split
    · exact idle
    · exact fails e

/-- What the delivery of a hangup has come to. -/
inductive Delivered (refusal : Prop) (t : Transfer) (c : ChannelId) (m m' : Memory) : Prop
  /-- The transfer has not been shown. -/
  | missed (h : m' = m)
  /-- The transition has raised. -/
  | aborted (started : t.status.phase ≠ some .initial)
      (h : ∃ evs, m'.trace = m.trace ++ evs ∧ .aborted t.id t.status ∈ evs)
  /-- The state does not implement the transition. -/
  | rejected (role : Role) (hrole : t.role c = some role)
      (hg : t.status.target (hangupTransition role) = none)
      (h : m' = m.rejected t (hangupTransition role))
  /-- The transition has returned. -/
  | carried (t' : Transfer) (role : Role) (g : Target) (hrole : t.role c = some role)
      (hg : t.status.target (hangupTransition role) = some g) (results : g.Results t t')
      (same : t.Same t') (link : Link t' m') (acts : Acts refusal {t.id} m m')

/-- A hangup that the state does not implement is rejected. -/
theorem hangup_rejects (hst : t.Stands t.id)
    (hg : t.status.target (hangupTransition role) = none) :
    t.status.method ⟨"", "", .object [], none⟩ (hangupTransition role) =
      .decorated notImplemented := by
  obtain ⟨p, hp⟩ := hst.phase
  obtain ⟨body, hm⟩ := hangup_decorated hp role
  rcases method_of_no_target hg with h | h
  · rw [hm] at h
    cases h
  · exact h

/-- The call of a hangup transition in any environment. -/
theorem hangup_call_delivers (hw : WellStored s.memory) (hst : s.memory.records t.id = some t)
    (hrole : t.role c = some role) {v : System} (hv : v.memory = s.memory) :
    Triple env (fun w => Linked env {t.id} v t w ∧ w.memory = v.memory)
      (call (hangupTransition role) t)
      (fun _ w => Delivered env.RefusesDeletion t c s.memory w.memory)
      fun e w => if isHandled e = true then Delivered env.RefusesDeletion t c s.memory w.memory
        else t.status.phase = some .initial →
          Delivered env.RefusesDeletion t c s.memory w.memory := by
  have stands : t.Stands t.id := hw.stands hst
  cases hg : t.status.target (hangupTransition role) with
  | none =>
    have rejected : Triple env (fun w => Linked env {t.id} v t w ∧ w.memory = s.memory)
        (call (hangupTransition role) t) (fun _ _ => False)
        fun _ w => w.memory = s.memory.rejected t (hangupTransition role) :=
      call_rejected (hangup_rejects stands hg)
    refine rejected.weaken (fun w hw => ⟨hw.1, hw.2.trans hv⟩) (fun _ _ => False.elim) ?_
    intro e w h
    have delivered : Delivered env.RefusesDeletion t c s.memory w.memory := .rejected role hrole hg h
    split
    · exact delivered
    · exact fun _ => delivered
  | some g =>
    have started : t.status.phase ≠ some .initial := by
      intro hp
      rw [hangup_no_target stands (.inl hp)] at hg
      cases hg
    obtain ⟨p, hp⟩ := stands.phase
    obtain ⟨body, hm⟩ := hangup_decorated hp role
    intro w hl
    have called : Triple env (Linked env {t.id} v t) (call (hangupTransition role) t)
        (fun t' u => Called env {t.id} v t t' u ∧ g.Results t t')
        fun _ u => Aborted env {t.id} v t u ∧ True :=
      call_spec env.faults_any (fun _ _ _ _ => trivial) (fun _ _ _ _ _ => trivial) hg
        fun _ _ => trivial
    have recorded := call_records hm hl.1
    refine ((called.and recorded).and (call_handled hm)).weaken (fun _ h => h) ?_ ?_ w
      ⟨⟨hl.1, rfl⟩, trivial⟩
    · rintro t' u ⟨⟨⟨hcalled, hres⟩, -⟩, -⟩
      have acts : Acts env.RefusesDeletion {t.id} s.memory u.memory := hv ▸ hcalled.linked.after.acts
      exact .carried t' role g hrole hg hres hcalled.same hcalled.linked.link acts
    · rintro e u ⟨⟨-, evs, htrace, hev⟩, hlast⟩
      split
      next hh =>
        -- the last event is one of the call
        rw [htrace, List.getLast?_append_of_ne_nil _ (List.ne_nil_of_mem hev)] at hlast
        have trace : u.memory.trace = s.memory.trace ++ evs := hv ▸ htrace
        exact .aborted started ⟨evs, trace, List.mem_of_getLast? (hlast hh)⟩
      next => exact fun hp => absurd hp started

/-- **A delivery of a hangup**, of a channel that belongs to one transfer, in any environment. -/
theorem hangup_delivers (hw : WellStored s.memory)
    (alone : ∀ u ∈ s.asterisk.live, u.names c = true → u = t) :
    Triple env (fun u => u = s) (hangup c)
      (fun _ u => Delivered env.RefusesDeletion t c s.memory u.memory)
      fun _ u => t.status.phase = some .initial →
        Delivered env.RefusesDeletion t c s.memory u.memory := by
  refine hangup_listed (Q := Delivered env.RefusesDeletion t c s.memory)
    (E := fun _ m => t.status.phase = some .initial →
      Delivered env.RefusesDeletion t c s.memory m)
    hw (.missed rfl) (fun _ _ => .missed rfl) fun u hu hn role hrole v hv => ?_
  obtain rfl := alone u hu hn
  exact hangup_call_delivers hw (hw.records_of_live hu) hrole hv

/-! ## The second delivery -/

/-- The hangup transition of the state that a hangup has led to returns the state object as it
is, or sets again the flow that it has set. -/
theorem hangup_absorbed (hg : t.status.target (hangupTransition role) = some g)
    (hr : g.Results t t') (alive : t'.status ≠ .ended) :
    ∃ body, t'.status.method ⟨"", "", .object [], none⟩ (hangupTransition role) =
      .decorated body ∧ body t' = pure t' := by
  have goto (st : Status) (hst : st = .ended ∨ st = .abandoned ∧ role = .transferred)
      (h : t' = fromState st t) :
      ∃ body, t'.status.method ⟨"", "", .object [], none⟩ (hangupTransition role) =
        .decorated body ∧ body t' = pure t' := by
    subst h
    rcases hst with rfl | ⟨rfl, rfl⟩
    · exact absurd rfl alive
    · exact ⟨_, rfl, rfl⟩
  cases hst : t.status <;> rw [hst] at hg <;> cases role <;> cases hg
  all_goals first
    | exact goto .ended (.inl rfl) hr
    | exact goto .abandoned (.inr ⟨rfl, rfl⟩) hr
    | skip
  case ringback.initiator =>
    rcases hr with rfl | rfl
    · exact ⟨_, rfl, rfl⟩
    · exact absurd rfl alive
  all_goals
    obtain rfl := hr
    simp only [hst]
    exact ⟨_, rfl, rfl⟩

theorem rejected_unmoved (m : Memory) (t : Transfer) (tr : Transition) :
    Unmoved (m.rejected t tr) ((m.rejected t tr).rejected t tr) where
  records := rfl
  index _ := Iff.rfl
  lockedCalls := by simp [Memory.rejected]
  notifications := by
    rw [Memory.rejected, notifications_log (by simp [Event.notification?])]
    rfl

/-- Other transfers have not been listed since. -/
theorem Local.live {id : TransferId} (h : Local {id} s.memory s'.memory) (ht : t ∈ s'.asterisk.live)
    (hid : t.id ≠ id) (hw : WellStored s'.memory) : t ∈ s.asterisk.live := by
  refine Asterisk.mem_live.mpr ⟨t.id, (h.index t.id hid).mp (hw.mem_index ht), ?_⟩
  have same : s'.memory.records t.id = s.memory.records t.id := h.records t.id hid
  exact same.symm.trans (hw.records_of_live ht)

/-- Once the transition of a hangup has returned, the hangup changes nothing any more. -/
theorem hangup_again {refusal : Prop} (hw' : WellStored s'.memory)
    (alone : ∀ u ∈ s.asterisk.live, u.names c = true → u = t)
    (hrole : t.role c = some role) (hg : t.status.target (hangupTransition role) = some g)
    (results : g.Results t t') (same : t.Same t') (link : Link t' s'.memory)
    (acts : Acts refusal {t.id} s.memory s'.memory) :
    Triple env (fun u => u = s') (hangup c) (fun _ u => Unmoved s'.memory u.memory)
      fun _ u => Unmoved s'.memory u.memory := by
  refine hangup_listed (Q := Unmoved s'.memory) hw' (.of_eq rfl) (fun _ => .of_eq rfl)
    fun u hu hn role' hrole' v hv => ?_
  -- the channel belongs to no other transfer than before
  have own : u.id = t.id := by
    by_contra hne
    exact hne (congrArg Transfer.id (alone u (acts.isLocal.live hu hne hw') hn))
  have stored : s'.memory.records t.id = some u := own ▸ hw'.records_of_live hu
  have alive : t'.status ≠ .ended := by
    intro hend
    rcases link with hst | ⟨-, hnone, -⟩
    · obtain ⟨p, hp⟩ := (hw'.stands hst).phase
      rw [hend] at hp
      cases hp
    · rw [same.id, stored] at hnone
      cases hnone
  obtain rfl : t' = u := by
    rcases link with hst | ⟨hend, -, -⟩
    · rw [same.id, stored] at hst
      exact (Option.some.inj hst).symm
    · exact absurd hend alive
  have alike : t.Alike t' := (hangup_results hg results).resolve_left alive
  obtain rfl : role = role' := by
    rw [alike.sameRole, hrole] at hrole'
    exact Option.some.inj hrole'
  obtain ⟨body, hm, hb⟩ := hangup_absorbed hg results alive
  obtain ⟨p, hp⟩ := (hw'.stands stored).phase
  have absorbed : Triple env (fun w => Linked env {t'.id} v t' w ∧ w.memory = s'.memory)
      (call (hangupTransition role) t') (fun _ w => Unmoved s'.memory w.memory)
      fun _ w => Unmoved s'.memory w.memory :=
    call_absorbed hm hb hp (hw'.records_of_live hu) (hw'.mem_index hu)
  refine absorbed.weaken (fun w hw => ⟨hw.1, hw.2.trans hv⟩) (fun _ _ h => h) fun e w h => ?_
  split <;> exact h

/-- The hangup has reached the transfer, and its transition has returned unless the transfer has
not started. -/
structure CarriedOut (env : Env) (c : ChannelId) (t : Transfer) (s : System) : Prop where
  received : Receives ((Op.hangup c).events env s) t c
  returned : t.status.phase ≠ some .initial → (hangup c env s).1 = .ok () ∧
    ∀ st, .aborted t.id st ∉ (Op.hangup c).events env s

theorem CarriedOut.delivered (h : CarriedOut env c t s) (hw : WellStored s.memory)
    (alone : ∀ u ∈ s.asterisk.live, u.names c = true → u = t) :
    Delivered env.RefusesDeletion t c s.memory (hangup c env s).2.memory := by
  have delivers : Triple env (fun u => u = s) (hangup c)
      (fun _ u => Delivered env.RefusesDeletion t c s.memory u.memory)
      fun _ u => t.status.phase = some .initial →
        Delivered env.RefusesDeletion t c s.memory u.memory := hangup_delivers hw alone
  rcases hr : hangup c env s with ⟨e | a, s'⟩
  · refine delivers.error rfl hr ?_
    by_contra started
    have ok := (h.returned started).1
    rw [hr] at ok
    cases ok
  · exact delivers.ok rfl hr

open Scene

end Calld.Transfers
