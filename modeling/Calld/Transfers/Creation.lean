/-
# Creating a transfer

What `TransfersService.create` does to the memory: the checks end with the lock on the
initiator (`createChecks_triple`), then the transfer is stored and started, and whatever
happens afterwards are acts on behalf of that transfer (`createLocked_triple`).
-/
import Calld.Transfers.Handlers

namespace Calld.Transfers

open Effect Effect.Program TransfersService
open AriHelpers (StartArgs)

variable {env : Env} {I : Set TransferId} {s₀ s s' : System} {t : Transfer} {m : Memory}
  {r : CreateRequest}

/-- A quiet call, as a contract on the memory. -/
theorem quiet_memory {α : Type} {E : Exn → Prop} {q : Code α} (h : Within env quiet E q) :
    Triple env (fun s => s.memory = m) q (fun _ s => s.memory = m) fun _ s => s.memory = m :=
  (h.triple fun _ _ hs hq => hq.memory.trans hs).weaken (fun _ h => h) (fun _ _ h => h)
    fun _ _ => And.left

/-! ## The checks -/

theorem extensionExists_within (context exten : String) :
    Within env quiet (fun _ => True) (Ami.extensionExists context exten) := by
  have dialplan : Within env quiet (fun _ => True)
      (ami (.showDialplan context exten) Ami.showDialplanError) := by
    intro s
    unfold ami
    cases env.ami s.tick (.showDialplan context exten) with
    | ok a => exact ⟨⟨rfl, rfl, rfl, rfl, rfl⟩, fun _ _ => trivial⟩
    | error e => exact ⟨⟨rfl, rfl, rfl, rfl, rfl⟩, fun _ _ => trivial⟩
  unfold Ami.extensionExists
  refine (dialplan.catching fun _ => .inr).bind fun r => ?_
  cases r with
  | none => exact .pure _
  | some response => exact .pure _

theorem acquire_memory (c : ChannelId) :
    Triple env (fun s => s.memory = m) (TransferLock.acquire c)
      (fun b s => if b = true then c ∉ m.lockedCalls ∧ s.memory = m.lock c else s.memory = m)
      fun _ s => s.memory = m := by
  rintro s rfl
  by_cases hc : c ∈ s.lockedCalls
  · simp [TransferLock.acquire, bind_apply, hc]
  · simp only [TransferLock.acquire, bind_apply, look_apply, hc, if_false, change_apply,
      pure_apply, if_true]
    exact ⟨hc, rfl⟩

/-- The checks lock the initiator, or raise and change nothing. -/
theorem createChecks_triple :
    Triple env (fun s => s.memory = m) (createChecks r)
      (fun _ s => r.initiatorCall ∉ m.lockedCalls ∧ s.memory = m.lock r.initiatorCall)
      fun _ s => s.memory = m := by
  have channels : Within env quiet (fun _ => True) (do
      let _ ← ari (.channelsGet (some r.transferredCall))
      let _ ← ari (.channelsGet (some r.initiatorCall))) :=
    (ari_within env.faults_any rfl).bind fun _ => (ari_within env.faults_any rfl).bind fun _ =>
      .pure _
  unfold createChecks
  refine (quiet_memory (orRaise_within channels _)).bind fun _ => ?_
  refine (quiet_memory (extensionExists_within _ _)).bind fun b => ?_
  cases b with
  | false => exact fun _ => id
  | true =>
    refine (acquire_memory r.initiatorCall).bind fun b => ?_
    cases b with
    | false => exact Triple.throw fun _ h => h
    | true => exact Triple.pure fun _ h => h

/-! ## The start -/

/-- The notification of the creation, once the transfer has started. -/
theorem notify_created (h : t.status ≠ .ended) :
    Triple env (Linked env I s₀ t) (notify .created t) (fun _ => Linked env I s₀ t)
      fun _ => After env I s₀ := by
  intro s hl
  by_cases hb : env.bus s.tick = true
  · simp only [notify, hb, if_true]
    rcases hl.link with hst | ⟨he, -, -⟩
    · obtain ⟨p, hp⟩ := (hl.after.wellStored.stands hst).phase
      refine ⟨hl.after.step hl.mem (.announced hst hp fun e he => ?_), hl.flag, hl.mem,
        .stored hst⟩
      obtain rfl := List.mem_singleton.mp he
      exact ⟨rfl, by cases p <;> rfl⟩
    · exact absurd he h
  · simp only [notify, hb, Bool.false_eq_true, if_false]
    exact hl.after.of_eq rfl

/-- `create` releases the lock once more when the start of its transfer has raised. -/
theorem abort_remaining (hid : t.id ∈ I) (h0 : t.status.phase = some .initial)
    {E : Exn → System → Prop} :
    Triple env (Aborted env I s₀ t) (abort t t.initiatorCall) (fun _ => After env I s₀) E := by
  rintro s ⟨ha, hr⟩
  obtain ⟨t', hst, hi⟩ := hr h0
  have live : t.status ≠ .ended := fun he => by
    rw [he] at h0
    cases h0
  exact ha.step hid (hi ▸ .aborted hst live)

theorem createStart_triple (hi : r.initiatorCall = t.initiatorCall)
    (h0 : t.status.phase = some .initial) :
    Triple env (Linked env I s₀ t) (createStart r t) (fun _ => After env I s₀)
      fun _ => After env I s₀ := by
  by_cases hid : t.id ∈ I
  · unfold createStart
    rw [hi]
    refine ((callWith_triple _ _ t).onRaise fun _ => abort_remaining hid h0).bind fun t' => ?_
    intro s hc
    refine ((notify_created (hc.started h0)).bind fun _ => ?_) s hc.linked
    split
    · exact (call_linked _ t').weaken (fun _ => id) (fun _ _ => Linked.after) fun _ _ => id
    · exact Triple.pure fun _ => Linked.after
  · exact fun s hl => absurd hl.mem hid

/-! ## The creation -/

/-- A new transfer has been stored and indexed, its initiator locked. -/
structure Born (env : Env) (m : Memory) (c : ChannelId) (s : System) (t : Transfer) : Prop where
  own : t.id = env.uuid4
  initiator : t.initiatorCall = c
  phase : t.status.phase = some .initial
  shaped : Shaped t
  indexed : Reindexed t.id (((m.lock c).store t).log [.stored t.id]) s.memory
  mem_index : t.id ∈ s.memory.index

/-- Where the creation of a transfer has come to when it raises: nothing is stored, or
the transfer is stored but not indexed, or it has been created. -/
inductive CreateFailed (env : Env) (m : Memory) (c : ChannelId) (s : System) : Prop
  | unstored (h : s.memory = m.lock c)
  | unindexed {t : Transfer} (own : t.id = env.uuid4) (initiator : t.initiatorCall = c)
      (phase : t.status.phase = some .initial) (shaped : Shaped t)
      (h : s.memory = ((m.lock c).store t).log [.stored t.id])
  | created {s₁ : System} {t : Transfer} (born : Born env m c s₁ t)
      (after : After env {env.uuid4} s₁ s)

theorem CreateFailed.of_eq {c : ChannelId} (h : CreateFailed env m c s)
    (hm : s'.memory = s.memory) : CreateFailed env m c s' := by
  cases h with
  | unstored h => exact .unstored (hm.trans h)
  | unindexed own initiator phase shaped h =>
    exact .unindexed own initiator phase shaped (hm.trans h)
  | created born after => exact .created born (after.of_eq hm)

theorem Born.wellStored {c : ChannelId} (h : Born env m c s t) (hm : WellStored m) :
    WellStored s.memory := by
  have locked : WellStored (m.lock c) := hm.of_eq rfl rfl List.prefix_rfl
  have stored : WellStored (((m.lock c).store t).log [.stored t.id]) :=
    locked.store
      ⟨rfl, ⟨_, h.phase⟩, h.shaped⟩ rfl rfl rfl
  have acts : Acts False {t.id} _ s.memory := h.indexed.acts (Set.mem_singleton t.id)
  exact acts.wellStored stored

/-- A transfer that is born is a linked state object. -/
theorem Born.linked {c : ChannelId} (h : Born env m c s t) (hm : WellStored m)
    (hflag : s.stateMachineLocked = true) : Linked env {env.uuid4} s t s :=
  ⟨After.refl (h.wellStored hm), hflag, h.own, h.indexed.link (.stored (by simp))⟩

theorem isInStasis_memory (c : ChannelId) :
    Triple env (fun s => s.memory = m) (Channel.isInStasis c) (fun _ s => s.memory = m)
      fun _ s => s.memory = m := quiet_memory (isInStasis_within env.faults_any c)

/-- A new transfer starts in the initial phase. -/
theorem initialState_triple :
    Triple env (fun s => s.memory = m) (initialState r)
      (fun st s => s.memory = m ∧ st.phase = some .initial) fun _ s => s.memory = m := by
  unfold initialState
  refine (isInStasis_memory _).bind fun b => ?_
  cases b with
  | false => exact fun s hs => ⟨hs, rfl⟩
  | true =>
    refine (isInStasis_memory _).bind fun b => ?_
    cases b with
    | false => exact fun s hs => ⟨hs, rfl⟩
    | true => exact fun s hs => ⟨hs, rfl⟩

/-- The record of a new transfer. -/
theorem newTransfer_triple (uuid : UserUuid) :
    Triple env (fun s => s.memory = m) (newTransfer r uuid)
      (fun t s => s.memory = m ∧ t.id = env.uuid4 ∧ t.initiatorCall = r.initiatorCall ∧
        t.recipientCall = none) fun _ s => s.memory = m :=
  (quiet_memory (tenantUuid_within env.faults_any _)).bind fun _ =>
    (Triple.ask (Q := fun id (s : System) => s.memory = m ∧ id = env.uuid4)
      fun _ h => ⟨h, rfl⟩).bind fun _ => Triple.pure fun _ h => ⟨h.1, h.2, rfl, rfl⟩

/-- The transfer is stored, indexed and started. -/
theorem makeFromClass_triple (hm : WellStored m) {st : Status} (hst : st.phase = some .initial)
    (own : t.id = env.uuid4) (initiator : t.initiatorCall = r.initiatorCall)
    (recipient : t.recipientCall = none) :
    Triple env (fun s => s.memory = m.lock r.initiatorCall)
      (StateFactory.makeFromClass st t (createStart r))
      (fun _ s => ∃ s₁ t, Born env m r.initiatorCall s₁ t ∧ After env {env.uuid4} s₁ s)
      fun _ => CreateFailed env m r.initiatorCall := by
  set u := TransferState.fromState st t with hu
  have own : u.id = env.uuid4 := own
  have initiator : u.initiatorCall = r.initiatorCall := initiator
  have phase : u.status.phase = some .initial := hst
  have shaped : Shaped u := by
    simp [Shaped, hu, TransferState.fromState, recipient, hst]
  have store : Triple env (fun s => s.memory = m.lock r.initiatorCall ∧ s.stateMachineLocked = true)
      (updateCache u) (fun _ s => Born env m r.initiatorCall s u ∧ s.stateMachineLocked = true)
      fun _ => CreateFailed env m r.initiatorCall := by
    rw [updateCache_of_phase phase]
    refine ((upsert_memory u).and (flag_triple (upsert_flag u))).weaken (fun _ h => h)
      (fun _ s h => ?_) fun _ s h => ?_
    · exact ⟨⟨own, initiator, phase, shaped, h.1.1, h.1.2⟩, h.2⟩
    · rcases h.1 with h | h
      · exact .unstored h
      · exact .unindexed own initiator phase shaped h
  have start : Triple env
      (fun s => Born env m r.initiatorCall s u ∧ s.stateMachineLocked = true) (createStart r u)
      (fun _ s => ∃ s₁ t, Born env m r.initiatorCall s₁ t ∧ After env {env.uuid4} s₁ s)
      fun _ => CreateFailed env m r.initiatorCall := fun s hb =>
    ((createStart_triple initiator.symm phase).weaken (fun _ h => h)
      (fun _ _ h => ⟨s, u, hb.1, h⟩) fun _ _ => .created hb.1) s (hb.1.linked hm hb.2)
  unfold StateFactory.makeFromClass StateFactory.locked
  refine Triple.bind (Q := fun _ s => s.memory = m.lock r.initiatorCall ∧
    s.stateMachineLocked = true) (Triple.change fun _ h => ⟨h, rfl⟩) fun _ => Triple.ensuring ?_
  refine (store.bind fun _ => start).weaken (fun _ h => h) ?_ fun _ _ h => h.of_eq rfl
  rintro _ s ⟨s₁, t, hb, ha⟩
  exact ⟨s₁, t, hb, ha.of_eq rfl⟩

/-- **The creation, once the initiator is locked.** -/
theorem createLocked_triple (hm : WellStored m) :
    Triple env (fun s => s.memory = m.lock r.initiatorCall) (createLocked r)
      (fun _ s => ∃ s₁ t, Born env m r.initiatorCall s₁ t ∧ After env {env.uuid4} s₁ s)
      fun _ => CreateFailed env m r.initiatorCall := by
  have unstored {α : Type} {q : Code α} {Q : α → System → Prop}
      (h : Triple env (fun s => s.memory = m.lock r.initiatorCall) q Q
        fun _ s => s.memory = m.lock r.initiatorCall) :
      Triple env (fun s => s.memory = m.lock r.initiatorCall) q Q
        fun _ => CreateFailed env m r.initiatorCall :=
    h.weaken (fun _ h => h) (fun _ _ h => h) fun _ _ => .unstored
  unfold createLocked
  refine (unstored (quiet_memory (user_within env.faults_any _))).bind fun user => ?_
  cases user with
  | none => exact Triple.throw fun _ => .unstored
  | some uuid =>
    refine (unstored (newTransfer_triple uuid)).bind fun t => Triple.of_fact ?_
    rintro ⟨own, initiator, recipient⟩
    refine (unstored initialState_triple).bind fun st => Triple.of_fact fun hst => ?_
    exact makeFromClass_triple hm hst own initiator recipient

/-! ## The moves of a creation -/

section Moves

variable {c : ChannelId}

theorem Born.moves (h : Born env m c s t) (free : c ∉ m.lockedCalls)
    (fresh : .stored env.uuid4 ∉ m.trace) :
    Moves env.RefusesDeletion False m s.memory := by
  have initiator := h.initiator
  subst initiator
  have indexed : Acts env.RefusesDeletion {t.id} _ s.memory :=
    h.indexed.acts (Set.mem_singleton t.id)
  exact .head (.born free (h.own ▸ fresh) h.phase h.shaped) indexed.moves

theorem CreateFailed.moves (h : CreateFailed env m c s) (free : c ∉ m.lockedCalls)
    (fresh : .stored env.uuid4 ∉ m.trace) :
    Moves env.RefusesDeletion False m s.memory := by
  cases h with
  | unstored h => exact h ▸ .single (.acquired free)
  | unindexed own initiator phase shaped h =>
    subst initiator
    exact h ▸ .single (.born free (own ▸ fresh) phase shaped)
  | created born after => exact (born.moves free fresh).trans after.acts.moves

/-- **A creation is a sequence of moves.** -/
theorem create_moves (hs : WellStored s.memory) (fresh : .stored env.uuid4 ∉ s.memory.trace) :
    Moves env.RefusesDeletion False s.memory (create r env s).2.memory := by
  have checks := @createChecks_triple env s.memory r s rfl
  unfold create
  rw [bind_apply]
  rcases h : createChecks r env s with ⟨e | _, s₁⟩
  · rw [h] at checks
    rw [checks]
  · rw [h] at checks
    obtain ⟨free, hm⟩ := checks
    have locked := @createLocked_triple env s.memory r hs s₁ hm
    show Moves _ _ _ (createLocked r env s₁).2.memory
    rcases h' : createLocked r env s₁ with ⟨e | t, s₂⟩
    · rw [h'] at locked
      exact locked.moves free fresh
    · rw [h'] at locked
      obtain ⟨s₁, t, born, after⟩ := locked
      exact (born.moves free fresh).trans after.acts.moves

theorem create_triple (hm : WellStored m) (fresh : .stored env.uuid4 ∉ m.trace) :
    Triple env (fun s => s.memory = m) (create r)
      (fun _ s => Moves env.RefusesDeletion False m s.memory)
      fun _ s => Moves env.RefusesDeletion False m s.memory := by
  rintro s rfl
  have moves := create_moves (r := r) hm fresh
  rcases h : create r env s with ⟨e | t, s'⟩ <;> rwa [h] at moves

/-! ## Creation by a user -/

theorem confd_within (r : ConfdRequest) (onError : ConfdError → Exn) :
    Within env quiet (fun _ => True) (confd r onError) := by
  intro s
  unfold confd
  cases env.confd s.tick r with
  | ok a => exact ⟨⟨rfl, rfl, rfl, rfl, rfl⟩, fun _ _ => trivial⟩
  | error e => exact ⟨⟨rfl, rfl, rfl, rfl, rfl⟩, fun _ _ => trivial⟩

theorem mainLineContext_within (uuid : UserUuid) :
    Within env quiet (fun _ => True) (mainLineContext uuid) := by
  unfold mainLineContext
  refine (confd_within _ _).bind fun _ => (confd_within _ _).bind fun user => ?_
  cases user.lines with
  | nil => exact .throw trivial
  | cons line lines => exact confd_within _ _

theorem transferredCandidate_within (c : ChannelId) :
    Within env quiet (fun _ => True) (transferredCandidate c) := by
  have connected : Within env quiet (fun _ => True) (Channel.onlyConnectedChannel c) := by
    unfold Channel.onlyConnectedChannel Channel.connectedChannels
    refine ((ari_within env.faults_any rfl).bind fun _ => .pure _).bind fun cs => ?_
    split
    · exact .throw trivial
    · exact .pure _
    · exact .throw trivial
  unfold transferredCandidate
  refine connected.tryCatch fun e _ => ?_
  split <;> exact .throw trivial

theorem createFromUser_triple (hm : WellStored m) (fresh : .stored env.uuid4 ∉ m.trace)
    (exten : String) (flow : Flow) (timeout : Option ℤ) (uuid : UserUuid) :
    Triple env (fun s => s.memory = m) (createFromUser c exten flow timeout uuid)
      (fun _ s => Moves env.RefusesDeletion False m s.memory)
      fun _ s => Moves env.RefusesDeletion False m s.memory := by
  have quiet {α : Type} {E : Exn → Prop} {q : Code α} (h : Within env quiet E q) :
      Triple env (fun s => s.memory = m) q (fun _ s => s.memory = m)
        fun _ s => Moves env.RefusesDeletion False m s.memory :=
    (quiet_memory h).weaken (fun _ h => h) (fun _ _ h => h) fun _ s h => h ▸ .refl
  have rest : Triple env (fun s => s.memory = m) (do
      let transferredCall ← transferredCandidate c
      let context ← mainLineContext uuid
      create ⟨transferredCall, c, context, exten, flow, .object [], timeout⟩)
      (fun _ s => Moves env.RefusesDeletion False m s.memory)
      fun _ s => Moves env.RefusesDeletion False m s.memory :=
    (quiet (transferredCandidate_within c)).bind fun _ =>
      (quiet (mainLineContext_within uuid)).bind fun _ => create_triple hm fresh
  unfold createFromUser
  refine (quiet (exists_within env.faults_any _)).bind fun b => ?_
  cases b with
  | false => exact fun s h => h ▸ .refl
  | true =>
    refine (quiet (user_within env.faults_any _)).bind fun user => ?_
    dsimp only
    split
    · exact fun s h => h ▸ .refl
    · exact rest

end Moves

end Calld.Transfers
