/-
# Which events the state machine is ready for

The handlers choose a transition by the role of a channel and the flow of the transfer, not
by the state.  `Op.Fits` says for each event in which states of the stored transfers every
transition that may be chosen is implemented, and `total_iff` that
`NotImplementedError` and `AttributeError` are out of reach exactly then.
-/
import Calld.Transfers.Routing

namespace Calld.Transfers

open Effect Effect.Program TransfersStasis TransferState

variable {env : Env} {I J : Set TransferId} {s s' s₀ : System} {m : Memory} {t t' : Transfer}
  {id : TransferId} {c : ChannelId} {tr : Transition} {role : Role}

/-! ## Ordinary exceptions -/

/-- Neither `NotImplementedError` nor `AttributeError`. -/
def Ordinary (e : Exn) : Prop := e.isUnimplemented = false

theorem Env.faults_ordinary (env : Env) : env.Faults Ordinary :=
  ⟨fun _ => rfl, fun _ => rfl, fun _ => rfl⟩

theorem Env.reads_ordinary (env : Env) (x : GlobalVariable) : env.Reads x Ordinary := by
  intro n a e _
  split <;> rfl

theorem Env.writes_ordinary (env : Env) : env.Writes Ordinary := fun _ _ _ _ _ => rfl

theorem Failing.ordinary {e : Exn} (h : Failing Ordinary e) : Ordinary e := by
  rcases h with h | h
  · exact h
  · cases e <;> first | rfl | cases h

/-- The call of a transition that the state implements. -/
theorem call_ordinary {g : Target} (hg : t.status.target tr = some g) :
    Triple env (Linked env I s₀ t) (call tr t)
      (fun t' s => Linked env I s₀ t' s ∧ g.Results t t') fun e _ => Ordinary e :=
  (call_spec env.faults_ordinary (env.reads_ordinary .index) env.writes_ordinary hg
    fun _ he => (Status.raises_failing he).ordinary).weaken (fun _ h => h)
    (fun _ _ h => ⟨h.1.linked, h.2⟩) fun _ _ h => h.2

theorem call_only_ordinary (hg : t.status.target tr ≠ none) :
    Triple env (Linked env I s₀ t) (do let _ ← call tr t) (fun _ _ => True)
      fun e _ => Ordinary e := by
  obtain ⟨g, hg⟩ := Option.ne_none_iff_exists'.mp hg
  exact (call_ordinary hg).bind fun _ => Triple.pure fun _ _ => trivial

/-- The factory raises what its body raises on the stored transfer. -/
theorem make_ordinary {body : Transfer → Code Unit} (hw : WellStored m)
    (h : ∀ t s₀, m.records id = some t → t.id = id →
      Triple env (Linked env Set.univ s₀ t) (body t) (fun _ _ => True) fun e _ => Ordinary e) :
    Triple env (fun u => u.memory = m) (StateFactory.make id body) (fun _ _ => True)
      fun e _ => Ordinary e := by
  rintro u rfl
  cases hst : u.memory.records id with
  | none =>
    refine ((make_unstored (env.reads_ordinary _) hst).weaken (fun _ h => h)
      (fun _ _ => False.elim) ?_) u rfl
    rintro e _ ⟨-, he | rfl⟩
    · exact he
    · rfl
  | some t =>
    exact (make_spec (env.reads_ordinary _) hw hst (Set.mem_univ id)
      (h t u hst (hw.stands hst).id) fun _ _ he _ => he) u rfl

theorem make_call_ordinary (hw : WellStored m)
    (h : ∀ t, m.records id = some t → t.status.target tr ≠ none) :
    Triple env (fun u => u.memory = m) (StateFactory.make id fun state => do let _ ← call tr state)
      (fun _ _ => True) fun e _ => Ordinary e :=
  make_ordinary hw fun t _ hst _ => call_only_ordinary (h t hst)

theorem publish_ordinary {q : Code Unit} {P : System → Prop}
    (h : Triple env P q (fun _ _ => True) fun e _ => Ordinary e) :
    Triple env P (publish q) (fun _ _ => True) fun e _ => Ordinary e := by
  have caught : Triple env P (catching isHandled q) (fun _ _ => True) fun e _ => Ordinary e :=
    Triple.catching (h.weaken (fun _ h => h) (fun _ _ h => h) fun e _ he => by
      split
      · trivial
      · exact he)
  exact caught.bind fun _ => Triple.pure fun _ _ => trivial

/-! ## What the events presuppose -/

/-- The transfer waits for the channel with the role to join stasis, and will still know
what to do when it is to be completed then. -/
def Transfer.Awaits (t : Transfer) : Role → Prop
  | .initiator => t.status ∈ [Status.noneMovedToStasis, .transferredMovedToStasis] ∨
      t.status ∈ [Status.noneMovedToStasisCancelled, .transferredMovedToStasisCancelled] ∧
        t.flow = .attended
  | .transferred => t.status ∈ [Status.noneMovedToStasis, .initiatorMovedToStasis] ∨
      t.status ∈ [Status.noneMovedToStasisCancelled, .initiatorMovedToStasisCancelled] ∧
        t.flow = .attended
  | .recipient => True

/-- The states in which the recipient may answer. -/
def Status.ringing (st : Status) : Prop := st ∈ [Status.ringback, .blindTransferred, .abandoned]

/-- The states of the stored transfers that an operation presupposes. -/
def Op.Fits (s : System) : Op → Prop
  | .hangup c => ∀ t ∈ s.asterisk.live, t.names c = true → t.status.phase ≠ some .initial
  | .lateHangup role t => ∀ t', s.asterisk.records t.id = some t' →
      t'.status.phase ≠ some .initial ∧ (role = .recipient → t'.status.phase = some .calling)
  | .stasisStart _ ("transfer" :: "transfer_recipient_called" :: id :: _) =>
    ∀ t, s.asterisk.records id = some t → t.status.ringing
  | .stasisStart c ("transfer" :: "create_transfer" :: id :: _) =>
    ∀ t role, s.asterisk.records id = some t → t.role c = some role → t.Awaits role
  | .lateJoin role t => ∀ t', s.asterisk.records t.id = some t' → t'.Awaits role
  | .processLostHangups => ∀ t ∈ s.asterisk.live, t.status.phase = some .calling
  | .lateLostHangups t => ∀ t', s.asterisk.records t.id = some t' → t'.status.phase = some .calling
  | _ => True

/-- The operation handles an event of Asterisk. -/
def Op.isEvent : Op → Bool
  | .create _ | .createFromUser .. | .complete _ | .completeFromUser .. | .cancel _
  | .cancelFromUser .. | .restart => false
  | _ => true

/-- Whatever ARI, wazo-amid and the bus answer, the handler calls no transition that the
state does not implement. -/
def Op.Total (op : Op) (s : System) : Prop :=
  ∀ (env : Env) (e : Exn), (op.code env s).1 = .error e → Ordinary e

/-! ## Ready for the event -/

/-- The hangup transitions are implemented from the moving phases on. -/
theorem hangup_target (h : t.Stands id) (hp : t.status.phase ≠ some .initial)
    (hr : role = .recipient → t.status.phase = some .calling) :
    t.status.target (hangupTransition role) ≠ none := by
  obtain ⟨p, hph⟩ := h.phase
  cases hst : t.status <;> rw [hst] at hp hr hph <;> cases role <;>
    first
    | decide
    | exact absurd rfl hp
    | exact absurd (hr rfl) (by decide)
    | cases hph

/-- A channel that is the recipient of a stored transfer has been called. -/
theorem calling_of_role (h : t.Stands id) (hr : t.role c = some .recipient) :
    t.status.phase = some .calling := by
  unfold Transfer.role at hr
  split_ifs at hr with ht hi hc
  · cases hr
  · cases hr
  · exact h.shaped.mp (by rw [← hc]; rfl)

theorem lookup_ordinary (c : ChannelId) :
    Triple env (fun u => u = s) (catching Exn.isKeyError (StatePersistor.getByChannel c))
      (fun r u => u.memory = s.memory ∧ ∀ t, r = some t → t ∈ s.asterisk.live ∧ t.names c = true)
      fun e _ => Ordinary e := by
  refine Triple.catching (((getByChannel_listed env.reads_ordinary c).run_state (quiet.refl s) ?_ ?_))
  · rintro t u ⟨hq, ht⟩
    exact ⟨hq.memory, fun _ hr => Option.some.inj hr ▸ ht⟩
  · rintro e u ⟨hq, he⟩
    split
    · exact ⟨hq.memory, fun _ hr => nomatch hr⟩
    · rcases he with he | rfl
      · exact he
      · rfl

theorem hangup_ordinary (hw : WellStored s.memory) (hfit : Op.Fits s (.hangup c)) :
    Triple env (fun u => u = s) (hangup c) (fun _ _ => True) fun e _ => Ordinary e := by
  unfold hangup
  refine (lookup_ordinary c).bind fun r => Triple.of_fact fun hr => ?_
  cases r with
  | none => exact Triple.pure fun _ _ => trivial
  | some t =>
    obtain ⟨ht, hn⟩ := hr t rfl
    have stored : s.memory.records t.id = some t := hw.records_of_live ht
    obtain ⟨role, hrole⟩ := Option.isSome_iff_exists.mp ((t.role_isSome c).trans hn)
    simp only [roleOf, hrole]
    refine publish_ordinary (make_call_ordinary hw fun t' hst => ?_)
    obtain rfl : t = t' := Option.some.inj (stored.symm.trans hst)
    have stands := hw.stands stored
    refine hangup_target stands (hfit t ht hn) ?_
    rintro rfl
    exact calling_of_role stands hrole

theorem answer_target (h : t.status.ringing) : t.status.target .recipientAnswer ≠ none := by
  unfold Status.ringing at h
  cases hst : t.status <;> rw [hst] at h <;> first | decide | exact absurd h (by decide)

theorem recipientAnswered_ordinary (hw : WellStored m) {args : List String}
    (h : ∀ id, args[2]? = some id → ∀ t, m.records id = some t → t.status.ringing) :
    Triple env (fun u => u.memory = m) (transferRecipientAnswered c args) (fun _ _ => True)
      fun e _ => Ordinary e := by
  unfold transferRecipientAnswered transferIdOf
  cases hid : args[2]? with
  | none => exact Triple.throw fun _ _ => rfl
  | some id =>
    have answer : Triple env (fun u => u.memory = m)
        (catching Exn.isKeyError (StateFactory.make id fun state => do
          let _ ← call .recipientAnswer state)) (fun _ _ => True) fun e _ => Ordinary e := by
      refine Triple.catching ((make_call_ordinary hw fun t hst => answer_target (h id hid t hst)).weaken
        (fun _ h => h) (fun _ _ h => h) fun e _ he => ?_)
      split
      · trivial
      · exact he
    refine answer.bind fun r => ?_
    cases r with
    | some _ => exact Triple.pure fun _ _ => trivial
    | none => exact Gives.triple (Gives.of_within (channelsDo_within env.faults_ordinary _ c))

/-! ### Joining stasis -/

/-- A transfer that awaits a channel implements its transition, and can be completed after it
if it is to be. -/
theorem join_target (h : t.Awaits role) (hj : joinTransition role = some tr) :
    ∃ g, t.status.target tr = some g ∧ ∀ t', g.Results t t' → t'.flow = .blind →
      t'.status.target .complete ≠ none := by
  cases role with
  | recipient => cases hj
  | initiator =>
    cases hj
    rcases h with h | ⟨h, hf⟩ <;> cases hst : t.status <;> rw [hst] at h <;>
      first | exact absurd h (by decide) | refine ⟨_, rfl, ?_⟩
    · rintro _ rfl -
      exact Option.some_ne_none _
    · rintro _ ⟨c, rfl⟩ -
      exact Option.some_ne_none _
    · rintro _ rfl hb
      exact absurd (hf.symm.trans hb) (by decide)
    · rintro _ rfl hb
      exact absurd (hf.symm.trans hb) (by decide)
  | transferred =>
    cases hj
    rcases h with h | ⟨h, hf⟩ <;> cases hst : t.status <;> rw [hst] at h <;>
      first | exact absurd h (by decide) | refine ⟨_, rfl, ?_⟩
    · rintro _ rfl -
      exact Option.some_ne_none _
    · rintro _ ⟨c, rfl⟩ -
      exact Option.some_ne_none _
    · rintro _ rfl hb
      exact absurd (hf.symm.trans hb) (by decide)
    · rintro _ rfl hb
      exact absurd (hf.symm.trans hb) (by decide)

theorem joined_ordinary (h : t.Awaits role) :
    Triple env (Linked env I s₀ t) (joined role t) (fun _ _ => True) fun e _ => Ordinary e := by
  unfold joined
  cases hj : joinTransition role with
  | none => exact Triple.throw fun _ _ => rfl
  | some tr =>
    obtain ⟨g, hg, hnext⟩ := join_target h hj
    refine (call_ordinary hg).bind fun t' => Triple.of_fact fun ht' => ?_
    split
    next hb => exact call_only_ordinary (hnext t' ht' hb)
    next => exact Triple.pure fun _ _ => trivial

theorem createTransfer_ordinary (hw : WellStored s.memory) {args : List String}
    (h : ∀ id, args[2]? = some id → ∀ t role, s.memory.records id = some t →
      t.role c = some role → t.Awaits role) :
    Triple env (fun u => u = s) (createTransfer c args) (fun _ _ => True)
      fun e _ => Ordinary e := by
  unfold createTransfer transferIdOf
  cases hid : args[2]? with
  | none => exact Triple.throw fun _ _ => rfl
  | some id =>
    have lookup : Triple env (fun u => u = s) (catching Exn.isKeyError (StatePersistor.get id))
        (fun r u => u.memory = s.memory ∧ ∀ t, r = some t → s.memory.records id = some t)
        fun e _ => Ordinary e := by
      refine Triple.catching ((get_spec (env.reads_ordinary _)).run_state (quiet.refl s) ?_ ?_)
      · rintro t u ⟨hq, ht⟩
        exact ⟨hq.memory, fun _ hr => Option.some.inj hr ▸ ht⟩
      · rintro e u ⟨hq, he⟩
        split
        · exact ⟨hq.memory, fun _ hr => nomatch hr⟩
        · rcases he with he | ⟨-, rfl⟩
          · exact he
          · rfl
    refine lookup.bind fun r => Triple.of_fact fun hr => ?_
    cases r with
    | none => exact Gives.triple (Gives.of_within (channelsDo_within env.faults_ordinary _ c))
    | some t =>
      have stored := hr t rfl
      cases hrole : t.role c with
      | none =>
        simp only [roleOf, hrole]
        exact fun _ _ => rfl
      | some role =>
        simp only [roleOf, hrole]
        refine make_ordinary hw fun t' s₀ hst own => joined_ordinary ?_
        rw [(hw.stands stored).id, stored] at hst
        obtain rfl : t = t' := Option.some.inj hst
        exact h id hid t role stored hrole

theorem stasisStart_ordinary (hw : WellStored s.memory) {args : List String}
    (hfit : Op.Fits s (.stasisStart c args)) :
    Triple env (fun u => u = s) (stasisStart c args) (fun _ _ => True) fun e _ => Ordinary e := by
  unfold stasisStart
  split
  next rest =>
    refine publish_ordinary ((recipientAnswered_ordinary hw fun id hid t hst => ?_).pre ?_)
    · cases rest with
      | nil => cases hid
      | cons id' rest =>
        cases hid
        exact hfit t hst
    · rintro u rfl
      rfl
  next rest =>
    refine publish_ordinary (createTransfer_ordinary hw fun id hid t role hst hrole => ?_)
    cases rest with
    | nil => cases hid
    | cons id' rest =>
      cases hid
      exact hfit t role hst hrole
  next => exact Triple.pure fun _ _ => trivial

/-! ### Recovery -/

/-- Calls on a transfer whose recipient has been called keep it so, until it ends. -/
def Status.isCalling (st : Status) : Prop := st.phase = some .calling ∨ st = .ended

theorem calling_hangup (h : t.status.isCalling) (role : Role) :
    ∃ g, t.status.target (hangupTransition role) = some g ∧
      ∀ t', g.Results t t' → t'.status.isCalling := by
  have stays : ∀ st, st.isCalling → t.status.target (hangupTransition role) = some (.goto st) →
      ∃ g, t.status.target (hangupTransition role) = some g ∧
        ∀ t', g.Results t t' → t'.status.isCalling := by
    intro st hst hg
    refine ⟨_, hg, ?_⟩
    rintro _ rfl
    exact hst
  have same : t.status.target (hangupTransition role) = some .stay →
      ∃ g, t.status.target (hangupTransition role) = some g ∧
        ∀ t', g.Results t t' → t'.status.isCalling := by
    intro hg
    refine ⟨_, hg, ?_⟩
    rintro _ rfl
    exact h
  have blind : t.status.target (hangupTransition role) = some .blind →
      ∃ g, t.status.target (hangupTransition role) = some g ∧
        ∀ t', g.Results t t' → t'.status.isCalling := by
    intro hg
    refine ⟨_, hg, ?_⟩
    rintro _ (rfl | rfl)
    · exact .inl rfl
    · exact .inr rfl
  rcases h with h | h
  · cases hst : t.status <;> rw [hst] at h <;> cases h <;> cases role <;> rw [hst] at stays same blind
    all_goals first
      | exact blind rfl
      | exact same rfl
      | exact stays .ended (.inr rfl) rfl
      | exact stays .abandoned (.inl rfl) rfl
  · rw [h] at same ⊢
    cases role <;> exact same rfl

theorem exists_ordinary (c : Option ChannelId) :
    Triple env (Linked env I s₀ t) (Channel.exists c) (fun _ => Linked env I s₀ t)
      fun e _ => Ordinary e :=
  ((exists_within env.faults_ordinary c).triple fun _ _ hs hq => hs.of_quiet hq).weaken
    (fun _ h => h) (fun _ _ h => h) fun _ _ h => h.2.of

theorem lostHangup_ordinary (h : t.status.isCalling) (c : Option ChannelId) (role : Role) :
    Triple env (Linked env I s₀ t) (lostHangup c (hangupTransition role) t)
      (fun t' s => Linked env I s₀ t' s ∧ t'.status.isCalling) fun e _ => Ordinary e := by
  unfold lostHangup
  refine (exists_ordinary c).bind fun found => ?_
  cases found with
  | true => exact Triple.pure fun _ hs => ⟨hs, h⟩
  | false =>
    obtain ⟨g, hg, hcalling⟩ := calling_hangup h role
    exact (call_ordinary hg).weaken (fun _ h => h) (fun t' _ h => ⟨h.1, hcalling t' h.2⟩)
      fun _ _ h => h

theorem lostHangups_ordinary (hw : WellStored m)
    (h : ∀ t', m.records t.id = some t' → t'.status.phase = some .calling) :
    Triple env (fun u => u.memory = m) (lostHangups t) (fun _ _ => True)
      fun e _ => Ordinary e := by
  refine make_ordinary hw fun t' s₀ hst _ => ?_
  refine (lostHangup_ordinary (.inl (h t' hst)) _ .transferred).bind fun t₁ =>
    Triple.of_fact fun h₁ => ?_
  refine (lostHangup_ordinary h₁ _ .initiator).bind fun t₂ => Triple.of_fact fun h₂ => ?_
  exact (lostHangup_ordinary h₂ _ .recipient).bind fun _ => Triple.pure fun _ _ => trivial

/-- The recipient of the stored transfer has been called, if there is one. -/
def Calling (id : TransferId) (m : Memory) : Prop :=
  ∀ t, m.records id = some t → t.status.phase = some .calling

theorem Acts.calling {refusal : Prop} {m' : Memory} (h : Acts refusal I m m')
    (hc : Calling id m) : Calling id m' := by
  induction h with
  | refl => exact hc
  | tail _ hact ih =>
    obtain ⟨j, -, hact⟩ := hact
    intro t ht
    cases hact with
    | @updated t₀ t' p p' hst hp hp' hnext hsame hown hshaped =>
      rw [Memory.log_records, Memory.store_records, Function.update_apply] at ht
      split at ht
      next heq =>
        cases ht
        obtain rfl : id = j := heq.trans hown
        obtain rfl : p = .calling := Option.some.inj (hp.symm.trans (ih _ hst))
        cases p' <;> first | exact hp' | cases hnext
      next => exact ih t ht
    | finished =>
      rw [Memory.log_records, Memory.forget_records, Memory.unlock_records,
        Function.update_apply] at ht
      split at ht
      · cases ht
      · exact ih t ht
    | _ => exact ih t ht

/-- A loop over the listed transfers, one after the other. -/
theorem forM_ordinary {J : System → Prop} {f : Transfer → Code Unit} (ts : List Transfer)
    (hact : ∀ t ∈ ts, Acting env Set.univ (f t))
    (hkeeps : ∀ u u', J u → After env Set.univ u u' → J u')
    (h : ∀ t ∈ ts, ∀ m, WellStored m → ∀ u, u.memory = m → J u →
      Triple env (fun u' => u' = u) (f t) (fun _ _ => True) fun e _ => Ordinary e) :
    Triple env (fun u => WellStored u.memory ∧ J u) (ts.forM f) (fun _ _ => True)
      fun e _ => Ordinary e := by
  induction ts with
  | nil => exact Triple.pure fun _ _ => trivial
  | cons t ts ih =>
    have rest := ih (fun t' ht' => hact t' (List.mem_cons_of_mem _ ht'))
      fun t' ht' => h t' (List.mem_cons_of_mem _ ht')
    show Triple env _ (f t >>= fun _ => ts.forM f) _ _
    refine Triple.bind (Q := fun _ u => WellStored u.memory ∧ J u) ?_ fun _ => rest
    rintro u ⟨hw, hJ⟩
    have both := ((h t List.mem_cons_self u.memory hw u rfl hJ).and
      ((Acting.triple (hact t List.mem_cons_self)).at_state (s := u) (After.refl hw)))
    exact (both.weaken (fun _ h => ⟨h, h⟩) (fun _ u' h => ⟨h.2.wellStored, hkeeps u u' hJ h.2⟩)
      fun _ _ h => h.1) u rfl

theorem list_ordinary :
    Triple env (fun u => u = s) StatePersistor.list
      (fun ts u => u.memory = s.memory ∧ ∀ t ∈ ts, t ∈ s.asterisk.live) fun e _ => Ordinary e :=
  (list_listed env.reads_ordinary).run_state (quiet.refl s)
    (fun _ _ h => ⟨h.1.memory, fun _ ht => h.2.subset ht⟩) fun _ _ h => h.2

theorem processLostHangups_ordinary (hw : WellStored s.memory)
    (hfit : Op.Fits s .processLostHangups) :
    Triple env (fun u => u = s) processLostHangups (fun _ _ => True) fun e _ => Ordinary e := by
  refine list_ordinary.bind fun ts => Triple.of_fact fun hts => ?_
  have calling : ∀ t ∈ ts, Calling t.id s.memory := by
    intro t ht t' hst
    obtain rfl : t = t' :=
      Option.some.inj ((hw.records_of_live (hts t ht)).symm.trans hst)
    exact hfit t (hts t ht)
  refine (forM_ordinary (J := fun u => ∀ t ∈ ts, Calling t.id u.memory) ts
    (fun t _ => lostHangups_acting trivial) (fun u u' hJ h t ht => h.acts.calling (hJ t ht))
    ?_).pre fun u hu => ?_
  · rintro t ht m hwm u rfl hJ
    exact (lostHangups_ordinary hwm (hJ t ht)).pre fun _ hu => by rw [hu]
  · rw [hu]
    exact ⟨hw, calling⟩

theorem answeredCall_ordinary (hw : WellStored m) (t : Transfer) :
    Triple env (fun u => u.memory = m) (answeredCall t) (fun _ _ => True)
      fun e _ => Ordinary e := by
  unfold answeredCall
  refine make_ordinary hw fun t' s₀ hst hid => ?_
  split
  next hring =>
    have answers (c : ChannelId) : Triple env (Linked env Set.univ s₀ t')
        (transferRecipientAnswered c ["", "", t.id]) (fun _ _ => True) fun e _ => Ordinary e := by
      intro u hu
      refine recipientAnswered_ordinary hu.after.wellStored (fun id hid t₂ hst₂ => ?_) u rfl
      cases hid
      have stored : u.memory.records t'.id = some t' := by
        rcases hu.link with h | ⟨he, -, -⟩
        · exact h
        · rw [hring] at he
          cases he
      obtain rfl : t' = t₂ := by
        rw [hid] at stored
        exact Option.some.inj (stored.symm.trans hst₂)
      rw [hring]
      exact .head _
    refine (exists_ordinary _).bind fun found => ?_
    cases found with
    | false => exact Triple.pure fun _ _ => trivial
    | true =>
      refine Triple.bind (Q := fun _ => Linked env Set.univ s₀ t') ?_ fun channel => ?_
      · exact ((ari_within env.faults_ordinary rfl).triple fun _ _ hs hq => hs.of_quiet hq).weaken
          (fun _ h => h) (fun _ _ h => h) fun _ _ h => h.2
      · split
        · exact answers channel.id
        · exact Triple.pure fun _ _ => trivial
  next => exact Triple.pure fun _ _ => trivial

theorem processAnsweredCalls_ordinary (hw : WellStored s.memory) :
    Triple env (fun u => u = s) processAnsweredCalls (fun _ _ => True) fun e _ => Ordinary e := by
  refine list_ordinary.bind fun ts => Triple.of_fact fun _ => ?_
  refine (forM_ordinary (J := fun _ => True) ts (fun t _ => answeredCall_acting t)
    (fun _ _ _ _ => trivial) ?_).pre fun u hu => ⟨hu ▸ hw, trivial⟩
  rintro t - m hwm u rfl -
  exact (answeredCall_ordinary hwm t).pre fun _ hu => by rw [hu]

/-! ### Events that ask nothing of the states -/

/-- Every state has a method for the end of the music on hold. -/
theorem mohStop_target (h : t.Stands id) : t.status.target .transferredMohStop ≠ none := by
  obtain ⟨p, hp⟩ := h.phase
  cases hst : t.status <;> first
    | exact Option.some_ne_none _
    | (rw [hst] at hp; cases hp)

theorem lateMohStop_ordinary (hw : WellStored m) (id : TransferId) :
    Triple env (fun u => u.memory = m)
      (StateFactory.make id fun state => do let _ ← call .transferredMohStop state)
      (fun _ _ => True) fun e _ => Ordinary e :=
  make_call_ordinary hw fun _ hst => mohStop_target (hw.stands hst)

theorem roleOf_ordinary (t : Transfer) (c : ChannelId) {P : System → Prop} :
    Triple env P (roleOf t c) (fun _ => P) fun e _ => Ordinary e := by
  unfold roleOf
  split
  · exact Triple.pure fun _ h => h
  · exact Triple.throw fun _ _ => rfl

theorem mohStop_ordinary (hw : WellStored s.memory) :
    Triple env (fun u => u = s) (mohStop c) (fun _ _ => True) fun e _ => Ordinary e := by
  unfold mohStop
  refine (lookup_ordinary c).bind fun r => Triple.of_fact fun _ => ?_
  cases r with
  | none => exact Triple.pure fun _ _ => trivial
  | some t =>
    refine (roleOf_ordinary t c).bind fun role => ?_
    split
    · exact lateMohStop_ordinary hw t.id
    · exact Triple.pure fun _ _ => trivial

/-- A call that leaves what the plugin remembers. -/
theorem ordinary_of_quiet {α : Type} {q : Code α} {P : System → Prop}
    (h : Within env quiet Ordinary q) :
    Triple env P q (fun _ _ => True) fun e _ => Ordinary e :=
  Gives.triple (Gives.of_within h)

theorem readBridgeVariables_ordinary (b : BridgeId) :
    Within env quiet Ordinary (AriHelpers.readBridgeVariables b) := by
  unfold AriHelpers.readBridgeVariables
  refine ((ari_within env.faults_ordinary rfl).catching fun _ => .inr).bind fun r => ?_
  cases r with
  | some _ => exact .look _
  | none => exact .pure _

theorem get_ordinary (id : TransferId) : Within env quiet Ordinary (StatePersistor.get id) := by
  unfold StatePersistor.get
  refine (readGlobal_reads (env.reads_ordinary _)).bind fun _ => (Within.look _).bind fun r => ?_
  cases r with
  | some t => exact .pure t
  | none => exact .throw rfl

theorem transferOfBridge_ordinary (b : BridgeId) :
    Within env quiet Ordinary (transferOfBridge b) := by
  have variable_ordinary : Within env quiet Ordinary
      (AriHelpers.getBridgeVariable b "WAZO_TRANSFER_ID") := by
    unfold AriHelpers.getBridgeVariable
    refine (readBridgeVariables_ordinary b).bind fun vars => ?_
    split
    · exact .pure _
    · exact .throw rfl
  unfold transferOfBridge
  refine (variable_ordinary.catching fun _ => .inr).bind fun r => ?_
  cases r with
  | none => exact .pure _
  | some id =>
    dsimp only
    split
    · exact .pure _
    · exact (get_ordinary id).catching fun _ => .inr

theorem cleanBridge_ordinary (application : String) (b : BridgeId) :
    Within env quiet Ordinary (cleanBridge application b) := by
  have empty (bridge : BridgeJson) : Within env quiet Ordinary (emptyBridge bridge) := by
    unfold emptyBridge
    split
    · exact ((channelsDo_within env.faults_ordinary _ _).ignoring fun _ => .inr).bind fun _ =>
        (ari_within env.faults_ordinary rfl).ignoring fun _ => .inr
    · exact .pure _
  unfold cleanBridge
  split
  · refine ((ari_within env.faults_ordinary rfl).catching fun _ => .inr).bind fun r => ?_
    cases r with
    | none => exact .pure _
    | some bridge =>
      dsimp only
      split
      · refine (transferOfBridge_ordinary _).bind fun r => ?_
        cases r with
        | some _ => exact .pure _
        | none => exact empty bridge
      · exact .pure _
  · exact .pure _

theorem updateTransferCallerId_ordinary (c : ChannelId) :
    Triple env (fun u => u = s) (updateTransferCallerId c) (fun _ _ => True)
      fun e _ => Ordinary e := by
  have update (c c' : ChannelId) : Within env quiet Ordinary
      (AriHelpers.updateConnectedline c c') :=
    (ari_within env.faults_ordinary rfl).bind fun _ =>
      (ari_within env.faults_ordinary rfl).bind fun _ => ari_within env.faults_ordinary rfl
  unfold updateTransferCallerId
  refine (lookup_ordinary c).bind fun r => Triple.of_fact fun _ => ?_
  cases r with
  | none => exact Triple.pure fun _ _ => trivial
  | some t =>
    refine (roleOf_ordinary t c).bind fun role => ?_
    split
    · refine ordinary_of_quiet (((update _ _).catching fun _ => .inr).bind fun r => ?_)
      cases r with
      | some _ => exact .pure _
      | none => exact (update _ _).ignoring fun _ => .inr
    · exact Triple.pure fun _ _ => trivial

/-- **An event that fits raises neither exception**, whatever the environment answers. -/
theorem total_of_fits (hw : WellStored s.memory) {op : Op} (hevent : op.isEvent = true)
    (hfit : op.Fits s) : op.Total s := by
  have raised {q : Code Unit} {env : Env} {e : Exn} (he : (q env s).1 = .error e)
      (h : Triple env (fun u => u = s) q (fun _ _ => True) fun e _ => Ordinary e) : Ordinary e := by
    rcases hq : q env s with ⟨r, u⟩
    rw [hq] at he
    exact h.error rfl (hq.trans (by rw [← he]))
  have known {q : Code Unit} {env : Env}
      (h : Triple env (fun u => u.memory = s.memory) q (fun _ _ => True) fun e _ => Ordinary e) :
      Triple env (fun u => u = s) q (fun _ _ => True) fun e _ => Ordinary e :=
    h.pre fun _ hu => by rw [hu]
  intro env e he
  refine raised he ?_
  cases op with
  | stasisStart c args => exact stasisStart_ordinary hw hfit
  | hangup c => exact hangup_ordinary hw hfit
  | mohStop c => exact mohStop_ordinary hw
  | channelLeftBridge application b => exact ordinary_of_quiet (cleanBridge_ordinary application b)
  | bridgeDestroyed b => exact ordinary_of_quiet (ari_within env.faults_ordinary rfl)
  | channelCallerId c => exact updateTransferCallerId_ordinary c
  | processLostHangups => exact processLostHangups_ordinary hw hfit
  | processAnsweredCalls => exact processAnsweredCalls_ordinary hw
  | lateHangup role t =>
    exact publish_ordinary (known (make_call_ordinary hw fun t' hst =>
      hangup_target (hw.stands hst) (hfit t' hst).1 (hfit t' hst).2))
  | lateJoin role t =>
    exact publish_ordinary (known (make_ordinary hw fun t' _ hst _ => joined_ordinary (hfit t' hst)))
  | lateMohStop t => exact known (lateMohStop_ordinary hw t.id)
  | lateLostHangups t => exact known (lostHangups_ordinary hw hfit)
  | lateAnsweredCall t => exact known (answeredCall_ordinary hw t)
  | _ => cases hevent

/-! ## Not ready for the event -/

/-- Started in the state, the code raises `NotImplementedError` or `AttributeError`. -/
def Unimplemented (env : Env) {α : Type} (P : System → Prop) (q : Code α) : Prop :=
  Triple env P q (fun _ _ => False) fun e _ => e.isUnimplemented = true

theorem publish_unimplemented {P : System → Prop} {q : Code Unit} (h : Unimplemented env P q) :
    Unimplemented env P (publish q) := by
  have caught : Unimplemented env P (catching isHandled q) :=
    Triple.catching (Triple.weaken h (fun _ h => h) (fun _ _ h => h) fun e _ he => by
      have unhandled : isHandled e = false := by
        cases e <;> first | rfl | cases he
      rw [unhandled, if_neg Bool.false_ne_true]
      exact he)
  exact caught.bind fun _ _ h => h.elim

theorem catching_unimplemented {P : System → Prop} {q : Code Unit} (h : Unimplemented env P q) :
    Unimplemented env P (catching Exn.isKeyError q) :=
  Triple.catching (Triple.weaken h (fun _ h => h) (fun _ _ h => h) fun e _ he => by
    have other : e.isKeyError = false := by
      cases e <;> first | rfl | cases he
    rw [other, if_neg Bool.false_ne_true]
    exact he)

theorem make_unimplemented (hr : ∀ X, env.Reads (.transfer id) X) (hw : WellStored s.memory)
    (hst : s.memory.records id = some t) {body : Transfer → Code Unit}
    (h : Unimplemented env (Linked env Set.univ s t) (body t)) :
    Unimplemented env (fun u => u = s) (StateFactory.make id body) :=
  make_spec (X := fun _ => False) (hr _) hw hst (Set.mem_univ id)
    (Triple.weaken h (fun _ h => h) (fun _ _ h => h) fun _ _ h => h) fun _ _ h => h.elim

theorem call_none (hg : t.status.target tr = none) :
    Unimplemented env (Linked env I s₀ t) (do let _ ← call tr t) :=
  Triple.bind (Q := fun _ _ => False)
    ((call_unimplemented hg).weaken (fun _ h => h) (fun _ _ h => h) fun _ _ h => h.2)
    fun _ _ h => h.elim

/-- ARI finds no transfer but one; nothing else fails. -/
def Env.showing (id : TransferId) : Env :=
  { Env.calm "" Scene.carol with
    ari := fun n a r =>
      match r with
      | .getGlobalVar (.transfer j) => if j = id then .ok () else .error .notFound
      | r => (Env.calm "" Scene.carol).ari n a r }

theorem Env.showing_shows (id : TransferId) : (Env.showing id).Shows fun j => decide (j = id) where
  index _ _ := rfl
  shown _ _ _ h := if_pos (of_decide_eq_true h)
  hidden _ _ _ h := if_neg (of_decide_eq_false h)

theorem Env.showing_reads (id : TransferId) (X : Exn → Prop) :
    (Env.showing id).Reads (.transfer id) X := by
  intro n a e he
  rw [(Env.showing_shows id).shown n a id (decide_eq_true rfl)] at he
  cases he

/-- The stored transfers that ARI finds are the one. -/
theorem live_showing (hw : WellStored s.memory) (ht : t ∈ s.asterisk.live) :
    ∃ ts, (s.asterisk.live.filter fun u => decide (u.id = t.id)) = t :: ts := by
  have mem : t ∈ s.asterisk.live.filter fun u => decide (u.id = t.id) :=
    List.mem_filter.mpr ⟨ht, decide_eq_true rfl⟩
  cases hf : s.asterisk.live.filter fun u => decide (u.id = t.id) with
  | nil =>
    rw [hf] at mem
    cases mem
  | cons u us =>
    have hu : u ∈ s.asterisk.live.filter fun u => decide (u.id = t.id) := by
      rw [hf]
      exact List.mem_cons_self
    obtain ⟨hlive, hid⟩ := List.mem_filter.mp hu
    obtain rfl := hw.eq_of_live hlive ht (of_decide_eq_true hid)
    exact ⟨us, rfl⟩

theorem Env.calm_healthy (id : TransferId) (recipient : ChannelId) :
    (Env.calm id recipient).Healthy where
  ari {n a r e} he := by
    rcases r with (_ | c) | _ | _ | _ | _ | _ | _ | _ | _ | _ | _ | w <;> cases he
    rfl
  reads _ _ _ := rfl
  writes _ _ _ := rfl
  ami n r e := by
    cases r <;> exact fun he => nomatch he
  bus _ := rfl

/-- No transition for a hangup before the channels are moved, nor for the hangup of a
recipient that has not been called. -/
theorem hangup_no_target (h : t.Stands id)
    (hp : t.status.phase = some .initial ∨ role = .recipient ∧ t.status.phase ≠ some .calling) :
    t.status.target (hangupTransition role) = none := by
  obtain ⟨p, hph⟩ := h.phase
  rcases hp with hp | ⟨rfl, hp⟩
  · cases hst : t.status <;> rw [hst] at hp <;> cases hp <;> cases role <;> rfl
  · cases hst : t.status <;> rw [hst] at hp hph <;>
      first | rfl | exact absurd rfl hp | cases hph

theorem hangup_unimplemented (hw : WellStored s.memory) (ht : t ∈ s.asterisk.live)
    (hn : t.names c = true) (hp : t.status.phase = some .initial) :
    Unimplemented (.showing t.id) (fun u => u = s) (hangup c) := by
  obtain ⟨ts, hlive⟩ := live_showing hw ht
  have lookup : Triple (.showing t.id) (fun u => u = s)
      (catching Exn.isKeyError (StatePersistor.getByChannel c))
      (fun r u => Quiet s u ∧ r = some t) fun _ _ => False := by
    have shown := getByChannel_shown (Env.showing_shows t.id) hw c
    rw [hlive, List.find?_cons_of_pos (by simpa using hn)] at shown
    refine Triple.catching (shown.run_state (quiet.refl s) (fun t' u h => ⟨h.1, h.2.symm⟩) ?_)
    rintro e u ⟨-, h, -⟩
    cases h
  obtain ⟨role, hrole⟩ := Option.isSome_iff_exists.mp ((t.role_isSome c).trans hn)
  unfold hangup
  refine (lookup.weaken (fun _ h => h) (fun _ _ h => h) fun _ _ => False.elim).bind fun r =>
    Triple.of_fact ?_
  rintro rfl
  simp only [roleOf, hrole]
  refine publish_unimplemented ?_
  intro u hq
  have hst : u.memory.records t.id = some t := by
    rw [hq.memory]
    exact hw.records_of_live ht
  have hwu : WellStored u.memory := hq.memory ▸ hw
  exact make_unimplemented (Env.showing_reads t.id) hwu hst
    (call_none (hangup_no_target (hwu.stands hst) (.inl hp))) u rfl

theorem Env.Healthy.readsOne (h : env.Healthy) (X : Exn → Prop) :
    env.Reads (.transfer id) X := h.readsAll _

theorem answer_unimplemented (henv : env.Healthy) (hw : WellStored s.memory) {args : List String}
    (hid : args[2]? = some id) (hst : s.memory.records id = some t) (hr : ¬ t.status.ringing) :
    Unimplemented env (fun u => u = s) (transferRecipientAnswered c args) := by
  have target : t.status.target .recipientAnswer = none := by
    unfold Status.ringing at hr
    cases h : t.status <;> first
      | rfl
      | exact absurd (by rw [h]; decide) hr
  have answer : Unimplemented env (fun u => u = s)
      (catching Exn.isKeyError (StateFactory.make id fun state => do
        let _ ← call .recipientAnswer state)) :=
    catching_unimplemented (make_unimplemented henv.readsOne hw hst (call_none target))
  unfold transferRecipientAnswered transferIdOf
  rw [hid]
  show Unimplemented env _ (catching _ _ >>= fun _ => _)
  exact answer.bind fun _ _ h => h.elim

/-- A transfer that does not await the channel has no transition for it, or has been cancelled
and is to be completed. -/
theorem join_no_target (h : ¬ t.Awaits role) : ∃ tr, joinTransition role = some tr ∧
    (t.status.target tr = none ∨ t.flow = .blind ∧ t.status.target tr = some (.goto .ended) ∧
      t.status.steadfast tr = true) := by
  have flow : t.flow ≠ .attended → t.flow = .blind := by
    cases t.flow <;> simp
  cases role with
  | recipient => exact absurd trivial h
  | initiator =>
    refine ⟨_, rfl, ?_⟩
    unfold Transfer.Awaits at h
    cases hst : t.status <;> rw [hst] at h <;> first
      | exact .inl rfl
      | exact absurd (.inl (by decide)) h
      | exact .inr ⟨flow fun hf => h (.inr ⟨by decide, hf⟩), rfl, rfl⟩
  | transferred =>
    refine ⟨_, rfl, ?_⟩
    unfold Transfer.Awaits at h
    cases hst : t.status <;> rw [hst] at h <;> first
      | exact .inl rfl
      | exact absurd (.inl (by decide)) h
      | exact .inr ⟨flow fun hf => h (.inr ⟨by decide, hf⟩), rfl, rfl⟩

theorem joined_unimplemented (henv : env.Healthy) (h : ¬ t.Awaits role) :
    Unimplemented env (Linked env I s₀ t) (joined role t) := by
  obtain ⟨tr, hj, htarget⟩ := join_no_target h
  unfold joined
  rw [hj]
  rcases htarget with hnone | ⟨hblind, hended, hsteadfast⟩
  · exact Triple.bind (Q := fun _ _ => False)
      ((call_unimplemented hnone).weaken (fun _ h => h) (fun _ _ h => h) fun _ _ h => h.2)
      fun _ _ h => h.elim
  · refine Triple.bind (Q := fun t' u => Linked env I s₀ t' u ∧ t' = fromState .ended t)
      ((call_steadfast henv hended hsteadfast).weaken (fun _ h => h)
        (fun _ _ h => ⟨h.1.linked, h.2⟩) fun _ _ h => h.elim) fun t' => Triple.of_fact ?_
    rintro rfl
    rw [if_pos (show (fromState .ended t).flow = .blind from hblind)]
    exact call_none rfl

theorem createTransfer_unimplemented (henv : env.Healthy) (hw : WellStored s.memory)
    {args : List String} (hid : args[2]? = some id) (hst : s.memory.records id = some t)
    (hrole : t.role c = some role) (h : ¬ t.Awaits role) :
    Unimplemented env (fun u => u = s) (createTransfer c args) := by
  have own : t.id = id := (hw.stands hst).id
  have lookup : Triple env (fun u => u = s) (catching Exn.isKeyError (StatePersistor.get id))
      (fun r u => Quiet s u ∧ r = some t) fun _ _ => False := by
    refine Triple.catching ((get_spec (henv.readsAll (X := fun _ => False) _)).run_state
      (quiet.refl s) ?_ ?_)
    · rintro t' u ⟨hq, hrec⟩
      exact ⟨hq, hrec.symm.trans hst⟩
    · rintro e u ⟨-, hx | ⟨hnone, -⟩⟩
      · exact hx.elim
      · exact absurd (hst.symm.trans hnone) (by simp)
  unfold createTransfer transferIdOf
  rw [hid]
  refine (lookup.weaken (fun _ h => h) (fun _ _ h => h) fun _ _ => False.elim).bind fun r =>
    Triple.of_fact ?_
  rintro rfl
  simp only [roleOf, hrole]
  intro u hq
  have hst' : u.memory.records t.id = some t := by
    rw [hq.memory, own]
    exact hst
  exact make_unimplemented henv.readsOne (hq.memory ▸ hw) hst' (joined_unimplemented henv h) u rfl

/-! ### Recovery -/

theorem exists_found {u : System} {d : Option ChannelId} {json : ChannelJson}
    (h : env.ari u.tick u.asterisk (.channelsGet d) = .ok json) :
    Channel.exists d env u = (.ok true, { u with tick := u.tick + 1 }) := by
  unfold Channel.exists
  rw [bind_apply]
  simp only [catching, ari, h]
  rfl

theorem exists_missing {u : System} {d : Option ChannelId}
    (h : env.ari u.tick u.asterisk (.channelsGet d) = .error .notFound) :
    Channel.exists d env u = (.ok false, { u with tick := u.tick + 1 }) := by
  unfold Channel.exists
  rw [bind_apply]
  simp only [catching, ari, h]
  rfl

/-- The recipient of the transfer is the only channel of it that ARI does not find. -/
structure Env.Loses (env : Env) (t : Transfer) (s : System) : Prop where
  read : env.ari s.tick s.asterisk (.getGlobalVar (.transfer t.id)) = .ok ()
  transferred : ∃ json, env.ari (s.tick + 1) s.asterisk (.channelsGet (some t.transferredCall)) =
    .ok json
  initiator : ∃ json, env.ari (s.tick + 2) s.asterisk (.channelsGet (some t.initiatorCall)) =
    .ok json
  recipient : env.ari (s.tick + 3) s.asterisk (.channelsGet t.recipientCall) = .error .notFound

/-- ARI does not find the channel that it is asked for in the request of the number. -/
def Env.losing (k : ℕ) : Env :=
  { Env.calm "" Scene.carol with
    ari := fun n a r =>
      match r with
      | .channelsGet d =>
        if n = k then .error .notFound else (Env.calm "" Scene.carol).ari n a (.channelsGet d)
      | r => (Env.calm "" Scene.carol).ari n a r }

theorem lostHangups_unimplemented (hw : WellStored s.memory) (henv : env.Loses t s)
    (hst : s.memory.records t.id = some t') (hp : t'.status.phase ≠ some .calling) :
    Unimplemented env (fun u => u = s) (lostHangups t) := by
  have stands := hw.stands hst
  have target : t'.status.target (hangupTransition .recipient) = none :=
    hangup_no_target stands (.inr ⟨rfl, hp⟩)
  have hst : s.asterisk.records t.id = some t' := hst
  obtain ⟨_, htransferred⟩ := henv.transferred
  obtain ⟨_, hinitiator⟩ := henv.initiator
  -- the state once the two channels have been found
  have found {tr : Transition} {d : ChannelId} {u : System} {json : ChannelJson}
      (h : env.ari u.tick u.asterisk (.channelsGet (some d)) = .ok json) :
      lostHangup (some d) tr t' env u = (.ok t', { u with tick := u.tick + 1 }) := by
    unfold lostHangup
    rw [bind_of_ok (exists_found h)]
    rfl
  have last (u : System) (hu : Linked env Set.univ s t' u) :
      ∃ e u', call .recipientHangup t' env u = (.error e, u') ∧ e.isUnimplemented = true := by
    rcases hc : call .recipientHangup t' env u with ⟨e | _, u'⟩
    · exact ⟨e, u', rfl, ((call_unimplemented target).error hu hc).2⟩
    · exact ((call_unimplemented target).ok hu hc).elim
  have get : StatePersistor.get t.id env { s with stateMachineLocked := true } =
      (.ok t', { s with stateMachineLocked := true, tick := s.tick + 1 }) := by
    unfold StatePersistor.get StatePersistor.readGlobal
    rw [bind_apply]
    simp only [bind_apply, catching, ari, henv.read, pure_apply, look_apply, hst, Asterisk.apply]
  obtain ⟨e, u', hcall, he⟩ := last
    { s with stateMachineLocked := true, tick := s.tick + 1 + 1 + 1 + 1 }
    ⟨⟨.refl, hw⟩, rfl, Set.mem_univ _, .stored (by rw [stands.id]; exact hst)⟩
  have missing : lostHangup t.recipientCall .recipientHangup t' env
      { s with stateMachineLocked := true, tick := s.tick + 1 + 1 + 1 } = (.error e, u') := by
    unfold lostHangup
    rw [bind_of_ok (exists_missing henv.recipient)]
    exact hcall
  rintro u rfl
  unfold lostHangups StateFactory.make StateFactory.locked
  rw [bind_apply]
  simp only [change_apply]
  rw [ensuring_apply, bind_of_ok get]
  simp only [stands.hasConstructor, Bool.not_true, Bool.false_eq_true, if_false]
  rw [bind_of_ok (found htransferred), bind_of_ok (found hinitiator), bind_of_error missing]
  exact he

theorem processLostHangups_unimplemented (hw : WellStored s.memory) (ht : t ∈ s.asterisk.live)
    (hp : t.status.phase ≠ some .calling) :
    Unimplemented (.showing t.id) (fun u => u = s) processLostHangups := by
  obtain ⟨ts, hlive⟩ := live_showing hw ht
  have listed := (list_shown (Env.showing_shows t.id) hw).at_state (quiet.refl s)
  rw [hlive] at listed
  refine (listed.weaken (fun _ h => h) (fun _ _ h => h) fun _ _ => False.elim).bind fun l =>
    Triple.of_fact ?_
  rintro rfl
  intro u hq
  have first : Unimplemented (.showing t.id) (fun u' => u' = u) (lostHangups t) := by
    have hst : u.memory.records t.id = some t := by
      rw [hq.memory]
      exact hw.records_of_live ht
    have norecipient : t.recipientCall = none := by
      rw [← Option.not_isSome_iff_eq_none]
      exact fun h => hp ((hw.stands (hw.records_of_live ht)).shaped.mp h)
    refine lostHangups_unimplemented (hq.memory ▸ hw) ⟨if_pos rfl, ⟨_, rfl⟩, ⟨_, rfl⟩, ?_⟩ hst hp
    rw [norecipient]
    rfl
  have loop : Unimplemented (.showing t.id) (fun u' => u' = u)
      (lostHangups t >>= fun _ => ts.forM lostHangups) := first.bind fun _ _ h => h.elim
  exact loop u rfl

/-- An event that does not fit raises one of the exceptions in some environment. -/
theorem not_total {op : Op} (h : Unimplemented env (fun u => u = s) op.code) : ¬ op.Total s := by
  intro total
  rcases hop : op.code env s with ⟨e | _, u⟩
  · have he := h.error rfl hop
    rw [total env e (by rw [hop])] at he
    cases he
  · exact h.ok rfl hop

theorem fits_of_total (hw : WellStored s.memory) {op : Op} (htotal : op.Total s) : op.Fits s := by
  have healthy : (Env.calm "" Scene.carol).Healthy := Env.calm_healthy _ _
  by_contra hfit
  unfold Op.Fits at hfit
  split at hfit
  next c =>
    push Not at hfit
    obtain ⟨t, ht, hn, hp⟩ := hfit
    exact not_total (hangup_unimplemented hw ht hn hp) htotal
  next role t =>
    push Not at hfit
    obtain ⟨t', hst, hp⟩ := hfit
    refine not_total (publish_unimplemented (make_unimplemented healthy.readsOne hw hst (call_none
      (hangup_no_target (hw.stands hst) ?_)))) htotal
    by_cases hi : t'.status.phase = some .initial
    · exact .inl hi
    · exact .inr (hp hi)
  next c id rest =>
    push Not at hfit
    obtain ⟨t, hst, hp⟩ := hfit
    exact not_total (publish_unimplemented (answer_unimplemented healthy hw rfl hst hp)) htotal
  next c id rest =>
    push Not at hfit
    obtain ⟨t, role, hst, hrole, hp⟩ := hfit
    exact not_total (publish_unimplemented
      (createTransfer_unimplemented healthy hw rfl hst hrole hp)) htotal
  next role t =>
    push Not at hfit
    obtain ⟨t', hst, hp⟩ := hfit
    exact not_total (publish_unimplemented (make_unimplemented healthy.readsOne hw hst
      (joined_unimplemented healthy hp))) htotal
  next =>
    push Not at hfit
    obtain ⟨t, ht, hp⟩ := hfit
    exact not_total (processLostHangups_unimplemented hw ht hp) htotal
  next t =>
    push Not at hfit
    obtain ⟨t', hst, hp⟩ := hfit
    have lost : (Env.losing (s.tick + 3)).Loses t s :=
      ⟨rfl, ⟨_, if_neg (by omega)⟩, ⟨_, if_neg (by omega)⟩, if_pos rfl⟩
    exact not_total (lostHangups_unimplemented hw lost hst hp) htotal
  next => exact hfit trivial

/-- **A handler is total exactly when the event fits the states of the stored transfers.** -/
theorem total_iff {A : Allowed} (h : Reachable A s) {op : Op} (hevent : op.isEvent = true) :
    op.Total s ↔ op.Fits s :=
  ⟨fits_of_total h.wellStored, total_of_fits h.wellStored hevent⟩

/-! ## Events that find no method -/

open Scene

/-- Alice transfers Bob, both out of stasis, and Bob joins. -/
def joinedRun : System :=
  run [((Env.calm "first" carol).outside, .create (request bob alice .attended)),
    (.calm "second" carol, .stasisStart bob ["transfer", "create_transfer", "first"])] .start

theorem joinedRun_reachable : Reachable GlobalsWritten joinedRun :=
  run_reachable ⟨by decide +kernel, fun _ _ _ => rfl, by decide +kernel, Env.calm_writes _ _,
    trivial⟩

/-- A hangup fits once the channels are being moved. -/
theorem total_iff_hangup : (Op.hangup bob).Total joinedRun ↔ (Op.hangup bob).Fits joinedRun :=
  total_iff joinedRun_reachable rfl

/-- **Events find no method**: when Bob's join is delivered twice, and when a channel of a transfer
that could not start hangs up. -/
theorem events_find_no_method :
    (∃ s, Reachable GlobalsWritten s ∧
      ((Op.stasisStart bob ["transfer", "create_transfer", "first"]).code
        (.calm "third" carol) s).1 = .error .attributeError) ∧
    ∃ s, Reachable GlobalsWritten s ∧
      ((Op.hangup bob).code ((Env.calm "third" carol).without [bob]) s).1 =
        .error (.notImplementedError .ready) := by
  refine ⟨⟨joinedRun, joinedRun_reachable, by decide +kernel⟩,
    run [((Env.calm "first" carol).refusing, .create (request bob alice .attended))] .start,
    run_reachable ⟨by decide +kernel, fun _ _ _ => rfl, trivial⟩, by decide +kernel⟩

end Calld.Transfers
