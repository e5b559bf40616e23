/-
# The handlers refine the moves

The requests of the API and the handlers of the events look up transfers and call
transitions; they change the memory by moves only.
-/
import Calld.Transfers.Refinement

namespace Calld.Transfers

open Effect Effect.Program
open AriHelpers (StartArgs)

variable {env : Env} {I : Set TransferId} {s₀ s s' : System} {t : Transfer}

/-! ## The frame of the plugin -/

/-- The frame of the code that acts on behalf of some transfers, as long as the stored
transfers are well-formed. -/
def plugin (env : Env) (I : Set TransferId) : Frame System where
  rel s s' := WellStored s.memory → After env I s s'
  refl _ h := ⟨.refl, h⟩
  trans h h' hs := ⟨(h hs).acts.trans (h' (h hs).wellStored).acts,
    (h' (h hs).wellStored).wellStored⟩

theorem After.refl (h : WellStored s.memory) : After env I s s := ⟨.refl, h⟩

theorem After.trans {s₁ s₂ : System} (h : After env I s₀ s₁) (h' : After env I s₁ s₂) :
    After env I s₀ s₂ := h.steps h'.acts

/-- The code acts on behalf of some transfers, whatever it raises. -/
abbrev Acting (env : Env) (I : Set TransferId) {α : Type} (q : Code α) : Prop :=
  Within env (plugin env I) (fun _ => True) q

theorem Acting.of_quiet {α : Type} {E : Exn → Prop} {q : Code α} (h : Within env quiet E q) :
    Acting env I q :=
  (h.widen (G := plugin env I) fun _ _ hq hs => (After.refl hs).of_quiet hq).weaken
    fun _ _ => trivial

/-- Acting code, as a contract. -/
theorem Acting.triple {α : Type} {q : Code α} (h : Acting env I q) :
    Triple env (After env I s₀) q (fun _ => After env I s₀) fun _ => After env I s₀ :=
  (Within.triple h fun _ _ hs hr => hs.trans (hr hs.wellStored)).weaken (fun _ h => h)
    (fun _ _ h => h) fun _ _ => And.left

/-- A contract that holds from every state puts code in the frame. -/
theorem Acting.of_triple {α : Type} {q : Code α}
    (h : ∀ s₀, Triple env (After env I s₀) q (fun _ => After env I s₀) fun _ => After env I s₀) :
    Acting env I q := by
  refine fun s => ⟨fun hs => ?_, fun _ _ => trivial⟩
  have := h s s (After.refl hs)
  rcases hq : q env s with ⟨e | a, s'⟩ <;> rwa [hq] at this

/-! ## The factory -/

/-- `get` returns the stored transfer. -/
theorem get_stored (id : TransferId) {b : Bool} :
    Triple env (fun s => After env I s₀ s ∧ s.stateMachineLocked = b) (StatePersistor.get id)
      (fun t s => (After env I s₀ s ∧ s.stateMachineLocked = b) ∧ s.memory.records id = some t)
      fun _ => After env I s₀ := by
  have read : Triple env (fun s => After env I s₀ s ∧ s.stateMachineLocked = b)
      (StatePersistor.readGlobal (.transfer id))
      (fun _ s => After env I s₀ s ∧ s.stateMachineLocked = b) fun _ => After env I s₀ :=
    ((readGlobal_within _).triple fun _ _ hs hq =>
      ⟨hs.1.of_quiet hq, hq.stateMachineLocked.trans hs.2⟩).weaken (fun _ h => h)
      (fun _ _ h => h) fun _ _ h => h.1.1
  refine read.bind fun _ => ?_
  refine (Triple.look (Q := fun r s => (After env I s₀ s ∧ s.stateMachineLocked = b) ∧
    s.memory.records id = r) fun s hs => ⟨hs, rfl⟩).bind fun r => ?_
  cases r with
  | none => exact Triple.throw fun _ h => h.1.1
  | some t => exact Triple.pure fun s h => h

/-- The transfer that `get` returns is a linked state object. -/
theorem get_linked {id : TransferId} (hid : id ∈ I) :
    Triple env (fun s => After env I s₀ s ∧ s.stateMachineLocked = true) (StatePersistor.get id)
      (fun t s => Linked env I s₀ t s ∧ t.id = id) fun _ => After env I s₀ := by
  refine (get_stored id).weaken (fun _ h => h) (fun t s h => ?_) fun _ _ h => h
  have own : t.id = id := (h.1.1.wellStored.stands h.2).id
  exact ⟨⟨h.1.1, h.1.2, own ▸ hid, .stored (own ▸ h.2)⟩, own⟩

/-- `with state_machine_lock` only touches the flag. -/
theorem locked_after {α : Type} {q : Code α}
    (h : Triple env (fun s => After env I s₀ s ∧ s.stateMachineLocked = true) q
      (fun _ => After env I s₀) fun _ => After env I s₀) :
    Triple env (After env I s₀) (StateFactory.locked q) (fun _ => After env I s₀)
      fun _ => After env I s₀ := by
  refine Triple.bind (Q := fun _ s => After env I s₀ s ∧ s.stateMachineLocked = true)
    (Triple.change fun s hs => ⟨hs.of_eq rfl, rfl⟩) fun _ => ?_
  exact Triple.ensuring (h.weaken (fun _ h => h) (fun _ s hs => hs.of_eq rfl)
    fun _ s hs => hs.of_eq rfl)

theorem make_acting {α : Type} {id : TransferId} {body : Transfer → Code α} (hid : id ∈ I)
    (h : ∀ s₀ t, t.id = id →
      Triple env (Linked env I s₀ t) (body t) (fun _ => After env I s₀) fun _ => After env I s₀) :
    Acting env I (StateFactory.make id body) := by
  refine Acting.of_triple fun s₀ => locked_after ((get_linked hid).bind fun t =>
    Triple.of_fact fun own => ?_)
  dsimp only
  split
  · exact fun _ hs => hs.after
  · exact h s₀ t own

/-- The call of one transition. -/
theorem call_after (tr : Transition) (t : Transfer) :
    Triple env (Linked env I s₀ t) (do let _ ← call tr t)
      (fun _ => After env I s₀) fun _ => After env I s₀ :=
  (call_linked tr t).bind fun _ => Triple.pure fun _ => Linked.after

theorem make_call_acting {id : TransferId} (hid : id ∈ I) (tr : Transition) :
    Acting env I (StateFactory.make id fun state => do let _ ← call tr state) :=
  make_acting hid fun _ t _ => call_after tr t

/-! ## Requests -/

theorem orNoSuchTransfer_acting {α : Type} {id : TransferId} {q : Code α} (h : Acting env I q) :
    Acting env I (orNoSuchTransfer id q) := by
  unfold orNoSuchTransfer
  refine (h.catching fun _ => .inr).bind fun r => ?_
  cases r with
  | some a => exact .pure a
  | none => exact .throw trivial

theorem getOwned_acting (id : TransferId) (uuid : UserUuid) :
    Acting env I (TransfersService.getOwned id uuid) := by
  unfold TransfersService.getOwned
  refine (orNoSuchTransfer_acting (Acting.of_quiet (get_within id))).bind fun t => ?_
  split
  · exact .throw trivial
  · exact .pure _

theorem complete_acting (id : TransferId) : Acting env {id} (TransfersService.complete id) :=
  orNoSuchTransfer_acting (make_call_acting (Set.mem_singleton id) _)

theorem completeFromUser_acting (id : TransferId) (uuid : UserUuid) :
    Acting env {id} (TransfersService.completeFromUser id uuid) :=
  (getOwned_acting id uuid).bind fun _ => make_call_acting (Set.mem_singleton id) _

theorem cancel_acting (id : TransferId) : Acting env {id} (TransfersService.cancel id) :=
  orNoSuchTransfer_acting (make_call_acting (Set.mem_singleton id) _)

theorem cancelFromUser_acting (id : TransferId) (uuid : UserUuid) :
    Acting env {id} (TransfersService.cancelFromUser id uuid) :=
  (getOwned_acting id uuid).bind fun _ => orNoSuchTransfer_acting (make_call_acting (Set.mem_singleton id) _)

/-! ## Events -/

open TransfersStasis

theorem publish_acting {q : Code Unit} (h : Acting env I q) : Acting env I (publish q) :=
  h.ignoring fun _ => .inr

/-- The lookup of a transfer, and what is done with it. -/
theorem lookup_acting {q : Code Transfer} {missing : Code Unit} {f : Transfer → Code Unit}
    (hq : Within env quiet (fun _ => True) q) (hmissing : Acting env I missing)
    (hf : ∀ t, Acting env I (f t)) :
    Acting env I (do
      match ← catching Exn.isKeyError q with
      | none => missing
      | some t => f t) := by
  refine ((Acting.of_quiet hq).catching fun _ => .inr).bind fun r => ?_
  cases r with
  | none => exact hmissing
  | some t => exact hf t

theorem roleOf_acting (t : Transfer) (c : ChannelId) : Acting env I (roleOf t c) := by
  unfold roleOf
  split
  · exact .pure _
  · exact .throw trivial

theorem partyHangup_acting (role : Role) (hid : t.id ∈ I) : Acting env I (partyHangup role t) :=
  make_call_acting hid _

theorem hangup_acting (c : ChannelId) : Acting env Set.univ (hangup c) :=
  lookup_acting (getByChannel_within c) (.pure ()) fun t =>
    (roleOf_acting t c).bind fun role => publish_acting (partyHangup_acting role trivial)

theorem channelsDo_acting (a : ChannelAction) (c : ChannelId) : Acting env I (channelsDo a c) :=
  Acting.of_quiet (channelsDo_within env.faults_any a c)

theorem transferIdOf_acting (args : List String) : Acting env I (transferIdOf args) := by
  unfold transferIdOf
  split
  · exact .pure _
  · exact .throw trivial

theorem transferRecipientAnswered_acting (c : ChannelId) (args : List String) :
    Acting env Set.univ (transferRecipientAnswered c args) := by
  refine (transferIdOf_acting args).bind fun id => ?_
  refine ((make_call_acting (Set.mem_univ id) _).catching fun _ => .inr).bind fun r => ?_
  cases r with
  | some _ => exact .pure _
  | none => exact channelsDo_acting _ _

theorem joined_triple (role : Role) (t : Transfer) :
    Triple env (Linked env I s₀ t) (joined role t) (fun _ => After env I s₀)
      fun _ => After env I s₀ := by
  unfold joined
  cases joinTransition role with
  | none => exact Triple.throw fun _ => Linked.after
  | some tr =>
    refine (call_linked tr t).bind fun t' => ?_
    split
    · exact call_after _ t'
    · exact Triple.pure fun _ => Linked.after

theorem createTransfer_acting (c : ChannelId) (args : List String) :
    Acting env Set.univ (createTransfer c args) :=
  (transferIdOf_acting args).bind fun id =>
    lookup_acting (get_within id) (channelsDo_acting _ _) fun t =>
      (roleOf_acting t c).bind fun role => make_acting trivial fun _ t _ => joined_triple role t

theorem stasisStart_acting (c : ChannelId) (args : List String) :
    Acting env Set.univ (stasisStart c args) := by
  unfold stasisStart
  split
  · exact publish_acting (transferRecipientAnswered_acting c _)
  · exact publish_acting (createTransfer_acting c _)
  · exact .pure _

theorem mohStop_acting (c : ChannelId) : Acting env Set.univ (mohStop c) := by
  refine lookup_acting (getByChannel_within c) (.pure ()) fun t => ?_
  refine (roleOf_acting t c).bind fun role => ?_
  split
  · exact make_call_acting (Set.mem_univ _) _
  · exact .pure _

theorem readBridgeVariables_within (b : BridgeId) :
    Within env quiet (fun _ => True) (AriHelpers.readBridgeVariables b) := by
  unfold AriHelpers.readBridgeVariables
  refine ((ari_within env.faults_any rfl).catching fun _ => .inr).bind fun r => ?_
  cases r with
  | some _ => exact .look _
  | none => exact .pure _

theorem transferOfBridge_within (b : BridgeId) :
    Within env quiet (fun _ => True) (transferOfBridge b) := by
  have variable_within : Within env quiet (fun _ => True)
      (AriHelpers.getBridgeVariable b "WAZO_TRANSFER_ID") := by
    unfold AriHelpers.getBridgeVariable
    refine (readBridgeVariables_within b).bind fun vars => ?_
    split
    · exact .pure _
    · exact .throw trivial
  unfold transferOfBridge
  refine (variable_within.catching fun _ => .inr).bind fun r => ?_
  cases r with
  | none => exact .pure _
  | some id =>
    dsimp only
    split
    · exact .pure _
    · exact (get_within id).catching fun _ => .inr

theorem emptyBridge_within (bridge : BridgeJson) :
    Within env quiet (fun _ => True) (emptyBridge bridge) := by
  unfold emptyBridge
  split
  · exact ((channelsDo_within env.faults_any _ _).ignoring fun _ => .inr).bind fun _ =>
      (ari_within env.faults_any rfl).ignoring fun _ => .inr
  · exact .pure _

theorem cleanBridge_acting (application : String) (b : BridgeId) :
    Acting env I (cleanBridge application b) := by
  have clean : Within env quiet (fun _ => True) (cleanBridge application b) := by
    unfold cleanBridge
    split
    · refine ((ari_within env.faults_any rfl).catching fun _ => .inr).bind fun r => ?_
      rcases r with _ | bridge
      · exact .pure _
      · dsimp only
        split
        · refine (transferOfBridge_within _).bind fun r => ?_
          cases r with
          | some _ => exact .pure _
          | none => exact emptyBridge_within bridge
        · exact .pure _
    · exact .pure _
  exact Acting.of_quiet clean

theorem cleanBridgeVariables_acting (b : BridgeId) : Acting env I (cleanBridgeVariables b) :=
  Acting.of_quiet (ari_within env.faults_any rfl)

theorem updateTransferCallerId_acting (c : ChannelId) :
    Acting env I (updateTransferCallerId c) := by
  have update (c c' : ChannelId) : Within env quiet (fun _ => True)
      (AriHelpers.updateConnectedline c c') :=
    (ari_within env.faults_any rfl).bind fun _ => (ari_within env.faults_any rfl).bind fun _ =>
      ari_within env.faults_any rfl
  refine lookup_acting (getByChannel_within c) (.pure ()) fun t => ?_
  refine (roleOf_acting t c).bind fun role => ?_
  split
  · refine ((Acting.of_quiet (update _ _)).catching fun _ => .inr).bind fun r => ?_
    cases r with
    | some _ => exact .pure _
    | none => exact (Acting.of_quiet (update _ _)).ignoring fun _ => .inr
  · exact .pure _

/-! ## Recovery -/

theorem lostHangup_triple (c : Option ChannelId) (tr : Transition) (t : Transfer) :
    Triple env (Linked env I s₀ t) (lostHangup c tr t) (fun t' => Linked env I s₀ t')
      fun _ => After env I s₀ := by
  unfold lostHangup
  refine ((quiet_linked (exists_within env.faults_any c)).weaken (fun _ h => h) (fun _ _ h => h)
    fun _ _ => Linked.after).bind fun b => ?_
  cases b with
  | true => exact Triple.pure fun _ => id
  | false => exact call_linked tr t

theorem lostHangups_acting (hid : t.id ∈ I) : Acting env I (lostHangups t) :=
  make_acting hid fun _ state _ => (lostHangup_triple _ _ state).bind fun state =>
    (lostHangup_triple _ _ state).bind fun state =>
    (lostHangup_triple _ _ state).bind fun _ => Triple.pure fun _ => Linked.after

theorem processLostHangups_acting : Acting env Set.univ processLostHangups :=
  (Acting.of_quiet list_within).bind fun _ => .forM fun _ _ => lostHangups_acting trivial

theorem answeredCall_acting (t : Transfer) : Acting env Set.univ (answeredCall t) := by
  refine make_acting trivial fun s₀ state _ => Triple.pre (Acting.triple ?_) fun _ => Linked.after
  split
  · refine (Acting.of_quiet (exists_within env.faults_any _)).bind fun b => ?_
    cases b with
    | false => exact .pure _
    | true =>
      refine (Acting.of_quiet (ari_within env.faults_any rfl)).bind fun channel => ?_
      split
      · exact transferRecipientAnswered_acting _ _
      · exact .pure _
  · exact .pure _

theorem processAnsweredCalls_acting : Acting env Set.univ processAnsweredCalls :=
  (Acting.of_quiet list_within).bind fun _ => .forM fun t _ => answeredCall_acting t

end Calld.Transfers
