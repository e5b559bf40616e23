/-
# What the helpers leave alone

Most of the code of the transitions talks to Asterisk without touching anything the
plugin remembers.  `quiet` is the frame of these calls: stored transfers, lock, flag
and trace stay as they are.  The lemmas below also say which exceptions come out, in
terms of the exceptions `E` that stand for the failures of the environment
(`Env.Faults`).
-/
import Calld.Transfers.Stasis

namespace Calld.Transfers

open Effect Effect.Program
open AriHelpers (StartArgs)

/-! ## The frame -/

/-- Nothing that the plugin remembers has changed. -/
structure Quiet (s s' : System) : Prop where
  records : s'.asterisk.records = s.asterisk.records
  index : s'.asterisk.index = s.asterisk.index
  lockedCalls : s'.lockedCalls = s.lockedCalls
  stateMachineLocked : s'.stateMachineLocked = s.stateMachineLocked
  trace : s'.trace = s.trace

/-- The frame of the calls that leave everything that the plugin remembers. -/
def quiet : Frame System where
  rel := Quiet
  refl _ := ⟨rfl, rfl, rfl, rfl, rfl⟩
  trans h h' := ⟨h'.records.trans h.records, h'.index.trans h.index,
    h'.lockedCalls.trans h.lockedCalls, h'.stateMachineLocked.trans h.stateMachineLocked,
    h'.trace.trans h.trace⟩

/-- The exceptions that the failures of the environment amount to. -/
structure Env.Faults (env : Env) (E : Exn → Prop) : Prop where
  ari : ∀ {n a r e}, env.ari n a r = .error e → E (.ari e)
  ami : ∀ {n r e}, env.ami n r = .error e → E .wazoAmidError
  bus : ∀ {n}, env.bus n = false → E .bus

theorem Env.faults_any (env : Env) : env.Faults fun _ => True :=
  ⟨fun _ => trivial, fun _ => trivial, fun _ => trivial⟩

/-- The exceptions of `E` that `except ARINotFound` lets through. -/
def Missed (E : Exn → Prop) (e : Exn) : Prop := E e ∧ e.isARINotFound = false

theorem Missed.of {E : Exn → Prop} {e : Exn} (h : Missed E e) : E e := h.1

/-- The requests that write a stored transfer or the index. -/
def AriRequest.isStore : AriRequest → Bool
  | .setGlobalVar (.setTransfer _) | .setGlobalVar (.unsetTransfer _)
  | .setGlobalVar (.setIndex _) => true
  | _ => false

theorem apply_records {a : Asterisk} {r : AriRequest} (h : r.isStore = false) :
    (a.apply r).records = a.records := by
  rcases r with _ | _ | _ | _ | _ | _ | _ | _ | _ | _ | _ | w <;> try rfl
  cases w <;> first | rfl | cases h

theorem apply_index {a : Asterisk} {r : AriRequest} (h : r.isStore = false) :
    (a.apply r).index = a.index := by
  rcases r with _ | _ | _ | _ | _ | _ | _ | _ | _ | _ | _ | w <;> try rfl
  cases w <;> first | rfl | cases h

variable {env : Env} {E : Exn → Prop}

/-! ## Requests -/

theorem ari_within (h : env.Faults E) {r : AriRequest} (hr : r.isStore = false) :
    Within env quiet E (ari r) := by
  intro s
  unfold ari
  cases ha : env.ari s.tick s.asterisk r with
  | ok a => exact ⟨⟨apply_records hr, apply_index hr, rfl, rfl, rfl⟩, fun e he => by simp at he⟩
  | error e =>
    refine ⟨⟨rfl, rfl, rfl, rfl, rfl⟩, fun e' he => ?_⟩
    simp only [Except.error.injEq] at he
    exact he ▸ h.ari ha

theorem request_within (h : env.Faults E) (r : AmiRequest) :
    Within env quiet (fun e => E e ∧ e = .wazoAmidError) (Ami.request r) := by
  intro s
  unfold Ami.request ami
  cases ha : env.ami s.tick r with
  | ok a => exact ⟨⟨rfl, rfl, rfl, rfl, rfl⟩, fun e he => by simp at he⟩
  | error e =>
    refine ⟨⟨rfl, rfl, rfl, rfl, rfl⟩, fun e' he => ?_⟩
    simp only [Except.error.injEq] at he
    exact he ▸ ⟨h.ami ha, rfl⟩

theorem request_missed (h : env.Faults E) (r : AmiRequest) :
    Within env quiet (Missed E) (Ami.request r) :=
  (request_within h r).weaken fun e he => ⟨he.1, by rw [he.2]; rfl⟩

theorem channelsDo_within (h : env.Faults E) (a : ChannelAction) (c : ChannelId) :
    Within env quiet E (channelsDo a c) := ari_within h rfl

theorem getVar_within (h : env.Faults E) (c : ChannelId) (name : String) :
    Within env quiet E (Channel.getVar c name) := ari_within h rfl

theorem orRaise_within {α : Type} {p : Code α} (hp : Within env quiet E p) (e₀ : Exn) :
    Within env quiet (fun e => Missed E e ∨ e = e₀) (orRaise p e₀) := by
  unfold orRaise
  refine (hp.catching_rest.weaken fun _ => .inl).bind fun r => ?_
  cases r with
  | some a => exact .pure a
  | none => exact .throw (.inr rfl)

/-! ## Channels and recordings -/

theorem exists_within (h : env.Faults E) (c : Option ChannelId) :
    Within env quiet (Missed E) (Channel.exists c) := by
  unfold Channel.exists
  exact (ari_within h rfl).catching_rest.bind fun _ => .pure _

theorem isLocal_within (h : env.Faults E) (c : ChannelId) :
    Within env quiet (Missed E) (Channel.isLocal c) := by
  unfold Channel.isLocal
  refine (ari_within h rfl).catching_rest.bind fun r => ?_
  cases r <;> exact .pure _

theorem user_within (h : env.Faults E) (c : ChannelId) :
    Within env quiet (Missed E) (Channel.user c) := by
  unfold Channel.user
  refine (isLocal_within h c).bind fun b => ?_
  cases b <;> exact (getVar_within h c _).catching_rest

theorem tenantUuid_within (h : env.Faults E) (c : ChannelId) :
    Within env quiet (Missed E) (Channel.tenantUuid c) := (getVar_within h c _).catching_rest

theorem isInStasis_within (h : env.Faults E) (c : ChannelId) :
    Within env quiet (fun e => E e ∧ e.isARINotInStasis = false) (Channel.isInStasis c) := by
  unfold Channel.isInStasis
  exact (ari_within h rfl).catching_rest.bind fun _ => .pure _

theorem announceActiveRecording_within (h : env.Faults E) (c : ChannelId) :
    Within env quiet (Missed E) (Recording.announceActiveRecording c) := by
  unfold Recording.announceActiveRecording Recording.playRecordStartAnnouncement
  refine (ari_within h rfl).catching_rest.bind fun r => ?_
  cases r with
  | none => exact .pure _
  | some channel =>
    dsimp only
    split
    · exact (getVar_within h c _).catching_rest.bind fun _ => request_missed h _
    · exact .pure _

theorem announceRecordings_within (h : env.Faults E) (t : Transfer) :
    Within env quiet (Missed E) (TransferState.announceRecordings t) :=
  Within.forM fun c _ => announceActiveRecording_within h c

/-! ## `transfers/ari_helpers.py` -/

theorem holdTransferredCall_within (h : env.Faults E) (t : Transfer) :
    Within env quiet (Missed E) (TransferState.holdTransferredCall t) := by
  have mohClassExists : Within env quiet (fun e => E e ∧ e = .wazoAmidError)
      (Ami.mohClassExists "default") :=
    (request_within h _).bind fun _ => .pure _
  refine Within.ignoring_rest ?_
  unfold AriHelpers.holdTransferredCall
  refine (channelsDo_within h _ _).bind fun _ => (channelsDo_within h _ _).bind fun _ => ?_
  refine (mohClassExists.catching fun e he => .inr he.1).bind fun b => ?_
  split <;> exact channelsDo_within h _ _

theorem unholdTransferredCall_within (h : env.Faults E) (t : Transfer) :
    Within env quiet E (TransferState.unholdTransferredCall t) :=
  (channelsDo_within h _ _).bind fun _ => (channelsDo_within h _ _).bind fun _ =>
    (channelsDo_within h _ _).bind fun _ => channelsDo_within h _ _

theorem unringInitiatorCall_within (h : env.Faults E) (c : ChannelId) :
    Within env quiet E (AriHelpers.unringInitiatorCall c) :=
  (channelsDo_within h _ _).bind fun _ => channelsDo_within h _ _

theorem unsetVariable_within (h : env.Faults E) (c : ChannelId) (name : String) :
    Within env quiet (Missed E) (AriHelpers.unsetVariable c name) := by
  unfold AriHelpers.unsetVariable
  refine (ari_within h rfl).tryCatch fun e he => ?_
  split_ifs with hf hs
  · exact .pure _
  · exact request_missed h _
  · exact .throw ⟨he, by simpa using hf⟩

theorem unsetVariables_within (h : env.Faults E) (c : ChannelId) :
    Within env quiet (Missed E) (TransferState.unsetVariables c) :=
  (unsetVariable_within h c _).bind fun _ => unsetVariable_within h c _

theorem setBridgeVariable_within (h : env.Faults E) (b : BridgeId) (name value : String) :
    Within env quiet E (AriHelpers.setBridgeVariable b name value) := by
  unfold AriHelpers.setBridgeVariable AriHelpers.readBridgeVariables
  refine Within.bind ?_ fun _ => ari_within h rfl
  refine ((ari_within h rfl).catching fun _ => .inr).bind fun r => ?_
  cases r with
  | some _ => exact .look _
  | none => exact .pure _

theorem convertTransferToStasis_within (h : env.Faults E) (transferredCall initiatorCall : ChannelId)
    (context exten : String) (id : TransferId) (vars : Decoded) (timeout : Option ℤ) :
    Within env quiet E (AriHelpers.convertTransferToStasis transferredCall initiatorCall context
      exten id vars timeout) :=
  (Within.ask _).bind fun _ =>
    (Within.forM fun _ _ => ari_within h rfl).bind fun _ => (request_missed h _).weaken fun _ => Missed.of

/-! ## The helpers of `TransferState` -/

theorem hangupCall_within (h : env.Faults E) (c : Option ChannelId) :
    Within env quiet (Missed E) (hangupCall c) := by
  cases c with
  | some c => exact (channelsDo_within h _ c).ignoring_rest
  | none => exact .pure _

theorem moveToTransferBridge_within (h : env.Faults E) (t : Transfer) (c : ChannelId) :
    Within env quiet E (TransferState.moveToTransferBridge t c) := by
  unfold TransferState.moveToTransferBridge TransferState.getOrCreateTransferBridge
  refine Within.bind ?_ fun _ => ari_within h rfl
  refine ((ari_within h rfl).catching fun _ => .inr).bind fun r => ?_
  cases r with
  | some bridge => exact .pure _
  | none => exact (ari_within h rfl).bind fun _ => (setBridgeVariable_within h _ _ _).bind fun _ => .pure _

theorem setVariables_within (h : env.Faults E) (t : Transfer) (c : ChannelId) (role : String) :
    Within env quiet E (TransferState.setVariables t c role) :=
  (ari_within h rfl).bind fun _ => ari_within h rfl

theorem hangupAll_within (h : env.Faults E) (t : Transfer) :
    Within env quiet (Missed E) (TransferState.hangupAllTransferParticipants t) :=
  (hangupCall_within h _).bind fun _ => (hangupCall_within h _).bind fun _ => hangupCall_within h _

theorem playSilence_within (h : env.Faults E) (t : Transfer) :
    Within env quiet (Missed E) (TransferState.playSilence t) :=
  (channelsDo_within h _ _).ignoring_rest.bind fun _ => .pure _

/-- The two exceptions of `_cancel_rebridge_channels` are `TransferCancellationError`s. -/
theorem cancelRebridgeChannels_within (h : env.Faults E) (t : Transfer) :
    Within env quiet (fun e => Missed E e ∨ e.isTransferCancellationError = true)
      (TransferState.cancelRebridgeChannels t) := by
  have orRaise_within' : ∀ {p : Code Unit} (m : String), Within env quiet E p →
      Within env quiet (fun e => Missed E e ∨ e.isTransferCancellationError = true)
        (orRaise p (.transferCancellationError t.id m)) := fun m hp =>
    (orRaise_within hp _).weaken fun e he => he.imp_right fun h => by rw [h]; rfl
  exact (orRaise_within' _ (unringInitiatorCall_within h _)).bind fun _ =>
    (orRaise_within' _ ((unholdTransferredCall_within h t).bind fun _ =>
      moveToTransferBridge_within h t _)).bind fun _ =>
    orRaise_within' _ (moveToTransferBridge_within h t _)

theorem rebridgeOrHangup_within (h : env.Faults E) (t : Transfer) :
    Within env quiet (Missed E) (TransferState.rebridgeOrHangup t) := by
  unfold TransferState.rebridgeOrHangup
  refine ((cancelRebridgeChannels_within h t).catching fun e he => he.symm).bind fun r => ?_
  cases r with
  | some _ => exact .pure _
  | none => exact hangupAll_within h t

theorem getInitialTransferVariables_within (h : env.Faults E) (c : ChannelId) :
    Within env quiet (fun e => Missed E e ∨ e = .unboundLocalError ∨ e = .valueError)
      (AriHelpers.getInitialTransferVariables c) := by
  unfold AriHelpers.getInitialTransferVariables
  have var := getVar_within h c
  have vars : Within env quiet (Missed E) (catching Exn.isARINotFound do
      let context ← Channel.getVar c "XIVO_TRANSFER_RECIPIENT_CONTEXT"
      let exten ← Channel.getVar c "XIVO_TRANSFER_RECIPIENT_EXTEN"
      let variablesStr ← Channel.getVar c "XIVO_TRANSFER_VARIABLES"
      let timeoutStr ← Channel.getVar c "XIVO_TRANSFER_TIMEOUT"
      return (context, exten, variablesStr, timeoutStr)) :=
    ((var _).bind fun _ => (var _).bind fun _ => (var _).bind fun _ => (var _).bind fun _ =>
      .pure _).catching_rest
  refine (vars.weaken fun _ => .inl).bind fun read => ?_
  rcases read with _ | ⟨context, exten, variablesStr, timeoutStr⟩
  · exact .throw (.inr (.inl rfl))
  · refine (Within.ask _).bind fun loaded => ?_
    dsimp only
    split
    · exact .pure _
    · split
      · exact .pure _
      · exact .throw (.inr (.inr rfl))

theorem bridge_within (h : env.Faults E) (c : ChannelId) :
    Within env quiet (fun e => E e ∨ e = .bridgeNotFound) (Channel.bridge c) := by
  unfold Channel.bridge
  refine ((ari_within h rfl).weaken fun _ => .inl).bind fun bridges => ?_
  split
  · exact .pure _
  · exact .throw (.inr rfl)

theorem destroyBridge_within (h : env.Faults E) (t : Transfer) :
    Within env quiet E (TransferStateReady.destroyBridge t) := by
  unfold TransferStateReady.destroyBridge
  refine ((bridge_within h t.initiatorCall).catching ?_).bind fun found => ?_
  · rintro e (he | rfl)
    · exact .inr he
    · exact .inl rfl
  · rcases found with _ | bridge
    · exact .pure _
    · dsimp only
      split
      · exact ari_within h rfl
      · exact .pure _

/-! ## The stored transfers -/

theorem readGlobal_within (x : GlobalVariable) :
    Within env quiet (fun _ => True) (StatePersistor.readGlobal x) := by
  unfold StatePersistor.readGlobal
  refine ((ari_within env.faults_any rfl).catching fun _ => .inr).bind fun r => ?_
  cases r with
  | some _ => exact .pure _
  | none => exact .throw trivial

theorem get_within (id : TransferId) : Within env quiet (fun _ => True) (StatePersistor.get id) := by
  unfold StatePersistor.get
  refine (readGlobal_within _).bind fun _ => (Within.look _).bind fun r => ?_
  cases r with
  | some t => exact .pure t
  | none => exact .throw trivial

theorem getIndex_within : Within env quiet (fun _ => True) StatePersistor.getIndex :=
  (readGlobal_within _).bind fun _ => .look _

theorem list_within : Within env quiet (fun _ => True) StatePersistor.list := by
  refine getIndex_within.bind fun ids => ?_
  induction ids with
  | nil => exact .pure _
  | cons id ids ih =>
    unfold StatePersistor.collect
    refine ((get_within id).catching fun _ => .inr).bind fun r => ?_
    cases r with
    | some t => exact ih.bind fun _ => .pure _
    | none => exact ih

theorem getByChannel_within (c : ChannelId) :
    Within env quiet (fun _ => True) (StatePersistor.getByChannel c) := by
  unfold StatePersistor.getByChannel
  refine list_within.bind fun ts => ?_
  split
  · exact .pure _
  · exact .throw trivial

end Calld.Transfers
