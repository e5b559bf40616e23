/-
# The graph of the state machine

For every state and every transition, whether the state implements the transition and
what the transition then leads to (`Status.target`).  The bodies of the transitions follow
this graph (`method_gives`): when they return, they return what the graph says.

The second half of the module says which exceptions stop them.  All but a few transitions
raise only what Asterisk, wazo-amid or the bus made them raise, and never because a channel
is gone (`Status.steadfast`).
-/
import Calld.Transfers.Refinement

namespace Calld.Transfers

open Effect Effect.Program TransferState
open AriHelpers (StartArgs)

/-! ## The graph -/

/-- What a transition leads to. -/
inductive Target where
  /-- the same transfer -/
  | stay
  /-- the same transfer, to be completed as soon as possible -/
  | remember
  /-- another status -/
  | goto (st : Status)
  /-- `ringback`, with a recipient -/
  | call
  /-- `blindTransferred`, or `ended` when the transferred channel is gone -/
  | blind
  deriving DecidableEq, Repr

/-- The transfers that a target stands for. -/
def Target.Results (t t' : Transfer) : Target → Prop
  | stay => t' = t
  | remember => t' = { t with flow := .blind }
  | goto st => t' = fromState st t
  | call => ∃ c, t' = fromState .ringback { t with recipientCall := some c }
  | blind => t' = fromState .blindTransferred { t with flow := .blind } ∨ t' = fromState .ended t

/-- The edge of a state for a transition; `none` where the state does not implement it. -/
def Status.target : Status → Transition → Option Target
  | .starting, _ | .invalid, _ => none
  | _, .transferredMohStop => some .stay
  | .ready, .start => some .call
  | .nonStasis, .start => some (.goto .noneMovedToStasis)
  | .noneMovedToStasis, tr =>
    match tr with
    | .complete | .initiatorHangup => some .remember
    | .initiatorJoinedStasis => some (.goto .initiatorMovedToStasis)
    | .transferredJoinedStasis => some (.goto .transferredMovedToStasis)
    | .transferredHangup => some (.goto .ended)
    | .cancel => some (.goto .noneMovedToStasisCancelled)
    | _ => none
  | .initiatorMovedToStasis, tr =>
    match tr with
    | .complete | .initiatorHangup => some .remember
    | .transferredJoinedStasis => some .call
    | .transferredHangup => some (.goto .ended)
    | .cancel => some (.goto .initiatorMovedToStasisCancelled)
    | _ => none
  | .transferredMovedToStasis, tr =>
    match tr with
    | .complete | .initiatorHangup => some .remember
    | .initiatorJoinedStasis => some .call
    | .transferredHangup => some (.goto .ended)
    | .cancel => some (.goto .transferredMovedToStasisCancelled)
    | _ => none
  | .noneMovedToStasisCancelled, tr =>
    match tr with
    | .initiatorHangup | .transferredHangup | .initiatorJoinedStasis | .transferredJoinedStasis =>
      some (.goto .ended)
    | .cancel => some .stay
    | _ => none
  | .initiatorMovedToStasisCancelled, tr =>
    match tr with
    | .initiatorHangup | .transferredHangup | .transferredJoinedStasis => some (.goto .ended)
    | .cancel => some .stay
    | _ => none
  | .transferredMovedToStasisCancelled, tr =>
    match tr with
    | .initiatorHangup | .transferredHangup | .initiatorJoinedStasis => some (.goto .ended)
    | .cancel => some .stay
    | _ => none
  | .ringback, tr =>
    match tr with
    | .transferredHangup => some (.goto .abandoned)
    | .initiatorHangup | .complete => some .blind
    | .recipientHangup | .cancel => some (.goto .ended)
    | .recipientAnswer => some (.goto .answered)
    | _ => none
  | .blindTransferred, tr =>
    match tr with
    | .initiatorHangup => some .stay
    | .transferredHangup | .recipientHangup | .recipientAnswer | .cancel => some (.goto .ended)
    | _ => none
  | .answered, tr =>
    match tr with
    | .transferredHangup => some (.goto .abandoned)
    | .initiatorHangup | .recipientHangup | .complete | .cancel => some (.goto .ended)
    | _ => none
  | .abandoned, tr =>
    match tr with
    | .transferredHangup | .recipientAnswer => some .stay
    | .initiatorHangup | .recipientHangup | .cancel => some (.goto .ended)
    | _ => none
  | .ended, tr =>
    match tr with
    | .transferredHangup | .initiatorHangup | .recipientHangup => some .stay
    | _ => none
  | _, _ => none

/-- Where the graph has no edge, the class has no method, or the one of the base class that
raises. -/
theorem method_of_no_target {st : Status} {tr : Transition} {args : StartArgs}
    (h : st.target tr = none) :
    st.method args tr = .missing ∨ st.method args tr = .decorated notImplemented := by
  cases st <;> cases tr <;> first | exact .inl rfl | exact .inr rfl | cases h

/-- Where the graph has an edge, the class has a method. -/
theorem method_of_target {st : Status} {tr : Transition} {args : StartArgs} {g : Target}
    (h : st.target tr = some g) : st.method args tr ≠ .missing := by
  intro hm
  cases st <;> cases tr <;> cases h <;> cases hm

/-! ## The exceptions that stop a transition -/

/-- The exceptions that the code of the transitions raises of itself. -/
def Exn.isOwn : Exn → Bool
  | .transferCreationError _ | .transferAnswerError _ _ | .assertionError | .typeError
  | .unboundLocalError | .valueError => true
  | _ => false

/-- A failure of the environment, or an exception of the transition itself. -/
def Failing (E : Exn → Prop) (e : Exn) : Prop := E e ∨ e.isOwn = true

theorem Failing.of {E : Exn → Prop} {e : Exn} (h : E e) : Failing E e := .inl h

theorem Failing.of_missed {E : Exn → Prop} {e : Exn} (h : Missed E e) : Failing E e := .inl h.of

variable {env : Env} {E : Exn → Prop} {t t' : Transfer}

/-! ### The pieces -/

theorem notify_gives (h : env.Faults E) (kind : NotificationKind) (t : Transfer) :
    Gives env (Missed E) (notify kind t) fun _ => True := by
  intro s _
  unfold notify
  cases hb : env.bus s.tick with
  | true => trivial
  | false => exact ⟨h.bus hb, rfl⟩

theorem ended_gives (h : env.Faults E) (t : Transfer) :
    Gives env (Missed E) (TransferStateEnded.fromState t) (· = fromState .ended t) :=
  (notify_gives h .ended _).bind fun _ _ _ _ => rfl

theorem abandon_gives (h : env.Faults E) (t : Transfer) :
    Gives env (Missed E) (abandon t) fun _ => True :=
  .after (hangupCall_within h _) fun _ => notify_gives h _ _

theorem cancelTransfer_gives (h : env.Faults E) (t : Transfer) :
    Gives env (Missed E) (cancelTransfer t) fun _ => True :=
  .after (unsetVariables_within h _) fun _ => .after (unsetVariables_within h _) fun _ =>
    .after (hangupCall_within h _) fun _ => .after (rebridgeOrHangup_within h t) fun _ =>
    notify_gives h _ _

theorem abandonAndEnd_gives (h : env.Faults E) (t : Transfer) :
    Gives env (Missed E) (abandonAndEnd t) (· = fromState .ended t) :=
  (abandon_gives h t).bind fun _ _ => ended_gives h t

theorem abandonAndHangup_gives (h : env.Faults E) (t : Transfer) :
    Gives env (Missed E) (abandonAndHangup t) (· = fromState .ended t) :=
  (abandon_gives h t).bind fun _ _ => .after (hangupAll_within h t) fun _ => ended_gives h t

theorem hangupAndEnd_gives (h : env.Faults E) (t : Transfer) :
    Gives env (Missed E) (hangupAndEnd t) (· = fromState .ended t) :=
  .after (hangupAll_within h t) fun _ => ended_gives h t

theorem cancelAndEnd_gives (h : env.Faults E) (t : Transfer) :
    Gives env (Missed E) (cancelAndEnd t) (· = fromState .ended t) :=
  (cancelTransfer_gives h t).bind fun _ _ => ended_gives h t

theorem abandonAndWait_gives (h : env.Faults E) (t : Transfer) :
    Gives env (Missed E) (abandonAndWait t) (· = fromState .abandoned t) :=
  (abandon_gives h t).bind fun _ _ => .pure rfl

/-! ### Calling the recipient -/

theorem originateRecipient_gives (h : env.Faults E) (c : ChannelId) (args : StartArgs)
    (id : TransferId) :
    Gives env (fun e => E e ∨ e = .typeError) (originateRecipient c args id) fun _ => True := by
  have request {α : Type} {q : Code α} (hq : Within env quiet E q) :
      Within env quiet (fun e => E e ∨ e = .typeError) q := hq.weaken fun _ => .inl
  have var (name : String) : Within env quiet (fun e => E e ∨ e = .typeError)
      (catching Exn.isARINotFound (Channel.getVar c name)) :=
    (getVar_within h c name).catching_rest.weaken fun _ he => .inl he.1
  unfold originateRecipient
  refine .after (request (ari_within h rfl)) fun _ => Gives.bind (Φ := fun _ => True) ?_ fun _ _ => ?_
  · cases args.vars with
    | object vars => exact .pure trivial
    | other => exact .throw (.inr rfl)
  · exact .after (request (getVar_within h c _)) fun _ => .after (var _) fun _ =>
      .after (var _) fun _ => .after (request (ari_within h rfl)) fun _ _ _ => trivial

theorem startAttended_gives (h : env.Faults E) (t : Transfer) (args : StartArgs) :
    Gives env (fun e => E e ∨ e = .typeError) (startAttended t args)
      fun t' => ∃ c, t' = { t with recipientCall := some c } := by
  have raises : Gives env (fun e => E e ∨ e = .typeError) (startAttended t args)
      fun _ => True := by
    unfold startAttended
    refine .after ((holdTransferredCall_within h t).weaken fun _ he => .inl he.of) fun _ => ?_
    refine .after ((channelsDo_within h _ _).ignoring_rest.weaken fun _ he => .inl he.1) fun _ => ?_
    refine ((originateRecipient_gives h _ args t.id).catching fun _ => .inr).bind fun _ _ => ?_
    exact ((notify_gives h _ _).weaken (fun _ h => h) fun _ he => .inl he.of).bind
      fun _ _ => .pure trivial
  -- that the recipient is set has been proved with the announcements
  intro s _
  have recipient : Triple env (Talks .initial t.id s) (startAttended t args) _ _ :=
    startAttended_triple args rfl rfl
  exact ((raises.and recipient).weaken (fun _ h => h) (fun _ _ h => h.2.2) fun _ _ h => h.1) s
    ⟨trivial, (talks .initial t.id).refl s⟩

/-- The transitions that call the recipient. -/
theorem call_gives (h : env.Faults E) (t : Transfer) (args : StartArgs) :
    Gives env (Failing E) (do return fromState .ringback (← startAttended t args))
      (Target.call.Results t) := by
  refine ((startAttended_gives h t args).weaken (fun _ h => h) ?_).bind fun t' ht' => ?_
  · rintro e (he | rfl)
    · exact .inl he
    · exact .inr rfl
  · obtain ⟨c, rfl⟩ := ht'
    exact .pure ⟨c, rfl⟩

theorem joinedStasis_gives (h : env.Faults E) (t : Transfer) :
    Gives env (Failing E) (joinedStasis t) (Target.call.Results t) := by
  refine .after ((getInitialTransferVariables_within h _).weaken ?_) fun args => call_gives h t args
  rintro e (he | rfl | rfl)
  · exact .of_missed he
  · exact .inr rfl
  · exact .inr rfl

/-! ### The other bodies -/

theorem transferBlind_gives (h : env.Faults E) (t : Transfer) :
    Gives env (Missed E) (TransferStateRingback.transferBlind t) (Target.blind.Results t) := by
  unfold TransferStateRingback.transferBlind
  refine .after (((unholdTransferredCall_within h t).bind fun _ =>
    channelsDo_within h _ _).catching_rest) fun r => ?_
  cases r with
  | none => exact (hangupAndEnd_gives h t).weaken (fun _ => .inr) fun _ he => he
  | some _ => exact (notify_gives h _ _).bind fun _ _ => .pure (.inl rfl)

theorem ringbackComplete_gives (h : env.Faults E) (t : Transfer) :
    Gives env (Missed E) (TransferStateRingback.complete t) (Target.blind.Results t) :=
  .after (channelsDo_within h _ _).ignoring_rest fun _ => transferBlind_gives h t

theorem orRaise_failing {α : Type} {q : Code α} {e₀ : Exn} (hq : Within env quiet (Failing E) q)
    (he : e₀.isOwn = true) : Within env quiet (Failing E) (orRaise q e₀) := by
  refine (orRaise_within hq e₀).weaken ?_
  rintro e (hm | rfl)
  · exact hm.of
  · exact .inr he

theorem moveToTransferBridge_failing (h : env.Faults E) (t : Transfer) (c : ChannelId) :
    Within env quiet (Failing E) (moveToTransferBridge t c) :=
  (moveToTransferBridge_within h t c).weaken fun _ => .of

theorem moveRecipient_failing (h : env.Faults E) (t : Transfer) :
    Within env quiet (Failing E) (moveRecipientCallToTransferBridge t) := by
  unfold moveRecipientCallToTransferBridge
  split
  · exact moveToTransferBridge_failing h t _
  · exact .throw (.inr rfl)

theorem unsetRecipientVariables_failing (h : env.Faults E) (t : Transfer) :
    Within env quiet (Failing E) (unsetRecipientVariables t) := by
  unfold unsetRecipientVariables
  split
  · exact (unsetVariables_within h _).weaken fun _ => .of_missed
  · exact .throw (.inr rfl)

theorem unring_failing (h : env.Faults E) (c : ChannelId) (id : TransferId) (m : String) :
    Within env quiet (Failing E)
      (orRaise (AriHelpers.unringInitiatorCall c) (.transferAnswerError id m)) :=
  orRaise_failing ((unringInitiatorCall_within h c).weaken fun _ => .of) rfl

theorem bridgeTransferred_failing (h : env.Faults E) (t : Transfer) :
    Within env quiet (Failing E) (TransferStateAnswered.bridgeTransferred t) :=
  ((unholdTransferredCall_within h t).weaken fun _ => .of).bind fun _ =>
    (moveToTransferBridge_failing h t _).bind fun _ =>
    ((unsetVariables_within h _).weaken fun _ => .of_missed).bind fun _ =>
    unsetRecipientVariables_failing h t

theorem announceRecordings_failing (h : env.Faults E) (t : Transfer) :
    Within env quiet (Failing E) (announceRecordings t) :=
  (announceRecordings_within h t).weaken fun _ => .of_missed

theorem notify_failing (h : env.Faults E) (kind : NotificationKind) (t : Transfer) :
    Gives env (Failing E) (notify kind t) fun _ => True :=
  (notify_gives h kind t).weaken (fun _ h => h) fun _ => .of_missed

theorem ended_failing (h : env.Faults E) (t : Transfer) :
    Gives env (Failing E) (TransferStateEnded.fromState t) (· = fromState .ended t) :=
  (ended_gives h t).weaken (fun _ h => h) fun _ => .of_missed

theorem ringbackAnswer_gives (h : env.Faults E) (t : Transfer) :
    Gives env (Failing E) (TransferStateRingback.recipientAnswer t) (· = fromState .answered t) :=
  .after (unring_failing h _ _ _) fun _ => .after (moveToTransferBridge_failing h t _) fun _ =>
    .after (moveRecipient_failing h t) fun _ => (notify_failing h .answered _).bind fun _ _ =>
    .pure rfl

theorem blindAnswer_gives (h : env.Faults E) (t : Transfer) :
    Gives env (Failing E) (TransferStateBlindTransferred.recipientAnswer t)
      (· = fromState .ended t) :=
  .after ((unsetVariables_within h _).weaken fun _ => .of_missed) fun _ =>
    .after (unsetRecipientVariables_failing h t) fun _ => .after (unring_failing h _ _ _) fun _ =>
    .after (moveToTransferBridge_failing h t _) fun _ => .after (moveRecipient_failing h t) fun _ =>
    .after (announceRecordings_failing h t) fun _ => (notify_failing h _ t).bind fun _ _ =>
    ended_failing h t

theorem abandonedAnswer_gives (h : env.Faults E) (t : Transfer) :
    Gives env (Failing E) (TransferStateAbandoned.recipientAnswer t) (· = t) :=
  .after (unring_failing h _ _ _) fun _ =>
    .after (orRaise_failing (moveToTransferBridge_failing h t _) rfl) fun _ =>
    .after (orRaise_failing (moveRecipient_failing h t) rfl) fun _ => .pure rfl

theorem answeredHangup_gives (h : env.Faults E) (t : Transfer) :
    Gives env (Failing E) (TransferStateAnswered.initiatorHangup t) (· = fromState .ended t) :=
  .after (bridgeTransferred_failing h t) fun _ => .after (announceRecordings_failing h t) fun _ =>
    (notify_failing h _ t).bind fun _ _ => ended_failing h t

theorem answeredComplete_gives (h : env.Faults E) (t : Transfer) :
    Gives env (Failing E) (TransferStateAnswered.complete t) (· = fromState .ended t) :=
  .after (bridgeTransferred_failing h t) fun _ =>
    .after ((channelsDo_within h _ _).ignoring_rest.weaken fun _ he => .inl he.1) fun _ =>
    .after (announceRecordings_failing h t) fun _ => (notify_failing h _ t).bind fun _ _ =>
    ended_failing h t

theorem readyStart_gives (h : env.Faults E) (args : StartArgs) (t : Transfer) :
    Gives env (Failing E) (TransferStateReady.start args t) (Target.call.Results t) := by
  have rest : Gives env (Failing E) (do
      orRaise (do setTransferredVariables t; setInitiatorVariables t)
        (.transferCreationError "some channel got hung up")
      TransferStateReady.destroyBridge t
      let t ← startAttended t args
      return fromState .ringback t) (Target.call.Results t) :=
    .after (orRaise_failing (((setVariables_within h t _ _).bind fun _ =>
      setVariables_within h t _ _).weaken fun _ => .of) rfl) fun _ =>
    .after ((destroyBridge_within h t).weaken fun _ => .of) fun _ => call_gives h t args
  refine .after ((user_within h _).weaken fun _ => .of_missed) fun user => ?_
  cases user with
  | none => exact .throw (.inr rfl)
  | some uuid => exact rest

theorem nonStasisStart_gives (h : env.Faults E) (args : StartArgs) (t : Transfer) :
    Gives env (Failing E) (TransferStateNonStasis.start args t)
      (· = fromState .noneMovedToStasis t) :=
  .after (orRaise_failing ((convertTransferToStasis_within h _ _ _ _ _ _ _).weaken fun _ => .of) rfl)
    fun _ => .pure rfl

theorem playSilence_gives (h : env.Faults E) (t : Transfer) :
    Gives env (Missed E) (playSilence t) (· = t) :=
  .after (channelsDo_within h _ _).ignoring_rest fun _ => .pure rfl

/-! ### All the bodies -/

/-- The transitions that a missing channel does not stop. -/
def Status.steadfast : Status → Transition → Bool
  | _, .start | _, .recipientAnswer => false
  | .initiatorMovedToStasis, .transferredJoinedStasis => false
  | .transferredMovedToStasis, .initiatorJoinedStasis => false
  | .answered, .initiatorHangup | .answered, .complete => false
  | _, _ => true

/-- What may stop a transition, when the failures of the environment amount to `E`. -/
def Status.raises (st : Status) (tr : Transition) (E : Exn → Prop) (e : Exn) : Prop :=
  if st.steadfast tr = true then Missed E e else Failing E e

theorem Status.raises_steadfast {st : Status} {tr : Transition} {e : Exn}
    (hs : st.steadfast tr = true) : st.raises tr E e ↔ Missed E e := by
  rw [Status.raises, if_pos hs]

theorem Status.raises_failing {st : Status} {tr : Transition} {e : Exn}
    (h : st.raises tr E e) : Failing E e := by
  unfold Status.raises at h
  split at h
  · exact .of_missed h
  · exact h

/-- **The bodies follow the graph**: what a transition returns is what its edge stands for. -/
theorem method_gives (h : env.Faults E) {args : StartArgs} {tr : Transition}
    {body : Transfer → Code Transfer} {g : Target}
    (hm : t.status.method args tr = .decorated body) (hg : t.status.target tr = some g) :
    Gives env (t.status.raises tr E) (body t) (g.Results t) := by
  cases hst : t.status <;> rw [hst] at hm hg <;> cases tr <;> cases hm <;> cases hg
  case ready.start => exact readyStart_gives h args t
  case nonStasis.start => exact nonStasisStart_gives h args t
  case initiatorMovedToStasis.transferredJoinedStasis => exact joinedStasis_gives h t
  case transferredMovedToStasis.initiatorJoinedStasis => exact joinedStasis_gives h t
  case ringback.initiatorHangup => exact transferBlind_gives h t
  case ringback.complete => exact ringbackComplete_gives h t
  case ringback.recipientAnswer => exact ringbackAnswer_gives h t
  case blindTransferred.recipientAnswer => exact blindAnswer_gives h t
  case answered.initiatorHangup => exact answeredHangup_gives h t
  case answered.complete => exact answeredComplete_gives h t
  case abandoned.recipientAnswer => exact abandonedAnswer_gives h t
  all_goals first
    | exact .pure rfl
    | exact ended_gives h t
    | exact abandonAndEnd_gives h t
    | exact abandonAndHangup_gives h t
    | exact abandonAndWait_gives h t
    | exact hangupAndEnd_gives h t
    | exact cancelAndEnd_gives h t

end Calld.Transfers
