/-
# What a transition can do

For every state and every transition, what the body of the transition may announce and
what it may return (`method_outcome`), whatever ARI, wazo-amid and the bus answer.  Every
invariant of the runs of calld is derived from this theorem; no later proof looks into
the body of a transition for what it cannot do.
-/
import Calld.Transfers.Quiet
import Calld.Transfers.Life

namespace Calld.Transfers

open Effect Effect.Program TransferState
open AriHelpers (StartArgs)

/-! ## Announcements within a phase -/

/-- The event is about the transfer and allowed in the phase. -/
def Says (p : Phase) (id : TransferId) : Event → Prop
  | .notified n => n.transfer.id = id ∧ p.mayNotify n.kind = true
  | .originated i _ => i = id ∧ p.mayOriginate = true
  | _ => False

/-- Only announcements that the phase allows have been made. -/
structure Talks (p : Phase) (id : TransferId) (s s' : System) : Prop where
  records : s'.asterisk.records = s.asterisk.records
  index : s'.asterisk.index = s.asterisk.index
  lockedCalls : s'.lockedCalls = s.lockedCalls
  stateMachineLocked : s'.stateMachineLocked = s.stateMachineLocked
  trace : ∃ evs, s'.trace = s.trace ++ evs ∧ ∀ e ∈ evs, Says p id e

/-- The frame of the code that makes announcements about one transfer. -/
def talks (p : Phase) (id : TransferId) : Frame System where
  rel := Talks p id
  refl _ := ⟨rfl, rfl, rfl, rfl, [], by simp, by simp⟩
  trans := by
    rintro s₁ s₂ s₃ ⟨hr, hi, hl, hm, evs, he, hs⟩ ⟨hr', hi', hl', hm', evs', he', hs'⟩
    refine ⟨hr'.trans hr, hi'.trans hi, hl'.trans hl, hm'.trans hm, evs ++ evs', ?_, ?_⟩
    · rw [he', he, List.append_assoc]
    · exact fun e h => (List.mem_append.mp h).elim (hs e) (hs' e)

theorem Talks.of_quiet {p : Phase} {id : TransferId} {s s' : System} (h : Quiet s s') :
    Talks p id s s' :=
  ⟨h.records, h.index, h.lockedCalls, h.stateMachineLocked, [], by simp [h.trace], by simp⟩

variable {env : Env} {p : Phase} {id : TransferId} {t : Transfer} {s₀ : System}

/-- A quiet call, whatever it raises. -/
theorem quiet_talks {α : Type} {E : Exn → Prop} {q : Code α} (h : Within env quiet E q) :
    Within env (talks p id) (fun _ => True) q :=
  (h.widen (G := talks p id) fun _ _ => Talks.of_quiet).weaken fun _ _ => trivial

theorem notify_talks {kind : NotificationKind} (hid : t.id = id) (hp : p.mayNotify kind = true) :
    Within env (talks p id) (fun _ => True) (notify kind t) := by
  intro s
  unfold notify
  split
  · exact ⟨⟨rfl, rfl, rfl, rfl, _, rfl, by simpa [Says, Transfer.toPublicDict] using ⟨hid, hp⟩⟩,
      fun _ _ => trivial⟩
  · exact ⟨⟨rfl, rfl, rfl, rfl, [], by simp, by simp⟩, fun _ _ => trivial⟩

theorem abandon_talks (hid : t.id = id) (hp : p.mayNotify .abandoned = true) :
    Within env (talks p id) (fun _ => True) (abandon t) :=
  (quiet_talks (hangupCall_within env.faults_any _)).bind fun _ => notify_talks hid hp

theorem cancelTransfer_talks (hid : t.id = id) (hp : p.mayNotify .cancelled = true) :
    Within env (talks p id) (fun _ => True) (cancelTransfer t) :=
  (quiet_talks (unsetVariables_within env.faults_any _)).bind fun _ =>
    (quiet_talks (unsetVariables_within env.faults_any _)).bind fun _ =>
    (quiet_talks (hangupCall_within env.faults_any _)).bind fun _ =>
    (quiet_talks (rebridgeOrHangup_within env.faults_any _)).bind fun _ => notify_talks hid hp

/-! ## Calling the recipient -/

/-- The failures of the environment are never `TransferCreationError`s. -/
theorem faults_not_creation (env : Env) :
    env.Faults fun e => e.isTransferCreationError = false :=
  ⟨fun _ => rfl, fun _ => rfl, fun _ => rfl⟩

theorem originateRecipient_talks (c : ChannelId) (args : StartArgs) (hp : p.mayOriginate = true) :
    Within env (talks p id) (fun e => e.isTransferCreationError = false)
      (originateRecipient c args id) := by
  have lift : ∀ {α : Type} {q : Code α},
      Within env quiet (fun e => e.isTransferCreationError = false) q →
      Within env (talks p id) (fun e => e.isTransferCreationError = false) q :=
    fun h => h.widen (G := talks p id) fun _ _ => Talks.of_quiet
  have hf := faults_not_creation env
  have var : ∀ name, Within env quiet (fun e => e.isTransferCreationError = false)
      (catching Exn.isARINotFound (Channel.getVar c name)) :=
    fun name => (getVar_within hf c name).catching_rest.weaken fun _ => And.left
  unfold originateRecipient
  refine (lift (ari_within hf rfl)).bind fun channel => Within.bind ?_ fun vars => ?_
  · cases args.vars with
    | object vars => exact .pure vars
    | other => exact .throw rfl
  · refine (lift (getVar_within hf c _)).bind fun _ => (lift (var _)).bind fun _ =>
      (lift (var _)).bind fun _ => (lift (ari_within hf rfl)).bind fun recipientCall => ?_
    refine Within.bind (Within.change fun s => ?_) fun _ => .pure _
    exact ⟨rfl, rfl, rfl, rfl, _, rfl, by simp [Says, hp]⟩

/-- `_start_attended` returns the transfer with a recipient. -/
theorem startAttended_triple (args : StartArgs) (hn : p.mayNotify .updated = true)
    (ho : p.mayOriginate = true) :
    Triple env (Talks p t.id s₀) (startAttended t args)
      (fun t' s => Talks p t.id s₀ s ∧ ∃ c, t' = { t with recipientCall := some c })
      (fun _ s => Talks p t.id s₀ s) := by
  have stable : ∀ s s', Talks p t.id s₀ s → (talks p t.id).rel s s' → Talks p t.id s₀ s' :=
    fun _ _ h h' => (talks p t.id).trans h h'
  have talk : ∀ {α : Type} {q : Code α}, Within env (talks p t.id) (fun _ => True) q →
      Triple env (Talks p t.id s₀) q (fun _ => Talks p t.id s₀) (fun _ => Talks p t.id s₀) :=
    fun h => (h.triple stable).weaken (fun _ => id) (fun _ _ => id) fun _ _ => And.left
  unfold startAttended
  refine (talk (quiet_talks (holdTransferredCall_within env.faults_any t))).bind fun _ => ?_
  refine (talk (quiet_talks (channelsDo_within env.faults_any _ _).ignoring_rest)).bind fun _ => ?_
  refine Triple.bind (Q := fun r s => Talks p t.id s₀ s ∧ ∃ c, r = some c) (Triple.catching ?_)
    fun r => ?_
  · refine ((originateRecipient_talks t.initiatorCall args ho).triple stable).weaken (fun _ => id)
      (fun c s h => ⟨h, c, rfl⟩) fun e s h => ?_
    simp [h.2, h.1]
  · refine Triple.of_fact ?_
    rintro ⟨c, rfl⟩
    have note : Within env (talks p t.id) (fun _ => True)
        (notify .updated { t with recipientCall := some c }) := notify_talks rfl hn
    exact (talk note).bind fun _ => Triple.pure fun s hs => ⟨hs, c, rfl⟩

/-! ## Outcomes -/

/-- The record of a transfer has a recipient exactly when its recipient has been called. -/
def Shaped (t : Transfer) : Prop := t.recipientCall.isSome = true ↔ t.status.phase = some .calling

/-- The end has been announced after the given announcements, and the lock released. -/
structure Announced (p : Phase) (t : Transfer) (s s' : System) : Prop where
  records : s'.asterisk.records = s.asterisk.records
  index : s'.asterisk.index = s.asterisk.index
  lockedCalls : s'.lockedCalls = s.lockedCalls.erase t.initiatorCall
  stateMachineLocked : s'.stateMachineLocked = s.stateMachineLocked
  trace : ∃ evs n, s'.trace = s.trace ++ (evs ++ [.notified n]) ∧
    n.kind = .ended ∧ n.transfer.id = t.id ∧ ∀ e ∈ evs, Says p t.id e

/-- What the body of a transition returns: the transfer has moved to another phase, or has
ended, or had ended before. -/
inductive Outcome (t t' : Transfer) (s s' : System) : Prop
  | moved {p p' : Phase} (phase : t.status.phase = some p) (phase' : t'.status.phase = some p')
      (next : p.next p' = true) (same : t.Same t') (shaped : Shaped t')
      (talks : Talks p t.id s s')
  | ended {p : Phase} (phase : t.status.phase = some p) (notInitial : p ≠ .initial)
      (ended : t'.status = .ended) (same : t.Same t') (announced : Announced p t s s')
  | idle (ended : t.status = .ended) (same : t' = t) (quiet : Quiet s s')

/-- The contract of a piece of code at the end of a transition, in a given phase. -/
def Concludes (env : Env) (p : Phase) (t : Transfer) (s₀ : System) (q : Code Transfer) : Prop :=
  Triple env (Talks p t.id s₀) q (fun t' s => Outcome t t' s₀ s) fun _ s => Talks p t.id s₀ s

theorem talk {α : Type} {q : Code α} (h : Within env (talks p id) (fun _ => True) q) :
    Triple env (Talks p id s₀) q (fun _ => Talks p id s₀) fun _ => Talks p id s₀ :=
  (h.triple fun _ _ hs hr => (talks p id).trans hs hr).weaken (fun _ h => h)
    (fun _ _ h => h) fun _ _ => And.left

namespace Concludes

theorem bind {α : Type} {q : Code α} {f : α → Code Transfer}
    (h : Within env (talks p t.id) (fun _ => True) q) (hf : ∀ a, Concludes env p t s₀ (f a)) :
    Concludes env p t s₀ (q >>= f) :=
  (talk h).bind hf

theorem quiet_bind {α : Type} {E : Exn → Prop} {q : Code α} {f : α → Code Transfer}
    (h : Within env quiet E q) (hf : ∀ a, Concludes env p t s₀ (f a)) :
    Concludes env p t s₀ (q >>= f) :=
  bind (quiet_talks h) hf

theorem throw (e : Exn) : Concludes env p t s₀ (throw e) := Triple.throw fun _ => id

/-- Return the transfer in another status. -/
theorem move {t' : Transfer} {p' : Phase} (hph : t.status.phase = some p)
    (hph' : t'.status.phase = some p') (hp : p.next p' = true) (same : t.Same t')
    (shaped : Shaped t') : Concludes env p t s₀ (pure t') :=
  Triple.pure fun _ hs => .moved hph hph' hp same shaped hs

/-- Enter `ended`. -/
theorem ended (hph : t.status.phase = some p) (hp : p ≠ .initial) :
    Concludes env p t s₀ (TransferStateEnded.fromState t) := by
  rintro s ⟨hr, hi, hl, hm, evs, htr, hsay⟩
  by_cases hb : env.bus s.tick = true
  · simp only [TransferStateEnded.fromState, notify, bind_apply, hb, if_true, TransferLock.release,
      change_apply, pure_apply]
    exact .ended hph hp rfl ⟨rfl, rfl, rfl, rfl⟩ ⟨hr, hi, by simp [hl, fromState], hm, evs, _,
      by simp [htr]; rfl, rfl, rfl, hsay⟩
  · simp only [TransferStateEnded.fromState, notify, bind_apply, hb]
    exact ⟨hr, hi, hl, hm, evs, htr, hsay⟩

end Concludes

/-! ## The bodies -/

section Bodies

variable (hph : t.status.phase = some p)
include hph

theorem abandonAndEnd_concludes (hp : p ≠ .initial) (ha : p.mayNotify .abandoned = true) :
    Concludes env p t s₀ (abandonAndEnd t) :=
  .bind (abandon_talks rfl ha) fun _ => .ended hph hp

theorem abandonAndHangup_concludes (hp : p ≠ .initial) (ha : p.mayNotify .abandoned = true) :
    Concludes env p t s₀ (abandonAndHangup t) :=
  .bind (abandon_talks rfl ha) fun _ =>
    .quiet_bind (hangupAll_within env.faults_any t) fun _ => .ended hph hp

theorem hangupAndEnd_concludes (hp : p ≠ .initial) :
    Concludes env p t s₀ (hangupAndEnd t) :=
  .quiet_bind (hangupAll_within env.faults_any t) fun _ => .ended hph hp

theorem cancelAndEnd_concludes (hp : p ≠ .initial) (hc : p.mayNotify .cancelled = true) :
    Concludes env p t s₀ (cancelAndEnd t) :=
  .bind (cancelTransfer_talks rfl hc) fun _ => .ended hph hp

/-- The tail of the transitions that call the recipient. -/
theorem startAttended_concludes (args : StartArgs) (hn : p.mayNotify .updated = true)
    (ho : p.mayOriginate = true) (hp : p.next .calling = true) :
    Concludes env p t s₀ (do return fromState .ringback (← startAttended t args)) := by
  refine (startAttended_triple args hn ho).bind fun t' => Triple.of_fact ?_
  rintro ⟨c, rfl⟩
  exact Concludes.move hph rfl hp ⟨rfl, rfl, rfl, rfl⟩ ⟨fun _ => rfl, fun _ => rfl⟩

theorem self_concludes (hs : Shaped t) : Concludes env p t s₀ (pure t) :=
  .move hph hph p.next_self .rfl hs

theorem rememberBlind_concludes (hs : Shaped t) : Concludes env p t s₀ (rememberBlind t) :=
  .move hph hph p.next_self ⟨rfl, rfl, rfl, rfl⟩ hs

/-- Move to a status of a phase in which there is a recipient if and only if there was one. -/
theorem fromState_concludes {st : Status} {p' : Phase} (hs : Shaped t)
    (hst : st.phase = some p') (hp : p.next p' = true) (hc : p = .calling ↔ p' = .calling) :
    Concludes env p t s₀ (pure (fromState st t)) := by
  refine .move hph hst hp ⟨rfl, rfl, rfl, rfl⟩ ?_
  unfold Shaped at hs ⊢
  simp only [fromState, hst, hph, Option.some.injEq] at hs ⊢
  rw [hs, hc]

end Bodies

theorem joinedStasis_concludes (hph : t.status.phase = some .moving) :
    Concludes env .moving t s₀ (joinedStasis t) :=
  .quiet_bind (getInitialTransferVariables_within env.faults_any _) fun args =>
    startAttended_concludes hph args rfl rfl rfl

theorem TransferStateReady.start_concludes (hph : t.status.phase = some .initial)
    (args : StartArgs) : Concludes env .initial t s₀ (TransferStateReady.start args t) := by
  have hf := env.faults_any
  refine .quiet_bind (user_within hf _) fun user => ?_
  have rest : Concludes env .initial t s₀ (do
      orRaise (do setTransferredVariables t; setInitiatorVariables t)
        (.transferCreationError "some channel got hung up")
      TransferStateReady.destroyBridge t
      let t ← startAttended t args
      return fromState .ringback t) :=
    .quiet_bind (orRaise_within ((setVariables_within hf t _ _).bind fun _ =>
      setVariables_within hf t _ _) _) fun _ =>
    .quiet_bind (destroyBridge_within hf t) fun _ => startAttended_concludes hph args rfl rfl rfl
  cases user with
  | none => exact .throw _
  | some uuid => exact rest

theorem TransferStateNonStasis.start_concludes (hph : t.status.phase = some .initial)
    (hs : Shaped t) (args : StartArgs) :
    Concludes env .initial t s₀ (TransferStateNonStasis.start args t) :=
  .quiet_bind (orRaise_within (convertTransferToStasis_within env.faults_any _ _ _ _ _ _ _) _)
    fun _ => fromState_concludes hph hs rfl rfl (by simp)

section Calling

variable (hph : t.status.phase = some .calling) (hs : Shaped t)
include hph hs

theorem abandonAndWait_concludes : Concludes env .calling t s₀ (abandonAndWait t) :=
  .bind (abandon_talks rfl rfl) fun _ => fromState_concludes hph hs rfl rfl Iff.rfl

theorem TransferStateRingback.transferBlind_concludes :
    Concludes env .calling t s₀ (TransferStateRingback.transferBlind t) := by
  unfold TransferStateRingback.transferBlind
  refine .quiet_bind (((unholdTransferredCall_within env.faults_any t).bind fun _ =>
    channelsDo_within env.faults_any _ _).catching_rest) fun r => ?_
  cases r with
  | none => exact hangupAndEnd_concludes hph (by simp)
  | some _ =>
    refine .bind (notify_talks (t := { t with flow := .blind }) rfl rfl) fun _ => ?_
    exact .move hph rfl rfl ⟨rfl, rfl, rfl, rfl⟩ ⟨fun _ => rfl, fun _ => hs.mpr hph⟩

theorem TransferStateRingback.complete_concludes :
    Concludes env .calling t s₀ (TransferStateRingback.complete t) :=
  .quiet_bind (channelsDo_within env.faults_any _ _).ignoring_rest fun _ =>
    TransferStateRingback.transferBlind_concludes hph hs

omit hph hs in
theorem moveRecipient_within (t : Transfer) : Within env quiet (fun _ => True)
    (moveRecipientCallToTransferBridge t) := by
  unfold moveRecipientCallToTransferBridge
  split
  · exact moveToTransferBridge_within env.faults_any t _
  · exact .throw trivial

omit hph hs in
theorem unsetRecipientVariables_within (t : Transfer) : Within env quiet (fun _ => True)
    (unsetRecipientVariables t) := by
  unfold unsetRecipientVariables
  split
  · exact (unsetVariables_within env.faults_any _).weaken fun _ _ => trivial
  · exact .throw trivial

theorem TransferStateRingback.recipientAnswer_concludes :
    Concludes env .calling t s₀ (TransferStateRingback.recipientAnswer t) := by
  refine .quiet_bind (orRaise_within (unringInitiatorCall_within env.faults_any _) _) fun _ => ?_
  refine .quiet_bind (moveToTransferBridge_within env.faults_any t _) fun _ => ?_
  refine .quiet_bind (moveRecipient_within t) fun _ => ?_
  exact .bind (notify_talks (t := fromState .answered t) rfl rfl) fun _ =>
    fromState_concludes hph hs rfl rfl Iff.rfl

theorem TransferStateAbandoned.recipientAnswer_concludes :
    Concludes env .calling t s₀ (TransferStateAbandoned.recipientAnswer t) := by
  refine .quiet_bind (orRaise_within (unringInitiatorCall_within env.faults_any _) _) fun _ => ?_
  refine .quiet_bind (orRaise_within (moveToTransferBridge_within env.faults_any t _) _) fun _ => ?_
  exact .quiet_bind (orRaise_within (moveRecipient_within t) _) fun _ => self_concludes hph hs

omit hs in
theorem TransferStateBlindTransferred.recipientAnswer_concludes :
    Concludes env .calling t s₀ (TransferStateBlindTransferred.recipientAnswer t) := by
  refine .quiet_bind (unsetVariables_within env.faults_any _) fun _ => ?_
  refine .quiet_bind (unsetRecipientVariables_within t) fun _ => ?_
  refine .quiet_bind (orRaise_within (unringInitiatorCall_within env.faults_any _) _) fun _ => ?_
  refine .quiet_bind (moveToTransferBridge_within env.faults_any t _) fun _ => ?_
  refine .quiet_bind (moveRecipient_within t) fun _ => ?_
  refine .quiet_bind (announceRecordings_within env.faults_any t) fun _ => ?_
  exact .bind (notify_talks rfl rfl) fun _ => .ended hph (by simp)

omit hph hs in
theorem bridgeTransferred_within (t : Transfer) : Within env quiet (fun _ => True)
    (TransferStateAnswered.bridgeTransferred t) :=
  (unholdTransferredCall_within env.faults_any t).bind fun _ =>
    (moveToTransferBridge_within env.faults_any t _).bind fun _ =>
    ((unsetVariables_within env.faults_any _).weaken fun _ _ => trivial).bind fun _ =>
    unsetRecipientVariables_within t

omit hs in
theorem TransferStateAnswered.initiatorHangup_concludes :
    Concludes env .calling t s₀ (TransferStateAnswered.initiatorHangup t) :=
  .quiet_bind (bridgeTransferred_within t) fun _ =>
    .quiet_bind (announceRecordings_within env.faults_any t) fun _ =>
    .bind (notify_talks rfl rfl) fun _ => .ended hph (by simp)

omit hs in
theorem TransferStateAnswered.complete_concludes :
    Concludes env .calling t s₀ (TransferStateAnswered.complete t) :=
  .quiet_bind (bridgeTransferred_within t) fun _ =>
    .quiet_bind (channelsDo_within env.faults_any _ _).ignoring_rest fun _ =>
    .quiet_bind (announceRecordings_within env.faults_any t) fun _ =>
    .bind (notify_talks rfl rfl) fun _ => .ended hph (by simp)

end Calling

/-! ## All the methods -/

theorem notImplemented_concludes : Concludes env p t s₀ (notImplemented t) := .throw _

section Methods

variable {tr : Transition} {body : Transfer → Code Transfer}

theorem TransferStateReady.method_concludes {args : StartArgs}
    (hph : t.status.phase = some .initial) (hs : Shaped t)
    (hm : TransferStateReady.method args tr = .decorated body) :
    Concludes env .initial t s₀ (body t) := by
  cases tr <;> cases hm
  case start => exact TransferStateReady.start_concludes hph args
  case transferredMohStop => exact self_concludes hph hs
  all_goals exact notImplemented_concludes

theorem TransferStateNonStasis.method_concludes {args : StartArgs}
    (hph : t.status.phase = some .initial) (hs : Shaped t)
    (hm : TransferStateNonStasis.method args tr = .decorated body) :
    Concludes env .initial t s₀ (body t) := by
  cases tr <;> cases hm
  case start => exact TransferStateNonStasis.start_concludes hph hs args
  case transferredMohStop => exact self_concludes hph hs
  all_goals exact notImplemented_concludes

section Moving

variable (hph : t.status.phase = some .moving) (hs : Shaped t)
include hph hs

theorem TransferStateMovingToStasisNoneReady.method_concludes
    (hm : TransferStateMovingToStasisNoneReady.method tr = .decorated body) :
    Concludes env .moving t s₀ (body t) := by
  cases tr <;> cases hm
  case complete => exact rememberBlind_concludes hph hs
  case initiatorHangup => exact rememberBlind_concludes hph hs
  case transferredHangup => exact abandonAndEnd_concludes hph (by simp) rfl
  case initiatorJoinedStasis => exact fromState_concludes hph hs rfl rfl (by simp)
  case transferredJoinedStasis => exact fromState_concludes hph hs rfl rfl (by simp)
  case cancel => exact fromState_concludes hph hs rfl rfl (by simp)
  all_goals exact notImplemented_concludes

theorem TransferStateMovingToStasisInitiatorReady.method_concludes
    (hm : TransferStateMovingToStasisInitiatorReady.method tr = .decorated body) :
    Concludes env .moving t s₀ (body t) := by
  cases tr <;> cases hm
  case complete => exact rememberBlind_concludes hph hs
  case initiatorHangup => exact rememberBlind_concludes hph hs
  case transferredHangup => exact abandonAndHangup_concludes hph (by simp) rfl
  case transferredJoinedStasis => exact joinedStasis_concludes hph
  case cancel => exact fromState_concludes hph hs rfl rfl (by simp)
  case transferredMohStop => exact self_concludes hph hs
  all_goals exact notImplemented_concludes

theorem TransferStateMovingToStasisTransferredReady.method_concludes
    (hm : TransferStateMovingToStasisTransferredReady.method tr = .decorated body) :
    Concludes env .moving t s₀ (body t) := by
  cases tr <;> cases hm
  case complete => exact rememberBlind_concludes hph hs
  case initiatorHangup => exact rememberBlind_concludes hph hs
  case transferredHangup => exact abandonAndEnd_concludes hph (by simp) rfl
  case initiatorJoinedStasis => exact joinedStasis_concludes hph
  case cancel => exact fromState_concludes hph hs rfl rfl (by simp)
  case transferredMohStop => exact self_concludes hph hs
  all_goals exact notImplemented_concludes

end Moving

section Cancelled

variable (hph : t.status.phase = some .cancelled) (hs : Shaped t)
include hph hs

theorem TransferStateMovingToStasisInitiatorCancelled.method_concludes
    (hm : TransferStateMovingToStasisInitiatorCancelled.method tr = .decorated body) :
    Concludes env .cancelled t s₀ (body t) := by
  cases tr <;> cases hm
  case initiatorHangup => exact Concludes.ended hph (by simp)
  case transferredHangup => exact abandonAndHangup_concludes hph (by simp) rfl
  case transferredJoinedStasis => exact cancelAndEnd_concludes hph (by simp) rfl
  case cancel => exact self_concludes hph hs
  case transferredMohStop => exact self_concludes hph hs
  all_goals exact notImplemented_concludes

theorem TransferStateMovingToStasisTransferredCancelled.method_concludes
    (hm : TransferStateMovingToStasisTransferredCancelled.method tr = .decorated body) :
    Concludes env .cancelled t s₀ (body t) := by
  cases tr <;> cases hm
  case initiatorHangup => exact hangupAndEnd_concludes hph (by simp)
  case transferredHangup => exact abandonAndEnd_concludes hph (by simp) rfl
  case initiatorJoinedStasis => exact cancelAndEnd_concludes hph (by simp) rfl
  case cancel => exact self_concludes hph hs
  case transferredMohStop => exact self_concludes hph hs
  all_goals exact notImplemented_concludes

theorem TransferStateMovingToStasisNoneCancelled.method_concludes
    (hm : TransferStateMovingToStasisNoneCancelled.method tr = .decorated body) :
    Concludes env .cancelled t s₀ (body t) := by
  cases tr <;> cases hm
  case initiatorHangup => exact Concludes.ended hph (by simp)
  case transferredHangup => exact abandonAndEnd_concludes hph (by simp) rfl
  case initiatorJoinedStasis => exact cancelAndEnd_concludes hph (by simp) rfl
  case transferredJoinedStasis => exact cancelAndEnd_concludes hph (by simp) rfl
  case cancel => exact self_concludes hph hs
  case transferredMohStop => exact self_concludes hph hs
  all_goals exact notImplemented_concludes

end Cancelled

section Called

variable (hph : t.status.phase = some .calling) (hs : Shaped t)
include hph hs

theorem TransferStateRingback.method_concludes
    (hm : TransferStateRingback.method tr = .decorated body) :
    Concludes env .calling t s₀ (body t) := by
  cases tr <;> cases hm
  case transferredHangup => exact abandonAndWait_concludes hph hs
  case initiatorHangup => exact TransferStateRingback.transferBlind_concludes hph hs
  case recipientHangup => exact cancelAndEnd_concludes hph (by simp) rfl
  case complete => exact TransferStateRingback.complete_concludes hph hs
  case cancel => exact cancelAndEnd_concludes hph (by simp) rfl
  case recipientAnswer => exact TransferStateRingback.recipientAnswer_concludes hph hs
  all_goals exact notImplemented_concludes

theorem TransferStateBlindTransferred.method_concludes
    (hm : TransferStateBlindTransferred.method tr = .decorated body) :
    Concludes env .calling t s₀ (body t) := by
  cases tr <;> cases hm
  case transferredHangup => exact abandonAndHangup_concludes hph (by simp) rfl
  case initiatorHangup => exact self_concludes hph hs
  case recipientHangup => exact cancelAndEnd_concludes hph (by simp) rfl
  case cancel => exact cancelAndEnd_concludes hph (by simp) rfl
  case recipientAnswer => exact TransferStateBlindTransferred.recipientAnswer_concludes hph
  case transferredMohStop => exact self_concludes hph hs
  all_goals exact notImplemented_concludes

theorem TransferStateAnswered.method_concludes
    (hm : TransferStateAnswered.method tr = .decorated body) :
    Concludes env .calling t s₀ (body t) := by
  cases tr <;> cases hm
  case transferredHangup => exact abandonAndWait_concludes hph hs
  case initiatorHangup => exact TransferStateAnswered.initiatorHangup_concludes hph
  case recipientHangup => exact cancelAndEnd_concludes hph (by simp) rfl
  case complete => exact TransferStateAnswered.complete_concludes hph
  case cancel => exact cancelAndEnd_concludes hph (by simp) rfl
  all_goals exact notImplemented_concludes

theorem TransferStateAbandoned.method_concludes
    (hm : TransferStateAbandoned.method tr = .decorated body) :
    Concludes env .calling t s₀ (body t) := by
  cases tr <;> cases hm
  case transferredHangup => exact self_concludes hph hs
  case initiatorHangup => exact hangupAndEnd_concludes hph (by simp)
  case recipientHangup => exact hangupAndEnd_concludes hph (by simp)
  case cancel => exact cancelAndEnd_concludes hph (by simp) rfl
  case recipientAnswer => exact TransferStateAbandoned.recipientAnswer_concludes hph hs
  case transferredMohStop => exact self_concludes hph hs
  all_goals exact notImplemented_concludes

end Called

/-- **What a transition can do.**  In every state but `ended`, the body of a transition
makes announcements that the phase allows, and returns the transfer in a phase that may
follow, or ended. -/
theorem method_concludes (hph : t.status.phase = some p) (hs : Shaped t) {args : StartArgs}
    (hm : t.status.method args tr = .decorated body) : Concludes env p t s₀ (body t) := by
  have hp := hph
  cases hst : t.status <;> rw [hst] at hm hp <;> cases hp
  case ready => exact TransferStateReady.method_concludes hph hs hm
  case nonStasis => exact TransferStateNonStasis.method_concludes hph hs hm
  case noneMovedToStasis => exact TransferStateMovingToStasisNoneReady.method_concludes hph hs hm
  case initiatorMovedToStasis =>
    exact TransferStateMovingToStasisInitiatorReady.method_concludes hph hs hm
  case transferredMovedToStasis =>
    exact TransferStateMovingToStasisTransferredReady.method_concludes hph hs hm
  case noneMovedToStasisCancelled =>
    exact TransferStateMovingToStasisNoneCancelled.method_concludes hph hs hm
  case initiatorMovedToStasisCancelled =>
    exact TransferStateMovingToStasisInitiatorCancelled.method_concludes hph hs hm
  case transferredMovedToStasisCancelled =>
    exact TransferStateMovingToStasisTransferredCancelled.method_concludes hph hs hm
  case ringback => exact TransferStateRingback.method_concludes hph hs hm
  case blindTransferred => exact TransferStateBlindTransferred.method_concludes hph hs hm
  case answered => exact TransferStateAnswered.method_concludes hph hs hm
  case abandoned => exact TransferStateAbandoned.method_concludes hph hs hm

/-- In `ended` nothing happens any more. -/
theorem ended_method (hst : t.status = .ended) {args : StartArgs}
    (hm : t.status.method args tr = .decorated body) :
    body t = pure t ∨ body t = notImplemented t := by
  rw [hst] at hm
  cases tr <;> cases hm <;> first | exact .inl rfl | exact .inr rfl

/-- The only plain methods are the overrides of `transferred_moh_stop`. -/
theorem plain_method {st : Status} {args : StartArgs} (hm : st.method args tr = .plain body) :
    body = playSilence := by
  cases st <;> cases tr <;> cases hm <;> rfl

end Methods

end Calld.Transfers
