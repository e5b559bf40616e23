/-
# What the dial-mobile service does

The handlers of the service, cut where they can be interleaved with one another: a task is
what is left of a handler, and its code is the next section of it, run as a whole, with
the tasks that follow.  A section that takes the lock of a call, a prune of the maps of a
call and the registration of a dialer are one section each; ARI and confd requests stand
between them.

Timers fire and dialer threads dial on their own; both are tasks as well.
-/
import Calld.DialMobile.Service

namespace Calld.DialMobile

open Effect Effect.Program

/-! ## Tasks -/

/-- A `Pushmobile` user event. -/
structure PushRequest where
  tenantUuid : Option TenantUuid
  userUuid : UserUuid
  callId : ChannelId
  sipCallId : String
  callerIdName : String
  callerIdNumber : String
  videoEnabled : Bool
  ringTimeout : ℕ
  originCallId : CallId
  pushMobileTimestamp : String
  deriving DecidableEq, Repr

/-- What is left of a handler. -/
inductive Task where
  /-- `send_push_notification` -/
  | sendPush (r : PushRequest)
  /-- its second locked section -/
  | publishPush (push : Push)
  | dialAllContacts (callerChannelId : ChannelId) (originChannelId : CallId) (aor : Aor)
  | contactAvailable (aor : Aor)
  /-- a dialer thread originates a contact -/
  | contactDialed (b : BridgeUuid)
  | onContactDialed (b : BridgeUuid)
  | dialerWakes (b : BridgeUuid)
  /-- `join_bridge`, up to the end of its locked section -/
  | joinBridge (c : ChannelId) (b : BridgeUuid)
  | pickup (c : ChannelId) (exten context : String)
  | joinPop (c : ChannelId) (b : BridgeUuid) (call : Option CallId)
  | joinAnswer (c : ChannelId) (b : BridgeUuid) (call : Option CallId)
  | joinCancel (b : BridgeUuid) (call : CallId)
  | joinPrune (b : BridgeUuid)
  /-- `notify_channel_gone` -/
  | channelDestroyed (c : ChannelId)
  | goneScan (c : ChannelId) (calls : List CallId)
  | goneDialers (c : ChannelId)
  | goneRemove (bs : List BridgeUuid)
  | goneFallback (b : BridgeUuid) (call : CallId) (bs : List BridgeUuid)
  | gonePush (b : BridgeUuid) (call : CallId) (bs : List BridgeUuid)
  | gonePrune (b : BridgeUuid) (bs : List BridgeUuid)
  | bridgeEnter (linkedid : CallId) (userUuid : UserUuid)
  | cancelPush (call : CallId)
  | completePush (call : CallId)
  /-- `_pstn_fallback`, up to the end of phase 1 -/
  | pstnFallback (timer : ℕ) (call : CallId)
  | fallbackLookup (timer : ℕ) (call : CallId)
  | fallbackCaller (timer : ℕ) (call originCallId : CallId)
  | fallbackCommit (timer : ℕ) (call : CallId)
  | fallbackAbort (call : CallId)
  deriving DecidableEq, Repr

/-! ## Hangups -/

/-- `channels.hangup`, whatever comes of it. -/
def hangup (c : ChannelId) : Code Unit := do
  note (.hungUp c)
  outside (·.hangup c)

/-- `channels.hangup` of a channel that may be gone. -/
def hangupIfThere (c : ChannelId) : Code Unit := ignoring isARINotFound (hangup c)

/-! ## The state of a call -/

def setIncomingCall (call : CallId) (incoming : IncomingCall) : Code Unit :=
  change fun w => { w with incomingCalls := w.incomingCalls.set call incoming }

def setFallback (call : CallId) (fallback : PSTNFallback) : Code Unit :=
  change fun w => { w with pstnFallbacks := w.pstnFallbacks.set call fallback }

/-- The notification of a push, about a call. -/
def Push.notification (push : Push) (call : CallId) : PushNotification where
  push := push.id
  call := call
  payload := push.payload
  tenantUuid := push.tenantUuid
  userUuid := push.userUuid

/-- A fallback is cancelled. -/
def cancelled (call : CallId) : Code Unit := do
  setFallback call .cancelled
  note (.fallbackCancelled call)

/-- `_cancel_pstn_fallback`. -/
def cancelPSTNFallback (call : CallId) : Code Unit := do
  match ← look (·.callLocks.get call) with
  | none =>
    match ← look (·.pstnFallbacks.get call) with
    | none => pure ()
    | some _ => throw .assertionError
  | some _ =>
    match ← look (·.pstnFallbacks.get call) with
    | none | some .cancelled | some (.dialAnswered _) => pure ()
    | some (.pending timer) => do
      change fun w => { w with timers := w.timers.pop timer }
      cancelled call
    | some (.dialing c) => do
      hangupIfThere c
      cancelled call
    | some .triggering => cancelled call

/-- `cancel_push_mobile`. -/
def cancelPushMobile (call : CallId) : Code Unit := do
  match ← look (·.incomingCalls.get call) with
  | some (.received _) | some (.pushCancelled _) | none => pure ()
  | some (.notified push) => do
    outside (·.notifier)
    note (.cancelPushNotification (push.notification call))
    setIncomingCall call (.pushCancelled push)
  | some (.pending push) => setIncomingCall call (.pushCancelled push)

/-- `complete_pending_push_mobile`. -/
def completePendingPushMobile (call : CallId) : Code Unit := do
  match ← look (·.incomingCalls.get call) with
  | some (.received _) | some (.pushCancelled _) | none => pure ()
  | some (.notified push) | some (.pending push) => do
    setIncomingCall call (.received push)
    note (.pushCompleted push)

/-- `_prune_call_state`. -/
def pruneCallState (b : BridgeUuid) : Code Unit := do
  match ← look (·.originCallIdByBridgeUuid.get b) with
  | some call => do
    change fun w => { w with
      originCallIdByBridgeUuid := w.originCallIdByBridgeUuid.pop b
      bridgeUuidByOriginCallId := w.bridgeUuidByOriginCallId.pop call
      callRingTime := w.callRingTime.pop call
      pstnFallbacks := w.pstnFallbacks.pop call
      callLocks := w.callLocks.pop call
      incomingCalls := w.incomingCalls.pop call
      callerChannelLegByBridge := w.callerChannelLegByBridge.pop b }
    note (.pruned b call)
  | none =>
    change fun w => { w with callerChannelLegByBridge := w.callerChannelLegByBridge.pop b }

/-! ## Push requests -/

/-- `_pstn_fallback_eligible`. -/
def pstnFallbackEligible : Code Bool := do
  match ← catching isRequestException (outside (·.confdUser)) with
  | none => pure true
  | some user => pure (user.mobileFallbackEnabled && user.mobilePhoneNumber.getD "" != "")

/-- The push of a request. -/
def PushRequest.push (r : PushRequest) (id : ℕ) : Push where
  id := id
  callId := r.callId
  tenantUuid := r.tenantUuid
  userUuid := r.userUuid
  originCallId := r.originCallId
  payload :=
    { peerCallerIdNumber := r.callerIdNumber
      peerCallerIdName := r.callerIdName
      callId := r.callId
      video := r.videoEnabled
      ringTimeout := r.ringTimeout
      sipCallId := r.sipCallId
      mobileWakeupTimestamp := r.pushMobileTimestamp }

/-- `send_push_notification`, its first locked section. -/
def sendPush (r : PushRequest) : Code (List Task) := do
  let id ← newObject
  let lock ← newObject
  change fun w => { w with
    callLocks := w.callLocks.setdefault r.originCallId lock
    callRingTime := w.callRingTime.set r.originCallId r.ringTimeout }
  setIncomingCall r.originCallId (.pending (r.push id))
  note (.pushRequested (r.push id))
  pure [.publishPush (r.push id)]

/-- A new timer for the fallback of a call. -/
def armFallback (call : CallId) : Code Unit := do
  let timer ← newObject
  setFallback call (.pending timer)
  change fun w => { w with timers := w.timers.set timer call }
  note (.fallbackArmed timer call)

/-- `if pstn_fallback_enabled`. -/
def armFallbackIf (enabled : Bool) (call : CallId) : Code Unit :=
  if enabled then armFallback call else pure ()

/-- `send_push_notification`, its second locked section. -/
def publishPush (push : Push) : Code (List Task) := do
  let enabled ← pstnFallbackEligible
  match ← look (·.incomingCalls.get push.originCallId) with
  | some (.pending _) => do
    outside (·.notifier)
    note (.pushNotification (push.notification push.originCallId))
    setIncomingCall push.originCallId (.notified push)
    armFallbackIf enabled push.originCallId
    pure []
  | _ => pure []

/-! ## Dialers -/

/-- The maps with one more dialer. -/
def registerDialer (dialer : Dialer) (originChannelId : CallId) : Code Unit :=
  change fun w => { w with
    contactDialers := w.contactDialers.set dialer.futureBridgeUuid dialer
    dialersByAor := w.dialersByAor.set dialer.aor
      (insert dialer ((w.dialersByAor.get dialer.aor).getD ∅))
    callerChannelLegByBridge :=
      w.callerChannelLegByBridge.set dialer.futureBridgeUuid dialer.callerChannelId
    originCallIdByBridgeUuid :=
      w.originCallIdByBridgeUuid.set dialer.futureBridgeUuid originChannelId
    bridgeUuidByOriginCallId :=
      w.bridgeUuidByOriginCallId.set originChannelId dialer.futureBridgeUuid
    running := insert dialer.futureBridgeUuid w.running
    uuids := insert dialer.futureBridgeUuid w.uuids
    channels := insert dialer.callerChannelId w.channels }

/-- `dial_all_contacts`. -/
def dialAllContacts (callerChannelId : ChannelId) (originChannelId : CallId) (aor : Aor) :
    Code (List Task) := do
  outside (·.ring)
  let ringingTime ← look fun w => (w.callRingTime.get originChannelId).getD 30
  let pickupMark ← tryCatch (outside (·.pickupMark)) fun e =>
    if e = .ariServerError then pure "" else throw e
  let futureBridgeUuid ← ask (·.uuid4)
  registerDialer ⟨futureBridgeUuid, callerChannelId, aor, ringingTime, pickupMark⟩ originChannelId
  note (.dialed futureBridgeUuid originChannelId)
  pure []

/-- `notify_contact_available`: the dialers of an aor look for new contacts. -/
def contactAvailable (aor : Aor) : Code (List Task) := do
  let dialers ← look fun w => w.contactDialers.keys.filter fun b =>
    (w.contactDialers.get b).any fun d => d ∈ (w.dialersByAor.get aor).getD ∅
  dialers.forM fun b => note (.kicked b)
  pure []

/-- `_unregister_dialer_by_aor`. -/
def unregisterDialerByAor (dialer : Dialer) (w : World) : World :=
  { w with dialersByAor := w.dialersByAor.filterMap fun _ dialers =>
      if dialers.erase dialer = ∅ then none else some (dialers.erase dialer) }

/-- A dialer leaves both indexes. -/
def removeDialer (b : BridgeUuid) (dialer : Dialer) : Code Unit :=
  change fun w => unregisterDialerByAor dialer { w with
    contactDialers := w.contactDialers.pop b }

/-- A dialer thread has ended. -/
def ended (b : BridgeUuid) : Code Unit := change fun w => { w with running := w.running.erase b }

/-- `_remove_unanswered_channels`. -/
def removeUnansweredChannels (b : BridgeUuid) : Code Unit := do
  let channels ← look (·.dialedChannels b)
  channels.forM fun c => do
    match ← catching isARINotFound (outside (·.isUp c)) with
    | some false => hangupIfThere c
    | some true | none => pure ()

/-- `dialer.stop`, when the thread is alive: it ends as it does by itself. -/
def stop (b : BridgeUuid) : Code Unit := do
  if ← look fun w => decide (b ∈ w.running) then do
    ended b
    tryCatch (removeUnansweredChannels b) fun _ => pure ()
  else pure ()

/-- A dialer thread dials one more contact. -/
def contactDialed (b : BridgeUuid) : Code (List Task) := do
  if ← look fun w => decide (b ∈ w.running) then do
    let c ← onRaise (outside (·.originate)) (ended b)
    change fun w => { w with
      dialedChannels := Function.update w.dialedChannels b (w.dialedChannels b ++ [c])
      channels := insert c w.channels }
    pure [.onContactDialed b]
  else pure []

/-- `_on_contact_dialed`. -/
def onContactDialed (b : BridgeUuid) : Code (List Task) := do
  match ← look (·.originCallIdByBridgeUuid.get b) with
  | some call => do
    cancelPSTNFallback call
    pure []
  | none => pure []

/-- A dialer thread wakes up, and ends when the caller is gone. -/
def dialerWakes (b : BridgeUuid) : Code (List Task) := do
  match ← catching isARINotFound (onRaise (outside (·.getChannel)) (ended b)) with
  | none => do
    tryCatch (removeUnansweredChannels b) fun _ => pure ()
    pure []
  | some _ => pure []

/-! ## Joins -/

/-- The locked section of `join_bridge`. -/
def joinFallback (c : ChannelId) (call : CallId) : Code Unit := do
  match ← look (·.pstnFallbacks.get call) with
  | some (.dialing c') =>
    if c' = c then setFallback call (.dialAnswered c) else cancelPSTNFallback call
  | none | some .cancelled | some (.dialAnswered _) => pure ()
  | some (.pending _) | some .triggering => cancelPSTNFallback call

/-- `join_bridge`, up to the end of its locked section. -/
def joinBridge (c : ChannelId) (b : BridgeUuid) : Code (List Task) := do
  change fun w => { w with uuids := insert b w.uuids }
  match ← look (·.originCallIdByBridgeUuid.get b) with
  | some call =>
    match ← look (·.callLocks.get call) with
    | some _ => do
      joinFallback c call
      pure [.joinPop c b (some call)]
    | none => pure [.joinPop c b (some call)]
  | none => pure [.joinPop c b none]

/-- `find_bridge_by_exten_context`. -/
def findBridgeByExtenContext (exten context : String) (w : World) : Option BridgeUuid :=
  w.contactDialers.keys.find? fun b =>
    (w.contactDialers.get b).map Dialer.pickupMark = some (exten ++ "%" ++ context)

/-- The stasis application entered for a pickup. -/
def pickup (c : ChannelId) (exten context : String) : Code (List Task) := do
  match ← look (findBridgeByExtenContext exten context) with
  | some b => pure [.joinBridge c b]
  | none => pure []

/-- `join_bridge`: the dialer is stopped; without a dialer the channel is late. -/
def joinPop (c : ChannelId) (b : BridgeUuid) (call : Option CallId) : Code (List Task) := do
  match ← look (·.contactDialers.get b) with
  | some dialer => do
    removeDialer b dialer
    stop b
    pure [.joinAnswer c b call]
  | none => do
    hangupIfThere c
    pure []

/-- `join_bridge`: both channels are answered and bridged.  However it ends, the state of
the call is pruned. -/
def joinAnswer (c : ChannelId) (b : BridgeUuid) (call : Option CallId) : Code (List Task) :=
  tryCatch (do
    let outgoingChannelId ← look (·.callerChannelLegByBridge.get b)
    match ← catching isARINotFound (outside (·.answer outgoingChannelId)) with
    | none => do
      hangupIfThere c
      match call with
      | some call => pure [.joinCancel b call]
      | none => pure [.joinPrune b]
    | some _ =>
      match ← catching isARINotFound (outside (·.answer (some c))) with
      | none => do
        note (.foundGone c)
        pure [.joinPrune b]
      | some _ => do
        outside (·.bridge)
        note (.bridged b c)
        pure [.joinPrune b]) fun _ => pure [.joinPrune b]

/-- `join_bridge`: the caller has left, the push is cancelled. -/
def joinCancel (b : BridgeUuid) (call : CallId) : Code (List Task) :=
  tryCatch (do
    cancelPushMobile call
    pure [.joinPrune b]) fun _ => pure [.joinPrune b]

/-- `join_bridge`, its `finally`. -/
def joinPrune (b : BridgeUuid) : Code (List Task) := do
  pruneCallState b
  pure []

/-! ## Hangups of channels -/

/-- `notify_channel_gone`: the calls that have a fallback. -/
def channelDestroyed (c : ChannelId) : Code (List Task) := do
  note (.channelGone c)
  let calls ← look (·.pstnFallbacks.keys)
  pure [.goneScan c calls]

/-- `notify_channel_gone`: the leg of a fallback has torn down on its own. -/
def legGone (c : ChannelId) (call : CallId) : Code Unit := do
  match ← look (·.pstnFallbacks.get call) with
  | some (.dialing c') => if c' = c then cancelled call else pure ()
  | _ => pure ()

/-- `notify_channel_gone`: the fallback of the next call. -/
def goneScan (c : ChannelId) : List CallId → Code (List Task)
  | [] => pure [.goneDialers c]
  | call :: calls => do
    legGone c call
    pure [.goneScan c calls]

/-- `dialer._on_channel_gone` does not raise `_NoSuchChannel`. -/
def concerns (w : World) (c : ChannelId) (b : BridgeUuid) : Bool :=
  (w.contactDialers.get b).any fun dialer =>
    c ∈ w.dialedChannels b || c = dialer.callerChannelId

/-- `dialer._on_channel_gone`: the thread is stopped, and a refused call is hung up. -/
def onChannelGone (c : ChannelId) (b : BridgeUuid) : Code Unit := do
  stop b
  match ← look (·.contactDialers.get b) with
  | some dialer =>
    if c = dialer.callerChannelId then pure () else hangupIfThere dialer.callerChannelId
  | none => pure ()

/-- `notify_channel_gone`: the dialers concerned. -/
def goneDialers (c : ChannelId) : Code (List Task) := do
  let toRemove ← look fun w => w.contactDialers.keys.filter (concerns w c)
  toRemove.forM (onChannelGone c)
  pure [.goneRemove toRemove]

/-- `notify_channel_gone`: the next dialer to remove. -/
def goneRemove : List BridgeUuid → Code (List Task)
  | [] => pure []
  | b :: bs => do
    match ← look (·.contactDialers.get b) with
    | none => throw .keyError
    | some dialer => do
      removeDialer b dialer
      match ← look (·.originCallIdByBridgeUuid.get b) with
      | some call => pure [.goneFallback b call bs]
      | none => pure [.gonePrune b bs]

/-- `notify_channel_gone`: `_cancel_pstn_fallback`. -/
def goneFallback (b : BridgeUuid) (call : CallId) (bs : List BridgeUuid) : Code (List Task) := do
  cancelPSTNFallback call
  pure [.gonePush b call bs]

/-- `notify_channel_gone`: `cancel_push_mobile`. -/
def gonePush (b : BridgeUuid) (call : CallId) (bs : List BridgeUuid) : Code (List Task) := do
  cancelPushMobile call
  pure [.gonePrune b bs]

/-- `notify_channel_gone`: `_prune_call_state`. -/
def gonePrune (b : BridgeUuid) (bs : List BridgeUuid) : Code (List Task) := do
  pruneCallState b
  pure [.goneRemove bs]

/-! ## Bridge-enter events -/

/-- `_on_bridge_enter`: a registered mobile of the user has answered, or somebody else. -/
def bridgeEnter (linkedid : CallId) (userUuid : UserUuid) : Code (List Task) := do
  match ← look (·.incomingCalls.get linkedid) with
  | some (.pending push) | some (.notified push) =>
    if userUuid = push.userUuid then do
      match ← catching isARINotFound (outside (·.mobileContacts)) with
      | some true => pure [.completePush linkedid]
      | some false | none => pure [.cancelPush linkedid]
    else pure [.cancelPush linkedid]
  | none | some (.received _) | some (.pushCancelled _) => pure [.cancelPush linkedid]

/-! ## The PSTN fallback -/

/-- `_pstn_fallback`, phase 1. -/
def pstnFallback (timer : ℕ) (call : CallId) : Code (List Task) := do
  match ← look (·.callLocks.get call) with
  | none => pure []
  | some _ =>
    match ← look (·.pstnFallbacks.get call) with
    | some (.pending _) => do
      setFallback call .triggering
      pure [.fallbackLookup timer call]
    | _ => pure []

/-- `_pstn_fallback`, phase 2: what there is to dial. -/
def fallbackLookup (timer : ℕ) (call : CallId) : Code (List Task) := do
  match ← look (·.incomingCalls.get call) with
  | some (.pending push) | some (.notified push) => do
    let some user ← catching isRequestException (outside (·.confdUser))
      | pure [.fallbackAbort call]
    if !user.mobileFallbackEnabled || user.mobilePhoneNumber.getD "" = "" || user.lines = [] then
      pure [.fallbackAbort call]
    else do
      let some _ ← catching isRequestException (outside (·.confdLineContext))
        | pure [.fallbackAbort call]
      pure [.fallbackCaller timer call push.originCallId]
  | none | some (.received _) | some (.pushCancelled _) => pure [.fallbackAbort call]

/-- `_pstn_fallback`, phase 2: whether the caller is there. -/
def fallbackCaller (timer : ℕ) (call originCallId : CallId) : Code (List Task) := do
  match ← look (·.bridgeUuidByOriginCallId.get originCallId) with
  | none => pure [.fallbackAbort call]
  | some _ =>
    match ← catching (fun e => isARINotFound e || isServerError e) (outside (·.getChannel)) with
    | none => pure [.fallbackAbort call]
    | some _ => pure [.fallbackCommit timer call]

/-- `_pstn_fallback`, phase 3: the push is cancelled, then the new leg is recorded. -/
def legOriginated (timer : ℕ) (call : CallId) (c : ChannelId) : Code (List Task) := do
  change fun w => { w with channels := insert c w.channels }
  note (.pstnOriginated timer call c)
  cancelPushMobile call
  setFallback call (.dialing c)
  pure []

/-- `_pstn_fallback`, phase 3. -/
def fallbackCommit (timer : ℕ) (call : CallId) : Code (List Task) := do
  match ← look (·.pstnFallbacks.get call) with
  | some .triggering =>
    match ← catching isServerError (outside (·.originate)) with
    | none => pure [.fallbackAbort call]
    | some c => legOriginated timer call c
  | _ => pure []

/-- `_pstn_fallback`, `except _PSTNFallbackAbort`. -/
def fallbackAbort (call : CallId) : Code (List Task) := do
  match ← look (·.pstnFallbacks.get call) with
  | some .triggering => do
    cancelled call
    pure []
  | _ => pure []

/-! ## The code of a task -/

/-- The next section of a handler, and what follows it. -/
def Task.code : Task → Code (List Task)
  | sendPush r => DialMobile.sendPush r
  | publishPush push => DialMobile.publishPush push
  | dialAllContacts caller origin aor => DialMobile.dialAllContacts caller origin aor
  | contactAvailable aor => DialMobile.contactAvailable aor
  | contactDialed b => DialMobile.contactDialed b
  | onContactDialed b => DialMobile.onContactDialed b
  | dialerWakes b => DialMobile.dialerWakes b
  | joinBridge c b => DialMobile.joinBridge c b
  | pickup c exten context => DialMobile.pickup c exten context
  | joinPop c b call => DialMobile.joinPop c b call
  | joinAnswer c b call => DialMobile.joinAnswer c b call
  | joinCancel b call => DialMobile.joinCancel b call
  | joinPrune b => DialMobile.joinPrune b
  | channelDestroyed c => DialMobile.channelDestroyed c
  | goneScan c calls => DialMobile.goneScan c calls
  | goneDialers c => DialMobile.goneDialers c
  | goneRemove bs => DialMobile.goneRemove bs
  | goneFallback b call bs => DialMobile.goneFallback b call bs
  | gonePush b call bs => DialMobile.gonePush b call bs
  | gonePrune b bs => DialMobile.gonePrune b bs
  | bridgeEnter linkedid userUuid => DialMobile.bridgeEnter linkedid userUuid
  | cancelPush call => do
    cancelPushMobile call
    pure []
  | completePush call => do
    completePendingPushMobile call
    pure []
  | pstnFallback timer call => DialMobile.pstnFallback timer call
  | fallbackLookup timer call => DialMobile.fallbackLookup timer call
  | fallbackCaller timer call origin => DialMobile.fallbackCaller timer call origin
  | fallbackCommit timer call => DialMobile.fallbackCommit timer call
  | fallbackAbort call => DialMobile.fallbackAbort call

end Calld.DialMobile
