/-
# The switchboards service

A switchboard has a queue, a holding bridge in which callers wait for an operator, and
another bridge for the calls that are on hold.  An operator answers a queued call: a channel
is originated for the operator, and the call is taken out of the queue.

The methods of the service and the handlers of the plugin are programs that ask Asterisk,
confd, the bus, the lock and the event loop one request at a time.
-/
import Calld.Ari.Channel
import Calld.Effect.Interactive

namespace Calld.Switchboards

open Effect Effect.Interactive

/-! ## What is asked -/

/-- What a request raises. -/
inductive Failure where
  | ariNotFound
  | ariUnprocessable
  | ari
  | httpError (status : Option ℕ)
  | requestException
  | other
  deriving DecidableEq, Repr

inductive Exn where
  | raised (f : Failure)
  | noSuchSwitchboard (uuid : String)
  | noSuchCall (callId : String)
  | noSuchConfdUser (userUuid : String)
  | invalidUserUUID (userUuid : String)
  | invalidUserLine (userUuid : String) (lineId : ℤ)
  | userMissingMainLine (userUuid : String)
  | wazoConfdUnreachable
  deriving DecidableEq, Repr

/-- The music on hold of a switchboard of confd. -/
structure SwitchboardJson where
  queueMusicOnHold : Option String
  waitingRoomMusicOnHold : Option String
  deriving DecidableEq, Repr

structure UserJson where
  tenantUuid : String
  lines : List ℤ
  deriving DecidableEq, Repr

structure LineJson where
  protocol : String
  name : String
  deriving DecidableEq, Repr

structure BridgeJson where
  id : String
  bridgeType : String
  channels : List String
  deriving DecidableEq, Repr

structure ChannelJson where
  id : String
  caller : Ari.CallerId
  deriving DecidableEq, Repr

/-- The arguments of `channels.originate`; the caller id is what `assemble_caller_id` is
given. -/
structure Originate where
  endpoint : String
  app : String
  appArgs : List String
  callerId : Ari.CallerId
  originator : Option String
  variables_ : List (String × String)
  deriving DecidableEq, Repr

/-- `QueuedCall` and `HeldCall`. -/
structure Call where
  id : String
  callerIdName : String
  callerIdNumber : String
  deriving DecidableEq, Repr

/-- What `SwitchboardsNotifier` publishes. -/
inductive Notification where
  | queuedCalls (tenantUuid switchboardUuid : String) (calls : List Call)
  | queuedCallAnswered (tenantUuid switchboardUuid operatorCallId queuedCallId : String)
  | heldCalls (tenantUuid switchboardUuid : String) (calls : List Call)
  | heldCallAnswered (tenantUuid switchboardUuid operatorCallId heldCallId : String)
  deriving DecidableEq, Repr

inductive Request where
  | acquire
  | release
  | confdSwitchboard (tenantUuid uuid : String)
  | confdUser (uuid : String) (tenantUuid : Option String)
  | confdLine (id : ℤ) (tenantUuid : String)
  | bridgesGet (bridgeId : String)
  | bridgesList
  | bridgesCreate (type : String)
  | bridgesCreateWithId (type bridgeId : String)
  | startMoh (bridgeId : String) (mohClass : Option String)
  | addChannel (bridgeId channel : String)
  | removeChannel (bridgeId channel : String)
  | channelsGet (channelId : String)
  | getChannelVar (channelId variable_ : String)
  | setChannelVar (channelId variable_ value : String)
  | answer (channelId : String)
  | hangup (channelId : String)
  | originate (o : Originate)
  | continueInDialplan (channelId : String) (context extension priority : Option String)
  | publish (n : Notification)
  | callLater (delay : ℤ) (tenantUuid switchboardUuid callId : String)
  deriving DecidableEq, Repr

/-- What a request is answered with, when it does not raise. -/
@[reducible] def Request.Reply : Request → Type
  | .confdSwitchboard .. => SwitchboardJson
  | .confdUser .. => UserJson
  | .confdLine .. => LineJson
  | .bridgesGet _ | .bridgesCreate _ | .bridgesCreateWithId .. => BridgeJson
  | .bridgesList => List BridgeJson
  | .channelsGet _ => ChannelJson
  | .getChannelVar .. | .originate _ => String
  | _ => Unit

/-- A method of the service, or a handler of the plugin. -/
abbrev Code (α : Type) : Type := Interactive Request Request.Reply Exn α

/-- Ask for one thing. -/
abbrev send (r : Request) : Code r.Reply := request r

def Exn.isARINotFound : Exn → Bool
  | .raised .ariNotFound => true
  | _ => false

def Exn.isARIUnprocessable : Exn → Bool
  | .raised .ariUnprocessable => true
  | _ => false

def Exn.isNoSuchSwitchboard : Exn → Bool
  | .noSuchSwitchboard _ => true
  | _ => false

/-! ## Confd -/

/-- `except HTTPError as e: if not_found(e): raise missing; raise` and then
`except RequestException`. -/
def confdError (missing : Option Exn) : Exn → Exn
  | .raised (.httpError (some 404)) => missing.getD (.raised (.httpError (some 404)))
  | .raised .requestException => .wazoConfdUnreachable
  | e => e

/-- `Switchboard._get`. -/
def confdSwitchboardGet (tenantUuid uuid : String) : Code SwitchboardJson :=
  tryCatch (send (.confdSwitchboard tenantUuid uuid)) fun e =>
    throw (confdError (some (.noSuchSwitchboard uuid)) e)

/-- `Switchboard.exists`. -/
def confdSwitchboardExists (tenantUuid uuid : String) : Code Bool := do
  let found ← catching Exn.isNoSuchSwitchboard (confdSwitchboardGet tenantUuid uuid)
  pure found.isSome

/-- `users.get`, as every method of `User` calls it. -/
def userGet (uuid : String) (tenantUuid : Option String) : Code UserJson :=
  tryCatch (send (.confdUser uuid tenantUuid)) fun e =>
    throw (confdError (some (.invalidUserUUID uuid)) e)

/-- `User.tenant_uuid`: an empty one is asked of confd. -/
def userTenantUuid (uuid tenantUuid : String) : Code String :=
  if tenantUuid ≠ "" then pure tenantUuid
  else do
    let user ← userGet uuid none
    pure user.tenantUuid

/-- `User.main_line` and `User.line`: the line to call, and its tenant. -/
def userLine (uuid tenantUuid : String) (lineId : Option ℤ) : Code (ℤ × String) := do
  let tenantUuid ← userTenantUuid uuid tenantUuid
  let user ← userGet uuid (some tenantUuid)
  match lineId with
  | some lineId =>
    if lineId ∈ user.lines then pure (lineId, tenantUuid)
    else throw (.invalidUserLine uuid lineId)
  | none =>
    match user.lines with
    | mainLineId :: _ => pure (mainLineId, tenantUuid)
    | [] => throw (.userMissingMainLine uuid)

/-- `str.replace('sip', 'pjsip')`. -/
def replaceSip : List Char → List Char
  | 's' :: 'i' :: 'p' :: rest => "pjsip".toList ++ replaceSip rest
  | c :: rest => c :: replaceSip rest
  | [] => []

/-- `Line.interface`. -/
def LineJson.interface (line : LineJson) : String :=
  String.ofList (replaceSip line.protocol.toList) ++ "/" ++ line.name

/-- `Line.interface_autoanswer`. -/
def lineInterfaceAutoanswer (id : ℤ) (tenantUuid : String) : Code String := do
  let line ← tryCatch (send (.confdLine id tenantUuid)) fun e => throw (confdError none e)
  if "sccp/".toList.isPrefixOf line.interface.toList then
    pure (line.interface ++ "/autoanswer")
  else pure line.interface

/-- The interface of the operator; `if line_id` takes 0 for no line. -/
def operatorEndpoint (tenantUuid userUuid : String) (lineId : Option ℤ) : Code String :=
  tryCatch
    (do
      let (id, lineTenantUuid) ← userLine userUuid tenantUuid (lineId.filter (· ≠ 0))
      lineInterfaceAutoanswer id lineTenantUuid)
    fun
    | .invalidUserUUID uuid => throw (.noSuchConfdUser uuid)
    | e => throw e

/-! ## Bridges and channels -/

/-- `BRIDGE_QUEUE_ID`. -/
def bridgeQueueId (uuid : String) : String := "switchboard-" ++ uuid ++ "-queue"

/-- `BRIDGE_HOLD_ID`. -/
def bridgeHoldId (uuid : String) : String := "switchboard-" ++ uuid ++ "-hold"

/-- `queued_call_ids` and `held_call_ids`: the channels of a bridge, none when there is no
such bridge. -/
def bridgeCallIds (bridgeId : String) : Code (List String) := do
  match ← catching Exn.isARINotFound (send (.bridgesGet bridgeId)) with
  | none => pure []
  | some bridge => pure bridge.channels

/-- `has_queued_call` and `has_held_call`. -/
def hasCall (bridgeId callId : String) : Code Bool := do
  let callIds ← bridgeCallIds bridgeId
  pure (callId ∈ callIds)

/-- The calls of the channels that ARI still knows; `idOf` is the id that a call is given. -/
def readCalls (idOf : String → ChannelJson → String) : List String → Code (List Call)
  | [] => pure []
  | callId :: rest => do
    match ← catching Exn.isARINotFound (send (.channelsGet callId)) with
    | none => readCalls idOf rest
    | some channel => do
      let calls ← readCalls idOf rest
      pure (⟨idOf callId channel, channel.caller.name, channel.caller.number⟩ :: calls)

/-- The calls in a bridge of a switchboard. -/
def callsOf (idOf : String → ChannelJson → String)
    (bridgeId tenantUuid switchboardUuid : String) : Code (List Call) := do
  if ← confdSwitchboardExists tenantUuid switchboardUuid then
    let callIds ← bridgeCallIds bridgeId
    readCalls idOf callIds
  else throw (.noSuchSwitchboard switchboardUuid)

/-- `queued_calls`. -/
def queuedCalls (tenantUuid switchboardUuid : String) : Code (List Call) :=
  callsOf (fun callId _ => callId) (bridgeQueueId switchboardUuid) tenantUuid switchboardUuid

/-- `held_calls`. -/
def heldCalls (tenantUuid switchboardUuid : String) : Code (List Call) :=
  callsOf (fun _ channel => channel.id) (bridgeHoldId switchboardUuid) tenantUuid switchboardUuid

def notifyQueuedCalls (tenantUuid switchboardUuid : String) : Code Unit := do
  let calls ← queuedCalls tenantUuid switchboardUuid
  send (.publish (.queuedCalls tenantUuid switchboardUuid calls))

def notifyHeldCalls (tenantUuid switchboardUuid : String) : Code Unit := do
  let calls ← heldCalls tenantUuid switchboardUuid
  send (.publish (.heldCalls tenantUuid switchboardUuid calls))

/-- The holding bridge of an id, which is created on demand. -/
def holdingBridge (bridgeId : String) : Code BridgeJson := do
  match ← catching Exn.isARINotFound (send (.bridgesGet bridgeId)) with
  | some bridge => pure bridge
  | none => send (.bridgesCreateWithId "holding" bridgeId)

/-- An empty bridge starts its music; an empty class is no class. -/
def startMohWhenEmpty (bridge : BridgeJson) (mohClass : Code (Option String)) : Code Unit :=
  if bridge.channels.length = 0 then do
    let moh ← mohClass
    send (.startMoh bridge.id (moh.filter (· ≠ "")))
  else pure ()

/-- A channel variable, `none` when ARI does not find it. -/
def channelVar (channelId variable_ : String) : Code (Option String) :=
  catching Exn.isARINotFound (send (.getChannelVar channelId variable_))

/-- `Channel.switchboard_timeout`. -/
def switchboardTimeout (channelId : String) : Code (Option ℤ) := do
  let timeout ← channelVar channelId "WAZO_SWITCHBOARD_TIMEOUT"
  pure ((timeout.filter (· ≠ "")).bind Ari.int)

/-! ## Queueing -/

/-- `new_queued_call`, up to the notification: the call is in the queue. -/
def enqueue (tenantUuid switchboardUuid channelId : String) : Code Unit := do
  let bridge ← holdingBridge (bridgeQueueId switchboardUuid)
  startMohWhenEmpty bridge do
    let switchboard ← confdSwitchboardGet tenantUuid switchboardUuid
    pure switchboard.queueMusicOnHold
  let _ ← send (.channelsGet channelId)
  send (.setChannelVar channelId "WAZO_SWITCHBOARD_QUEUE" switchboardUuid)
  send (.setChannelVar channelId "WAZO_TENANT_UUID" tenantUuid)
  send (.answer channelId)
  send (.addChannel bridge.id channelId)

/-- The end of `new_queued_call`: a timeout and a fallback arm the timer. -/
def armNoanswer (tenantUuid switchboardUuid channelId : String) : Code Unit := do
  match (← switchboardTimeout channelId).filter (· ≠ 0) with
  | none => pure ()
  | some noanswerTimeout => do
    let action ← channelVar channelId "WAZO_SWITCHBOARD_FALLBACK_NOANSWER_ACTION"
    match action.filter (· ≠ "") with
    | none => pure ()
    | some _ =>
      send (.callLater noanswerTimeout tenantUuid switchboardUuid channelId)

/-- `new_queued_call`. -/
def newQueuedCall (tenantUuid switchboardUuid channelId : String) : Code Unit := do
  enqueue tenantUuid switchboardUuid channelId
  notifyQueuedCalls tenantUuid switchboardUuid
  armNoanswer tenantUuid switchboardUuid channelId

/-- `on_queued_call_noanswer_timeout`, which logs what the redirect raises. -/
def onQueuedCallNoanswerTimeout (switchboardUuid callId : String) : Code Unit := do
  if ← hasCall (bridgeQueueId switchboardUuid) callId then
    ignoring (fun _ => true)
      (send (.continueInDialplan callId (some "switchboard") (some "noanswer") (some "1")))
  else pure ()

/-! ## Answering and holding -/

/-- `with self._switchboards_lock.acquired(..)`. -/
def locked {α : Type} (body : Code α) : Code α := do
  send .acquire
  ensuring body (send .release)

/-- `AUTO_ANSWER_VARIABLES`. -/
def autoAnswerVariables : List (String × String) :=
  [("PJSIP_HEADER(add,Alert-Info)",
      "<http://wazo.community>;info=alert-autoanswer;delay=0;xivo-autoanswer"),
    ("PJSIP_HEADER(add,Answer-After)", "0"),
    ("PJSIP_HEADER(add,Answer-Mode)", "Auto"),
    ("PJSIP_HEADER(add,Call-Info)", ";answer-after=0"),
    ("PJSIP_HEADER(add,P-Auto-answer)", "normal")]

/-- The channel of the operator, for the call of an id. -/
def originateOperator (action tenantUuid switchboardUuid callId endpoint : String)
    (caller : Ari.CallerId) (originator : Option String) : Code String :=
  send (.originate {
    endpoint := endpoint
    app := "callcontrol"
    appArgs := ["switchboard", action, tenantUuid, switchboardUuid, callId]
    callerId := caller
    originator := originator
    variables_ := autoAnswerVariables })

/-- `channels.get`, for which a channel that is gone is no such call. -/
def callChannel (callId : String) : Code ChannelJson := do
  match ← catching Exn.isARINotFound (send (.channelsGet callId)) with
  | none => throw (.noSuchCall callId)
  | some channel => pure channel

/-- `answer_queued_call` from the test on: the operator of a call that is queued. -/
def offerQueuedCall (tenantUuid switchboardUuid queuedCallId userUuid : String)
    (lineId : Option ℤ) : Code String := do
  let queuedChannel ← callChannel queuedCallId
  let endpoint ← operatorEndpoint tenantUuid userUuid lineId
  originateOperator "switchboard_answer" tenantUuid switchboardUuid queuedCallId endpoint
    queuedChannel.caller (some queuedCallId)

/-- The call leaves the queue. -/
def leaveQueue (switchboardUuid queuedCallId : String) : Code Unit :=
  ignoring (fun e => e.isARINotFound || e.isARIUnprocessable) do
    let bridge ← send (.bridgesGet (bridgeQueueId switchboardUuid))
    send (.removeChannel bridge.id queuedCallId)

/-- `answer_queued_call`. -/
def answerQueuedCall (tenantUuid switchboardUuid queuedCallId userUuid : String)
    (lineId : Option ℤ) : Code String :=
  locked do
    if ← confdSwitchboardExists tenantUuid switchboardUuid then
      if ← hasCall (bridgeQueueId switchboardUuid) queuedCallId then
        let channelId ← offerQueuedCall tenantUuid switchboardUuid queuedCallId userUuid lineId
        leaveQueue switchboardUuid queuedCallId
        pure channelId
      else throw (.noSuchCall queuedCallId)
    else throw (.noSuchSwitchboard switchboardUuid)

/-- The bridges that a call was in before it was held: who is alone in a mixing bridge is
hung up. -/
def emptyBridges : List BridgeJson → Code Unit
  | [] => pure ()
  | previousBridge :: rest => do
    match ← catching Exn.isARINotFound (send (.bridgesGet previousBridge.id)) with
    | none => emptyBridges rest
    | some bridge => do
      if bridge.bridgeType = "mixing" ∧ bridge.channels.length ≤ 1 then
        bridge.channels.forM fun loneChannelId =>
          ignoring Exn.isARINotFound (send (.hangup loneChannelId))
      emptyBridges rest

/-- `hold_call` once the call is known not to be held in the switchboard. -/
def holdChannel (tenantUuid switchboardUuid : String) (channelToHold : ChannelJson)
    (previousBridges : List BridgeJson) : Code Unit := do
  let holdBridge ← holdingBridge (bridgeHoldId switchboardUuid)
  startMohWhenEmpty holdBridge do
    let switchboard ← confdSwitchboardGet tenantUuid switchboardUuid
    pure switchboard.waitingRoomMusicOnHold
  send (.addChannel holdBridge.id channelToHold.id)
  send (.setChannelVar channelToHold.id "WAZO_SWITCHBOARD_HOLD" switchboardUuid)
  send (.setChannelVar channelToHold.id "WAZO_TENANT_UUID" tenantUuid)
  notifyHeldCalls tenantUuid switchboardUuid
  emptyBridges previousBridges

/-- `hold_call`. -/
def holdCall (tenantUuid switchboardUuid callId : String) : Code Unit :=
  locked do
    if ← confdSwitchboardExists tenantUuid switchboardUuid then
      if ← hasCall (bridgeHoldId switchboardUuid) callId then throw (.noSuchCall callId)
      else
        let channelToHold ← callChannel callId
        let bridges ← send .bridgesList
        let previousBridges := bridges.filter (channelToHold.id ∈ ·.channels)
        if bridgeHoldId switchboardUuid ∈ previousBridges.map (·.id) then pure ()
        else holdChannel tenantUuid switchboardUuid channelToHold previousBridges
    else throw (.noSuchSwitchboard switchboardUuid)

/-- `answer_held_call`. -/
def answerHeldCall (tenantUuid switchboardUuid heldCallId userUuid : String)
    (lineId : Option ℤ) : Code String :=
  locked do
    if ← confdSwitchboardExists tenantUuid switchboardUuid then
      if ← hasCall (bridgeHoldId switchboardUuid) heldCallId then
        let heldChannel ← callChannel heldCallId
        let endpoint ← operatorEndpoint tenantUuid userUuid lineId
        let channelId ← originateOperator "switchboard_unhold" tenantUuid switchboardUuid
          heldCallId endpoint heldChannel.caller none
        ignoring Exn.isARINotFound do
          let bridge ← send (.bridgesGet (bridgeHoldId switchboardUuid))
          send (.removeChannel bridge.id heldCallId)
        pure channelId
      else throw (.noSuchCall heldCallId)
    else throw (.noSuchSwitchboard switchboardUuid)

/-! ## Events -/

/-- `StasisStart`: the channel, the arguments, and the variables of a channel that it
replaces. -/
structure StasisStart where
  channelId : String
  args : List String
  replaced : Option (String → Option String)

/-- `if value: code`. -/
def whenGiven (value : String) (code : Code Unit) : Code Unit :=
  if value ≠ "" then code else pure ()

/-- `_stasis_start_replace`, once a switchboard is known. -/
def stasisStartReplaceQueue (channelId tenantUuid queueUuid holdUuid : String) : Code Unit := do
  whenGiven tenantUuid (send (.setChannelVar channelId "WAZO_TENANT_UUID" tenantUuid))
  whenGiven queueUuid do
    send (.setChannelVar channelId "WAZO_SWITCHBOARD_QUEUE" queueUuid)
    notifyQueuedCalls tenantUuid queueUuid
  whenGiven holdUuid do
    send (.setChannelVar channelId "WAZO_SWITCHBOARD_HOLD" holdUuid)
    notifyHeldCalls tenantUuid holdUuid

/-- `_stasis_start_replace`. -/
def stasisStartReplace (event : StasisStart) : Code Unit :=
  match event.replaced with
  | none => pure ()
  | some channelvars =>
    let tenantUuid := (channelvars "WAZO_TENANT_UUID").getD ""
    let queueUuid := (channelvars "WAZO_SWITCHBOARD_QUEUE").getD ""
    let holdUuid := (channelvars "WAZO_SWITCHBOARD_HOLD").getD ""
    if queueUuid = "" ∧ holdUuid = "" then pure ()
    else ignoring (fun e => e.isARINotFound || e.isNoSuchSwitchboard)
      (stasisStartReplaceQueue event.channelId tenantUuid queueUuid holdUuid)

/-- `_stasis_start_answer` and `_stasis_start_answer_held`: the operator has picked up. -/
def stasisStartAnswer (answered : String → Notification) (operatorChannelId callId : String) :
    Code Unit := do
  match ← catching Exn.isARINotFound (send (.channelsGet callId)) with
  | none => send (.hangup operatorChannelId)
  | some _ => do
    send (.answer operatorChannelId)
    ignoring Exn.isARINotFound do
      let callerId ← send (.getChannelVar operatorChannelId "XIVO_ORIGINAL_CALLER_ID")
      send (.setChannelVar operatorChannelId "CALLERID(all)" callerId)
    let bridge ← send (.bridgesCreate "mixing")
    send (.addChannel bridge.id callId)
    send (.addChannel bridge.id operatorChannelId)
    send (.publish (answered operatorChannelId))

/-- `stasis_start` of the sub-application `switchboard`; a missing argument is ignored. -/
def stasisStartSwitchboard (event : StasisStart) : Code Unit :=
  match event.args with
  | _ :: "switchboard_queue" :: tenantUuid :: switchboardUuid :: _ =>
    newQueuedCall tenantUuid switchboardUuid event.channelId
  | _ :: "switchboard_answer" :: tenantUuid :: switchboardUuid :: callId :: _ =>
    stasisStartAnswer
      (fun operator => .queuedCallAnswered tenantUuid switchboardUuid operator callId)
      event.channelId callId
  | _ :: "switchboard_unhold" :: tenantUuid :: switchboardUuid :: callId :: _ =>
    stasisStartAnswer
      (fun operator => .heldCallAnswered tenantUuid switchboardUuid operator callId)
      event.channelId callId
  | _ => pure ()

/-- `stasis_start`: whatever goes wrong, the channel goes on in the dialplan. -/
def stasisStart (event : StasisStart) : Code Unit :=
  match event.args with
  | [] => stasisStartReplace event
  | subApp :: _ =>
    if subApp ≠ "switchboard" then pure ()
    else tryCatch (stasisStartSwitchboard event) fun _ =>
      send (.continueInDialplan event.channelId none none none)

/-- `unqueue` and `unhold`: a channel has left a bridge. -/
def notifyLeft (notify : String → String → Code Unit) (tenantUuid switchboardUuid : String) :
    Code Unit :=
  ignoring Exn.isNoSuchSwitchboard (notify tenantUuid switchboardUuid)

end Calld.Switchboards
