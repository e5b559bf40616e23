/-
# Helpers over ARI and wazo-amid

The parts of `plugin_helpers` (channels, AMI actions, recording announcements) and of
`transfers/ari_helpers.py` that the transfers plugin uses, and
`TransfersService.originate_recipient`, which the states call.
-/
import Calld.Transfers.Storage

namespace Calld.Transfers

open Effect.Program

/-- An operation on a channel that only acts on the channel. -/
def channelsDo (action : ChannelAction) (c : ChannelId) : Code Unit := ari (.channelsDo action c)

/-! ## AMI actions (`plugin_helpers/ami.py`) -/

namespace Ami

/-- `except RequestException as e: raise WazoAmidError(amid, e)`. -/
def request (r : AmiRequest) : Code r.Reply := ami r fun _ => .wazoAmidError

def unsetVariableAmi (c : ChannelId) (name : String) : Code Unit := request (.setvar c name "")

/-- How `extension_exists` sees a failure: `AmidProtocolError` is caught first. -/
def showDialplanError : AmiError → Exn
  | .protocolError => .amidProtocolError
  | .requestException => .wazoAmidError

def extensionExists (context exten : String) : Code Bool := do
  match ← catching Exn.isAmidProtocolError (ami (.showDialplan context exten) showDialplanError) with
  | none => return false
  | some response =>
    return "1" ∈ (response.filter fun e => e.event = "ListDialplan").map DialplanEvent.priority

def mohClassExists (mohClass : String) : Code Bool := do
  let classes ← request .mohShowClasses
  return mohClass ∈ classes

def redirect (c : ChannelId) (context exten : String) (extraChannel : ChannelId) : Code Unit :=
  request (.redirect c context exten extraChannel)

def playBeep (c : ChannelId) (beep : String) : Code Unit := request (.playBeep c beep)

end Ami

/-! ## Channels (`plugin_helpers/ari_.py`) -/

namespace Channel

def getVar (c : ChannelId) (name : String) : Code String := ari (.channelsGetVar c name)

/-- `Channel(channel_id, ari).exists()`; the id may be `None`. -/
def «exists» (c : Option ChannelId) : Code Bool := do
  return (← catching Exn.isARINotFound (ari (.channelsGet c))).isSome

def isLocal (c : ChannelId) : Code Bool := do
  match ← catching Exn.isARINotFound (ari (.channelsGet (some c))) with
  | none => return false
  | some channel => return "Local/".toList.isPrefixOf channel.name.toList

def user (c : ChannelId) : Code (Option UserUuid) := do
  if ← isLocal c then
    catching Exn.isARINotFound (getVar c "WAZO_DEREFERENCED_USERUUID")
  else
    catching Exn.isARINotFound (getVar c "WAZO_USERUUID")

def tenantUuid (c : ChannelId) : Code (Option TenantUuid) :=
  catching Exn.isARINotFound (getVar c "WAZO_TENANT_UUID")

def isInStasis (c : ChannelId) : Code Bool := do
  return (← catching Exn.isARINotInStasis (ari (.channelsSetVar c "WAZO_TEST_STASIS" ""))).isSome

def bridge (c : ChannelId) : Code BridgeJson := do
  match (← ari .bridgesList).find? (c ∈ ·.channels) with
  | some b => return b
  | none => throw .bridgeNotFound

def connectedChannels (c : ChannelId) : Code (List ChannelId) := do
  let bridges ← ari .bridgesList
  return (((bridges.filter (c ∈ ·.channels)).flatMap BridgeJson.channels).dedup).erase c

def onlyConnectedChannel (c : ChannelId) : Code ChannelId := do
  match ← connectedChannels c with
  | [] => throw .notEnoughChannels
  | [connected] => return connected
  | connected => throw (.tooManyChannels connected)

end Channel

/-! ## Recording announcements (`plugin_helpers/recording.py`) -/

namespace Recording

def playRecordStartAnnouncement (c : ChannelId) : Code Unit := do
  let announcement ← catching Exn.isARINotFound (Channel.getVar c "WAZO_RECORDING_START_SOUND")
  Ami.playBeep c ((announcement.filter (· ≠ "")).getD "beep")

/-- One turn of the loop of `announce_active_recordings`. -/
def announceActiveRecording (c : ChannelId) : Code Unit := do
  match ← catching Exn.isARINotFound (ari (.channelsGet (some c))) with
  | none => pure ()
  | some channel =>
    if channel.channelvars.get? "WAZO_CALL_RECORD_ACTIVE" = some "1" then
      playRecordStartAnnouncement c

def announceActiveRecordings (cs : List (Option ChannelId)) : Code Unit :=
  (cs.filterMap id).forM announceActiveRecording

end Recording

/-! ## `transfers/ari_helpers.py` -/

namespace AriHelpers

def holdTransferredCall (transferredCall : ChannelId) : Code Unit := do
  channelsDo .muteIn transferredCall
  channelsDo .hold transferredCall
  let mohClassExists ← catching Exn.isWazoAmidError (Ami.mohClassExists "default")
  if mohClassExists.getD false then
    channelsDo (.startMoh "default") transferredCall
  else
    channelsDo .startSilence transferredCall

def unholdTransferredCall (transferredCall : ChannelId) : Code Unit := do
  channelsDo .unmuteIn transferredCall
  channelsDo .unhold transferredCall
  channelsDo .stopMoh transferredCall
  channelsDo .stopSilence transferredCall

def unringInitiatorCall (initiatorCall : ChannelId) : Code Unit := do
  channelsDo .stopMoh initiatorCall
  channelsDo .ringStop initiatorCall

def unsetVariable (c : ChannelId) (name : String) : Code Unit :=
  tryCatch (ari (.channelsSetVar c name "")) fun e =>
    if e.isARINotFound then pure ()
    else if e.isARINotInStasis then Ami.unsetVariableAmi c name
    else throw e

def updateConnectedline (c fromChannel : ChannelId) : Code Unit := do
  let channel ← ari (.channelsGet (some fromChannel))
  ari (.channelsSetVar c "CONNECTEDLINE(name)" channel.callerName)
  ari (.channelsSetVar c "CONNECTEDLINE(num)" channel.callerNumber)

/-- The dictionary kept in the variable of a bridge; empty when ARI does not find it. -/
def readBridgeVariables (b : BridgeId) : Code (Dict String) := do
  match ← catching Exn.isARINotFound (ari (.getGlobalVar (.bridge b))) with
  | some _ => look fun s => s.asterisk.bridgeVariables b
  | none => return []

def setBridgeVariable (b : BridgeId) (name value : String) : Code Unit := do
  let cache ← readBridgeVariables b
  ari (.setGlobalVar (.setBridgeVariables b (cache.set name value)))

def getBridgeVariable (b : BridgeId) (name : String) : Code String := do
  match (← readBridgeVariables b).get? name with
  | some value => return value
  | none => throw (.ari .notFound)

/-- What `start` and `_start_attended` are given. -/
structure StartArgs where
  context : String
  exten : String
  vars : Decoded
  timeout : Option ℤ

/-- Python's `str` of the timeout. -/
def timeoutStr : Option ℤ → String
  | none => "None"
  | some n => toString n

/-- `json.dumps(variables) if variables else '{}'`. -/
def dumpVariables (env : Env) : Decoded → String
  | .object [] => "{}"
  | vars => env.dumps vars

/-- The variables that `convert_transfer_to_stasis` sets. -/
def transferVariables (transferredCall initiatorCall : ChannelId) (context exten : String)
    (transferId : TransferId) (channelVariables timeout : String) :
    List (ChannelId × String × String) :=
  [(transferredCall, "XIVO_TRANSFER_ROLE", "transferred"),
    (transferredCall, "XIVO_TRANSFER_ID", transferId),
    (transferredCall, "XIVO_TRANSFER_RECIPIENT_CONTEXT", context),
    (transferredCall, "XIVO_TRANSFER_RECIPIENT_EXTEN", exten),
    (initiatorCall, "XIVO_TRANSFER_ROLE", "initiator"),
    (initiatorCall, "XIVO_TRANSFER_ID", transferId),
    (initiatorCall, "XIVO_TRANSFER_RECIPIENT_CONTEXT", context),
    (initiatorCall, "XIVO_TRANSFER_RECIPIENT_EXTEN", exten),
    (initiatorCall, "XIVO_TRANSFER_VARIABLES", channelVariables),
    (initiatorCall, "XIVO_TRANSFER_TIMEOUT", timeout)]

def convertTransferToStasis (transferredCall initiatorCall : ChannelId) (context exten : String)
    (transferId : TransferId) (vars : Decoded) (timeout : Option ℤ) : Code Unit := do
  let channelVariables ← ask fun env => dumpVariables env vars
  (transferVariables transferredCall initiatorCall context exten transferId channelVariables
    (timeoutStr timeout)).forM fun (c, name, value) => ari (.channelsSetVar c name value)
  Ami.redirect transferredCall "convert_to_stasis" "transfer" initiatorCall

/-- `get_initial_transfer_variables`.  When ARI does not find the initiator, the source
logs it and then reads a local variable that has not been assigned. -/
def getInitialTransferVariables (initiatorCall : ChannelId) : Code StartArgs := do
  let read ← catching Exn.isARINotFound do
    let context ← Channel.getVar initiatorCall "XIVO_TRANSFER_RECIPIENT_CONTEXT"
    let exten ← Channel.getVar initiatorCall "XIVO_TRANSFER_RECIPIENT_EXTEN"
    let variablesStr ← Channel.getVar initiatorCall "XIVO_TRANSFER_VARIABLES"
    let timeoutStr ← Channel.getVar initiatorCall "XIVO_TRANSFER_TIMEOUT"
    return (context, exten, variablesStr, timeoutStr)
  match read with
  | none => throw .unboundLocalError
  | some (context, exten, variablesStr, timeoutStr) =>
    let loaded ← ask fun env => env.loads variablesStr
    let vars := loaded.getD (.object [])
    if timeoutStr = "None" then
      return ⟨context, exten, vars, none⟩
    else
      match timeoutStr.toInt? with
      | some timeout => return ⟨context, exten, vars, some timeout⟩
      | none => throw .valueError

end AriHelpers

/-! ## `TransfersService.originate_recipient` -/

open AriHelpers (StartArgs)

/-- `dict(variables)`. -/
def Decoded.toDict : Decoded → Code Variables
  | .object vars => pure vars
  | .other => throw .typeError

def originateRecipient (initiatorCall : ChannelId) (args : StartArgs) (transferId : TransferId) :
    Code ChannelId := do
  let initiatorChannel ← ari (.channelsGet (some initiatorCall))
  let vars ← Decoded.toDict args.vars
  let vars := vars.set "XIVO_TRANSFER_ROLE" (.str "recipient")
  let vars := vars.set "XIVO_TRANSFER_ID" (.str transferId)
  let language ← Channel.getVar initiatorCall "CHANNEL(language)"
  let vars := vars.set "CHANNEL(language)" (.str language)
  let userId ← catching Exn.isARINotFound (Channel.getVar initiatorCall "WAZO_USERID")
  let vars := userId.elim vars fun v =>
    (vars.set "XIVO_USERID" (.str v)).set "WAZO_USERID" (.str v)
  let userUuid ← catching Exn.isARINotFound (Channel.getVar initiatorCall "WAZO_USERUUID")
  let vars := userUuid.elim vars fun v =>
    (vars.set "WAZO_USERUUID" (.str v)).set "XIVO_USERUUID" (.str v)
  let recipientCall ← ari (.channelsOriginate {
    endpoint := "Local/" ++ args.exten ++ "@" ++ args.context
    appArgs := ["transfer", "transfer_recipient_called", transferId]
    callerName := initiatorChannel.callerName
    callerNumber := initiatorChannel.callerNumber
    vars := vars
    timeout := args.timeout.getD (-1)
    originator := initiatorCall })
  record (.originated transferId recipientCall)
  return recipientCall

end Calld.Transfers
