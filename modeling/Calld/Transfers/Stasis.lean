/-
# The stasis handlers

`stasis.py`: what happens on the events that Asterisk sends, and the recovery when the
stasis application is registered again.
-/
import Calld.Transfers.Services

namespace Calld.Transfers

open Effect.Program

namespace TransfersStasis

/-- The exceptions that `invalid_event` logs instead of raising them again. -/
def isHandled (e : Exn) : Bool :=
  e = .invalidEvent || e.isWazoAmidError || e.isTransferException

/-- `Pubsub.publish` with `invalid_event` as exception handler. -/
def publish (callback : Code Unit) : Code Unit := ignoring isHandled callback

/-- `transfer.role(channel.id)`. -/
def roleOf (t : Transfer) (c : ChannelId) : Code Role :=
  match t.role c with
  | some role => pure role
  | none => throw .keyError

/-- The transfer id in the arguments of a stasis application. -/
def transferIdOf (args : List String) : Code TransferId :=
  match args[2]? with
  | some id => pure id
  | none => throw .invalidEvent

/-! ## Hangups -/

/-- The transition for the hangup of a channel with the given role. -/
def hangupTransition : Role → Transition
  | .transferred => .transferredHangup
  | .initiator => .initiatorHangup
  | .recipient => .recipientHangup

/-- `recipient_hangup`, `initiator_hangup` and `transferred_hangup`. -/
def partyHangup (role : Role) (t : Transfer) : Code Unit :=
  StateFactory.make t.id fun state => do
    let _ ← call (hangupTransition role) state

/-- `hangup`, on `ChannelDestroyed` and on `StasisEnd`. -/
def hangup (c : ChannelId) : Code Unit := do
  match ← catching Exn.isKeyError (StatePersistor.getByChannel c) with
  | none => pure ()
  | some t =>
    let role ← roleOf t c
    publish (partyHangup role t)

/-! ## Channels entering the stasis application -/

def transferRecipientAnswered (c : ChannelId) (args : List String) : Code Unit := do
  let transferId ← transferIdOf args
  match ← catching Exn.isKeyError (StateFactory.make transferId fun state => do
    let _ ← call .recipientAnswer state) with
  | some _ => pure ()
  | none => channelsDo .hangup c

/-- The transition for a channel with the given role that joined stasis. -/
def joinTransition : Role → Option Transition
  | .initiator => some .initiatorJoinedStasis
  | .transferred => some .transferredJoinedStasis
  | .recipient => none

/-- The locked part of `create_transfer`.  For a recipient, `new_state` is not assigned. -/
def joined (role : Role) (state : Transfer) : Code Unit := do
  match joinTransition role with
  | none => throw .unboundLocalError
  | some tr =>
    let newState ← call tr state
    if newState.flow = .blind then
      let _ ← call .complete newState

def createTransfer (c : ChannelId) (args : List String) : Code Unit := do
  let transferId ← transferIdOf args
  match ← catching Exn.isKeyError (StatePersistor.get transferId) with
  | none => channelsDo .hangup c
  | some t =>
    let role ← roleOf t c
    StateFactory.make t.id (joined role)

def stasisStart (c : ChannelId) (args : List String) : Code Unit :=
  match args with
  | "transfer" :: "transfer_recipient_called" :: _ => publish (transferRecipientAnswered c args)
  | "transfer" :: "create_transfer" :: _ => publish (createTransfer c args)
  | _ => pure ()

/-! ## Music on hold, bridges, caller ids -/

def mohStop (c : ChannelId) : Code Unit := do
  match ← catching Exn.isKeyError (StatePersistor.getByChannel c) with
  | none => pure ()
  | some t =>
    if (← roleOf t c) = .transferred then
      StateFactory.make t.id fun state => do
        let _ ← call .transferredMohStop state

/-- The transfer that still uses the bridge. -/
def transferOfBridge (b : BridgeId) : Code (Option Transfer) := do
  match ← catching Exn.isARINotFound (AriHelpers.getBridgeVariable b "WAZO_TRANSFER_ID") with
  | none => return none
  | some transferId =>
    if transferId = "" then
      return none
    else
      catching Exn.isKeyError (StatePersistor.get transferId)

/-- Empty and destroy a bridge with a lone channel. -/
def emptyBridge (bridge : BridgeJson) : Code Unit := do
  match bridge.channels with
  | [loneChannelId] =>
    ignoring Exn.isARINotFound (channelsDo .hangup loneChannelId)
    ignoring (fun e => e.isARINotInStasis || e.isARINotFound) (ari (.bridgesDestroy bridge.id))
  | _ => pure ()

/-- `clean_bridge`, on `ChannelLeftBridge`. -/
def cleanBridge (application : String) (b : BridgeId) : Code Unit := do
  if application = "callcontrol" then
    match ← catching Exn.isARINotFound (ari (.bridgesGet b)) with
    | none => pure ()
    | some bridge =>
      if bridge.bridgeType = "mixing" then
        match ← transferOfBridge bridge.id with
        | some _ => pure ()
        | none => emptyBridge bridge

/-- `clean_bridge_variables`, on `BridgeDestroyed`. -/
def cleanBridgeVariables (b : BridgeId) : Code Unit :=
  ari (.setGlobalVar (.unsetBridgeVariables b))

/-- `update_transfer_caller_id`, on `ChannelCallerId`. -/
def updateTransferCallerId (c : ChannelId) : Code Unit := do
  match ← catching Exn.isKeyError (StatePersistor.getByChannel c) with
  | none => pure ()
  | some t =>
    if (← roleOf t c) = .recipient then
      match ← catching Exn.isARINotFound (AriHelpers.updateConnectedline t.initiatorCall c) with
      | some _ => pure ()
      | none =>
        ignoring Exn.isARINotFound (AriHelpers.updateConnectedline t.transferredCall c)

/-! ## Recovery -/

/-- One test of `process_lost_hangups`: the transition, if the channel is gone. -/
def lostHangup (c : Option ChannelId) (tr : Transition) (state : Transfer) : Code Transfer := do
  if ← Channel.exists c then
    return state
  else
    call tr state

/-- One turn of the loop of `process_lost_hangups`. -/
def lostHangups (t : Transfer) : Code Unit :=
  StateFactory.make t.id fun state => do
    let state ← lostHangup (some t.transferredCall) .transferredHangup state
    let state ← lostHangup (some t.initiatorCall) .initiatorHangup state
    let _ ← lostHangup t.recipientCall .recipientHangup state

def processLostHangups : Code Unit := do
  let transfers ← StatePersistor.list
  transfers.forM lostHangups

/-- One turn of the loop of `process_answered_calls`. -/
def answeredCall (t : Transfer) : Code Unit :=
  StateFactory.make t.id fun state => do
    if state.status = .ringback then
      if ← Channel.exists t.recipientCall then
        let channel ← ari (.channelsGet t.recipientCall)
        if channel.state = "Up" then
          transferRecipientAnswered channel.id ["", "", t.id]

def processAnsweredCalls : Code Unit := do
  let transfers ← StatePersistor.list
  transfers.forM answeredCall

end TransfersStasis

end Calld.Transfers
