/-
# The state machine of a transfer

`state.py`: the helpers of `TransferState`, the thirteen state classes with their
transitions, the decorator `transition` and the factory.

A state object is its transfer: the class of the object is always the one that
`transfer.status` names.
-/
import Calld.Transfers.AriHelpers

namespace Calld.Transfers

open Effect.Program
open AriHelpers (StartArgs)

/-! ## The helpers of `TransferState` -/

/-- `try: p  except ARINotFound: raise e`. -/
def orRaise {α : Type} (p : Code α) (e : Exn) : Code α := do
  match ← catching Exn.isARINotFound p with
  | some a => return a
  | none => throw e

/-- `if call: try: hangup(call)  except ARINotFound: pass`. -/
def hangupCall (call : Option ChannelId) : Code Unit :=
  match call with
  | some c => ignoring Exn.isARINotFound (channelsDo .hangup c)
  | none => pure ()

namespace TransferState

/-- `TransferState.from_state`. -/
def fromState (name : Status) (t : Transfer) : Transfer := { t with status := name }

def holdTransferredCall (t : Transfer) : Code Unit :=
  ignoring Exn.isARINotFound (AriHelpers.holdTransferredCall t.transferredCall)

def unholdTransferredCall (t : Transfer) : Code Unit :=
  AriHelpers.unholdTransferredCall t.transferredCall

def getOrCreateTransferBridge (t : Transfer) : Code BridgeId := do
  match ← catching Exn.isARINotFound (ari (.bridgesGet t.transferBridgeId)) with
  | some bridge => return bridge.id
  | none =>
    ari (.bridgesCreate t.transferBridgeId)
    AriHelpers.setBridgeVariable t.transferBridgeId "WAZO_TRANSFER_ID" t.id
    return t.transferBridgeId

def moveToTransferBridge (t : Transfer) (c : ChannelId) : Code Unit := do
  let bridge ← getOrCreateTransferBridge t
  ari (.bridgesAddChannel bridge c)

def moveTransferredCallToTransferBridge (t : Transfer) : Code Unit :=
  moveToTransferBridge t t.transferredCall

def moveRecipientCallToTransferBridge (t : Transfer) : Code Unit :=
  match t.recipientCall with
  | some c => moveToTransferBridge t c
  | none => throw .assertionError

def moveInitiatorCallToTransferBridge (t : Transfer) : Code Unit :=
  moveToTransferBridge t t.initiatorCall

def announceRecordings (t : Transfer) : Code Unit :=
  Recording.announceActiveRecordings [some t.transferredCall, t.recipientCall]

/-- `_start_attended`: the transfer with its recipient. -/
def startAttended (t : Transfer) (args : StartArgs) : Code Transfer := do
  holdTransferredCall t
  ignoring Exn.isARINotFound (channelsDo .ring t.initiatorCall)
  let recipientCall ← catching Exn.isTransferCreationError
    (originateRecipient t.initiatorCall args t.id)
  let t := recipientCall.elim t fun c => { t with recipientCall := some c }
  notify .updated t
  return t

/-- `_set_initiator_variables` and `_set_transferred_variables`. -/
def setVariables (t : Transfer) (c : ChannelId) (role : String) : Code Unit := do
  ari (.channelsSetVar c "XIVO_TRANSFER_ROLE" role)
  ari (.channelsSetVar c "XIVO_TRANSFER_ID" t.id)

def setInitiatorVariables (t : Transfer) : Code Unit := setVariables t t.initiatorCall "initiator"

def setTransferredVariables (t : Transfer) : Code Unit :=
  setVariables t t.transferredCall "transferred"

/-- `_unset_initiator_variables` and its siblings. -/
def unsetVariables (c : ChannelId) : Code Unit := do
  AriHelpers.unsetVariable c "XIVO_TRANSFER_ID"
  AriHelpers.unsetVariable c "XIVO_TRANSFER_ROLE"

def unsetInitiatorVariables (t : Transfer) : Code Unit := unsetVariables t.initiatorCall

def unsetTransferredVariables (t : Transfer) : Code Unit := unsetVariables t.transferredCall

/-- A request about the channel `None` is one that the ARI client cannot send. -/
def unsetRecipientVariables (t : Transfer) : Code Unit :=
  match t.recipientCall with
  | some c => unsetVariables c
  | none => throw .typeError

def abandon (t : Transfer) : Code Unit := do
  hangupCall (some t.transferredCall)
  notify .abandoned t

def hangupAllTransferParticipants (t : Transfer) : Code Unit := do
  hangupCall t.recipientCall
  hangupCall (some t.initiatorCall)
  hangupCall (some t.transferredCall)

def cancelRebridgeChannels (t : Transfer) : Code Unit := do
  orRaise (AriHelpers.unringInitiatorCall t.initiatorCall)
    (.transferCancellationError t.id "initiator hung up")
  orRaise (do unholdTransferredCall t; moveTransferredCallToTransferBridge t)
    (.transferCancellationError t.id "transferred party hung up")
  orRaise (moveInitiatorCallToTransferBridge t)
    (.transferCancellationError t.id "initiator hung up")

/-- One of the two remaining channels has been hung up: hang up the last one. -/
def rebridgeOrHangup (t : Transfer) : Code Unit := do
  match ← catching Exn.isTransferCancellationError (cancelRebridgeChannels t) with
  | some _ => pure ()
  | none => hangupAllTransferParticipants t

/-- `_cancel`. -/
def cancelTransfer (t : Transfer) : Code Unit := do
  unsetTransferredVariables t
  unsetInitiatorVariables t
  hangupCall t.recipientCall
  rebridgeOrHangup t
  notify .cancelled t

/-- `transferred_moh_stop` where it is overridden: play silence instead. -/
def playSilence (t : Transfer) : Code Transfer := do
  ignoring Exn.isARINotFound (channelsDo .startSilence t.transferredCall)
  return t

/-- The transitions that a class does not override. -/
def notImplemented (t : Transfer) : Code Transfer := throw (.notImplementedError t.status)

end TransferState

open TransferState

/-! ## Entering `answered` and `ended` -/

def TransferStateAnswered.fromState (t : Transfer) : Code Transfer := do
  let t := TransferState.fromState .answered t
  notify .answered t
  return t

def TransferStateEnded.fromState (t : Transfer) : Code Transfer := do
  let t := TransferState.fromState .ended t
  notify .ended t
  TransferLock.release t.initiatorCall
  return t

/-! ## Methods -/

/-- What a state object has under the name of a transition: nothing, a plain method, or
one decorated by `transition`. -/
inductive Method where
  | missing
  | plain (body : Transfer → Code Transfer)
  | decorated (body : Transfer → Code Transfer)

/-- The methods of the base class. -/
def TransferState.method : Transition → Method
  | .initiatorJoinedStasis | .transferredJoinedStasis => .missing
  | .transferredMohStop => .decorated pure
  | _ => .decorated notImplemented

/-- `self.transfer.flow = 'blind'; return self`. -/
def TransferState.rememberBlind (t : Transfer) : Code Transfer := pure { t with flow := .blind }

/-! ## Starting -/

namespace TransferStateReady

/-- The bridge between the two channels is destroyed, lest its auto-cleaner hang one up. -/
def destroyBridge (t : Transfer) : Code Unit := do
  match ← catching Exn.isBridgeNotFound (Channel.bridge t.initiatorCall) with
  | none => pure ()
  | some bridge =>
    if bridge.hasOnlyChannelIds [t.transferredCall, t.initiatorCall] then
      ari (.bridgesDestroy bridge.id)

def start (args : StartArgs) (t : Transfer) : Code Transfer := do
  if (← Channel.user t.initiatorCall).isNone then
    throw (.transferCreationError "initiator has no user UUID")
  orRaise (do setTransferredVariables t; setInitiatorVariables t)
    (.transferCreationError "some channel got hung up")
  destroyBridge t
  let t ← startAttended t args
  return fromState .ringback t

def method (args : StartArgs) : Transition → Method
  | .start => .decorated (start args)
  | tr => TransferState.method tr

end TransferStateReady

namespace TransferStateNonStasis

def start (args : StartArgs) (t : Transfer) : Code Transfer := do
  orRaise (AriHelpers.convertTransferToStasis t.transferredCall t.initiatorCall args.context
    args.exten t.id args.vars args.timeout) (.transferCreationError "channel not found")
  return fromState .noneMovedToStasis t

def method (args : StartArgs) : Transition → Method
  | .start => .decorated (start args)
  | tr => TransferState.method tr

end TransferStateNonStasis

/-! ## Moving the channels into stasis -/

/-- Both channels are in stasis: call the recipient. -/
def TransferState.joinedStasis (t : Transfer) : Code Transfer := do
  let args ← AriHelpers.getInitialTransferVariables t.initiatorCall
  let t ← startAttended t args
  return fromState .ringback t

/-- The transferred channel hung up; the stasis handlers deal with the initiator. -/
def TransferState.abandonAndEnd (t : Transfer) : Code Transfer := do
  abandon t
  TransferStateEnded.fromState t

/-- The transferred channel hung up and only the initiator channel remains. -/
def TransferState.abandonAndHangup (t : Transfer) : Code Transfer := do
  abandon t
  hangupAllTransferParticipants t
  TransferStateEnded.fromState t

/-- Give the channels back and end. -/
def TransferState.cancelAndEnd (t : Transfer) : Code Transfer := do
  cancelTransfer t
  TransferStateEnded.fromState t

/-- Hang up what remains and end. -/
def TransferState.hangupAndEnd (t : Transfer) : Code Transfer := do
  hangupAllTransferParticipants t
  TransferStateEnded.fromState t

namespace TransferStateMovingToStasisNoneReady

def method : Transition → Method
  | .complete => .decorated rememberBlind
  | .initiatorHangup => .decorated rememberBlind
  | .initiatorJoinedStasis => .decorated fun t => pure (fromState .initiatorMovedToStasis t)
  | .transferredHangup => .decorated abandonAndEnd
  | .transferredJoinedStasis => .decorated fun t => pure (fromState .transferredMovedToStasis t)
  | .transferredMohStop => .plain playSilence
  | .cancel => .decorated fun t => pure (fromState .noneMovedToStasisCancelled t)
  | tr => TransferState.method tr

end TransferStateMovingToStasisNoneReady

namespace TransferStateMovingToStasisInitiatorReady

def method : Transition → Method
  | .complete => .decorated rememberBlind
  | .initiatorHangup => .decorated rememberBlind
  | .transferredJoinedStasis => .decorated joinedStasis
  | .transferredHangup => .decorated abandonAndHangup
  | .cancel => .decorated fun t => pure (fromState .initiatorMovedToStasisCancelled t)
  | tr => TransferState.method tr

end TransferStateMovingToStasisInitiatorReady

namespace TransferStateMovingToStasisTransferredReady

def method : Transition → Method
  | .initiatorHangup => .decorated rememberBlind
  | .initiatorJoinedStasis => .decorated joinedStasis
  | .transferredHangup => .decorated abandonAndEnd
  | .complete => .decorated rememberBlind
  | .cancel => .decorated fun t => pure (fromState .transferredMovedToStasisCancelled t)
  | tr => TransferState.method tr

end TransferStateMovingToStasisTransferredReady

namespace TransferStateMovingToStasisInitiatorCancelled

def method : Transition → Method
  | .initiatorHangup => .decorated TransferStateEnded.fromState
  | .transferredJoinedStasis => .decorated cancelAndEnd
  | .transferredHangup => .decorated abandonAndHangup
  | .cancel => .decorated pure
  | tr => TransferState.method tr

end TransferStateMovingToStasisInitiatorCancelled

namespace TransferStateMovingToStasisTransferredCancelled

def method : Transition → Method
  | .initiatorHangup => .decorated hangupAndEnd
  | .initiatorJoinedStasis => .decorated cancelAndEnd
  | .transferredHangup => .decorated abandonAndEnd
  | .cancel => .decorated pure
  | tr => TransferState.method tr

end TransferStateMovingToStasisTransferredCancelled

namespace TransferStateMovingToStasisNoneCancelled

def method : Transition → Method
  | .initiatorHangup => .decorated TransferStateEnded.fromState
  | .initiatorJoinedStasis => .decorated cancelAndEnd
  | .transferredHangup => .decorated abandonAndEnd
  | .transferredJoinedStasis => .decorated cancelAndEnd
  | .cancel => .decorated pure
  | tr => TransferState.method tr

end TransferStateMovingToStasisNoneCancelled

/-! ## After the recipient has been called -/

/-- The transferred channel hung up: initiator and recipient remain. -/
def TransferState.abandonAndWait (t : Transfer) : Code Transfer := do
  abandon t
  return fromState .abandoned t

namespace TransferStateRingback

/-- The initiator is out before the recipient has answered: the transfer becomes blind. -/
def transferBlind (t : Transfer) : Code Transfer := do
  match ← catching Exn.isARINotFound (do
    unholdTransferredCall t
    channelsDo .ring t.transferredCall) with
  | none => hangupAndEnd t
  | some _ =>
    let t := { t with flow := .blind }
    notify .completed t
    return fromState .blindTransferred t

def initiatorHangup (t : Transfer) : Code Transfer := transferBlind t

def complete (t : Transfer) : Code Transfer := do
  ignoring Exn.isARINotFound (channelsDo .hangup t.initiatorCall)
  transferBlind t

def recipientAnswer (t : Transfer) : Code Transfer := do
  orRaise (AriHelpers.unringInitiatorCall t.initiatorCall)
    (.transferAnswerError t.id "initiator hung up")
  moveInitiatorCallToTransferBridge t
  moveRecipientCallToTransferBridge t
  TransferStateAnswered.fromState t

def method : Transition → Method
  | .transferredHangup => .decorated abandonAndWait
  | .initiatorHangup => .decorated initiatorHangup
  | .recipientHangup => .decorated cancelAndEnd
  | .complete => .decorated complete
  | .cancel => .decorated cancelAndEnd
  | .recipientAnswer => .decorated recipientAnswer
  | .transferredMohStop => .plain playSilence
  | tr => TransferState.method tr

end TransferStateRingback

namespace TransferStateBlindTransferred

def recipientAnswer (t : Transfer) : Code Transfer := do
  unsetTransferredVariables t
  unsetRecipientVariables t
  orRaise (AriHelpers.unringInitiatorCall t.transferredCall)
    (.transferAnswerError t.id "transferred hung up")
  moveTransferredCallToTransferBridge t
  moveRecipientCallToTransferBridge t
  announceRecordings t
  notify .answered t
  TransferStateEnded.fromState t

def method : Transition → Method
  | .transferredHangup => .decorated abandonAndHangup
  | .initiatorHangup => .decorated pure
  | .recipientHangup => .decorated cancelAndEnd
  | .recipientAnswer => .decorated recipientAnswer
  | .cancel => .decorated cancelAndEnd
  | tr => TransferState.method tr

end TransferStateBlindTransferred

namespace TransferStateAnswered

/-- The transferred channel joins the recipient in the transfer bridge. -/
def bridgeTransferred (t : Transfer) : Code Unit := do
  unholdTransferredCall t
  moveTransferredCallToTransferBridge t
  unsetTransferredVariables t
  unsetRecipientVariables t

def initiatorHangup (t : Transfer) : Code Transfer := do
  bridgeTransferred t
  announceRecordings t
  notify .completed t
  TransferStateEnded.fromState t

def complete (t : Transfer) : Code Transfer := do
  bridgeTransferred t
  ignoring Exn.isARINotFound (channelsDo .hangup t.initiatorCall)
  announceRecordings t
  notify .completed t
  TransferStateEnded.fromState t

def method : Transition → Method
  | .transferredHangup => .decorated abandonAndWait
  | .initiatorHangup => .decorated initiatorHangup
  | .recipientHangup => .decorated cancelAndEnd
  | .complete => .decorated complete
  | .cancel => .decorated cancelAndEnd
  | .transferredMohStop => .plain playSilence
  | tr => TransferState.method tr

end TransferStateAnswered

namespace TransferStateAbandoned

def recipientAnswer (t : Transfer) : Code Transfer := do
  orRaise (AriHelpers.unringInitiatorCall t.initiatorCall)
    (.transferAnswerError t.id "initiator hung up")
  orRaise (moveInitiatorCallToTransferBridge t) (.transferAnswerError t.id "initiator hung up")
  orRaise (moveRecipientCallToTransferBridge t) (.transferAnswerError t.id "recipient hung up")
  return t

def method : Transition → Method
  | .transferredHangup => .decorated pure
  | .initiatorHangup => .decorated hangupAndEnd
  | .recipientHangup => .decorated hangupAndEnd
  | .recipientAnswer => .decorated recipientAnswer
  | .cancel => .decorated cancelAndEnd
  | tr => TransferState.method tr

end TransferStateAbandoned

namespace TransferStateEnded

def method : Transition → Method
  | .initiatorHangup => .decorated pure
  | .recipientHangup => .decorated pure
  | .transferredHangup => .decorated pure
  | tr => TransferState.method tr

end TransferStateEnded

/-! ## The decorator and the factory -/

/-- The methods of the class that a status names; only `start` takes arguments. -/
def Status.method (args : StartArgs) : Status → Transition → Method
  | .ready => TransferStateReady.method args
  | .nonStasis => TransferStateNonStasis.method args
  | .noneMovedToStasis => TransferStateMovingToStasisNoneReady.method
  | .initiatorMovedToStasis => TransferStateMovingToStasisInitiatorReady.method
  | .transferredMovedToStasis => TransferStateMovingToStasisTransferredReady.method
  | .initiatorMovedToStasisCancelled => TransferStateMovingToStasisInitiatorCancelled.method
  | .transferredMovedToStasisCancelled => TransferStateMovingToStasisTransferredCancelled.method
  | .noneMovedToStasisCancelled => TransferStateMovingToStasisNoneCancelled.method
  | .ringback => TransferStateRingback.method
  | .blindTransferred => TransferStateBlindTransferred.method
  | .answered => TransferStateAnswered.method
  | .abandoned => TransferStateAbandoned.method
  | .ended => TransferStateEnded.method
  | .starting | .invalid => fun _ => .missing

/-- `update_cache`: every class stores its transfer, but `TransferStateEnded` removes it. -/
def updateCache (t : Transfer) : Code Unit :=
  match t.status with
  | .ended => StatePersistor.remove t.id
  | _ => StatePersistor.upsert t

/-- `except Exception: transfer_lock.release(call)`. -/
def abort (state : Transfer) (call : ChannelId) : Code Unit := do
  record (.aborted state.id state.status)
  TransferLock.release call

/-- The decorator `transition`. -/
def transition (tr : Transition) (decorated : Transfer → Code Transfer) (state : Transfer) :
    Code Transfer := do
  if !(← look System.stateMachineLocked) then
    throw .assertionError
  record (.called state.id state.status tr)
  let result ← onRaise (decorated state) (abort state state.initiatorCall)
  updateCache result
  return result

/-- Call a method of a state object. -/
def callWith (args : StartArgs) (tr : Transition) (state : Transfer) : Code Transfer :=
  match state.status.method args tr with
  | .missing => throw .attributeError
  | .plain body => body state
  | .decorated body => transition tr body state

/-- Call a method that takes no argument. -/
def call (tr : Transition) (state : Transfer) : Code Transfer :=
  callWith ⟨"", "", .object [], none⟩ tr state

namespace StateFactory

/-- `with state_machine_lock: …`, with the flag that says so. -/
def locked {α : Type} (body : Code α) : Code α := do
  change fun s => { s with stateMachineLocked := true }
  ensuring body fun s => { s with stateMachineLocked := false }

def make {α : Type} (id : TransferId) (body : Transfer → Code α) : Code α :=
  locked do
    let t ← StatePersistor.get id
    if !t.status.hasConstructor then
      throw .keyError
    body t

def makeFromClass {α : Type} (name : Status) (t : Transfer) (body : Transfer → Code α) :
    Code α :=
  locked do
    let t := fromState name t
    updateCache t
    body t

end StateFactory

end Calld.Transfers
