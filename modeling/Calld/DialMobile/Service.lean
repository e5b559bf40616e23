/-
# The dial-mobile service

The state of `DialMobileService`: the dialers that wake up and call the mobiles of a user,
the push notifications in flight, the PSTN fallbacks and their timers, and the maps that
tie them to a call and to the bridge it will be in.  Beside it, what the rest of the world
has seen: the notifications published, the channels created and hung up.

The environment of a step says how ARI, wazo-confd and the bus answer.
-/
import Calld.Effect.Dict
import Calld.Effect.Rules
import Calld.Transfers.System

namespace Calld.DialMobile

open Effect Effect.Program

/-! ## Incoming calls -/

/-- The linkedid of a call. -/
abbrev CallId := ChannelId

/-- A `future_bridge_uuid`. -/
abbrev BridgeUuid := String

abbrev Aor := String

/-- The payload of a push notification. -/
structure Payload where
  peerCallerIdNumber : String
  peerCallerIdName : String
  callId : ChannelId
  video : Bool
  ringTimeout : ℕ
  sipCallId : String
  mobileWakeupTimestamp : String
  deriving DecidableEq, Repr

/-- The fields of an incoming call; `id` is the identity of the push request. -/
structure Push where
  id : ℕ
  callId : ChannelId
  tenantUuid : Option TenantUuid
  userUuid : UserUuid
  originCallId : CallId
  payload : Payload
  deriving DecidableEq, Repr

/-- `IncomingCallPending`, `IncomingCallNotified`, `IncomingCallReceived` and
`IncomingCallPushCancelled`. -/
inductive IncomingCall where
  | pending (push : Push)
  | notified (push : Push)
  | received (push : Push)
  | pushCancelled (push : Push)
  deriving DecidableEq, Repr

/-- The push request of an incoming call. -/
def IncomingCall.push : IncomingCall → Push
  | .pending push => push
  | .notified push => push
  | .received push => push
  | .pushCancelled push => push

/-- The push has been requested, and not been sent. -/
def IncomingCall.isPending : IncomingCall → Bool
  | .pending _ => true
  | _ => false

/-- The push has been published, and not been closed. -/
def IncomingCall.isNotified : IncomingCall → Bool
  | .notified _ => true
  | _ => false

/-- The push of a call may still be published or cancelled. -/
def IncomingCall.isOpen : IncomingCall → Bool
  | .pending _ | .notified _ => true
  | .received _ | .pushCancelled _ => false

/-! ## PSTN fallbacks -/

/-- `PSTNFallbackPending`, `PSTNFallbackTriggering`, `PSTNFallbackDialing`,
`PSTNFallbackDialAnswered` and `PSTNFallbackCancelled`. -/
inductive PSTNFallback where
  | pending (timer : ℕ)
  | triggering
  | dialing (channelId : ChannelId)
  | dialAnswered (channelId : ChannelId)
  | cancelled
  deriving DecidableEq, Repr

/-- Cancelled or answered: there is nothing left to do. -/
def PSTNFallback.isTerminal : PSTNFallback → Bool
  | .dialAnswered _ | .cancelled => true
  | .pending _ | .triggering | .dialing _ => false

/-! ## Dialers -/

/-- A `_ContactDialer`, told from others by its bridge. -/
structure Dialer where
  futureBridgeUuid : BridgeUuid
  callerChannelId : ChannelId
  aor : Aor
  ringingTime : ℕ
  pickupMark : String
  deriving DecidableEq, Repr

/-! ## What the world sees -/

/-- A push notification, or its cancellation. -/
structure PushNotification where
  push : ℕ
  call : CallId
  payload : Payload
  tenantUuid : Option TenantUuid
  userUuid : UserUuid
  deriving DecidableEq, Repr

/-- What has happened, as far as the properties of the service are about it. -/
inductive Event where
  | pushRequested (push : Push)
  | pushNotification (n : PushNotification)
  | cancelPushNotification (n : PushNotification)
  | pushCompleted (push : Push)
  | fallbackArmed (timer : ℕ) (call : CallId)
  | fallbackCancelled (call : CallId)
  | pstnOriginated (timer : ℕ) (call : CallId) (c : ChannelId)
  | dialed (b : BridgeUuid) (call : CallId)
  | kicked (b : BridgeUuid)
  | bridged (b : BridgeUuid) (c : ChannelId)
  | hungUp (c : ChannelId)
  | channelGone (c : ChannelId)
  /-- a request has found the channel gone -/
  | foundGone (c : ChannelId)
  | pruned (b : BridgeUuid) (call : CallId)
  deriving DecidableEq, Repr

/-! ## The service -/

/-- The maps of the service, and what it rests on: the timers that have not fired, the
dialer threads that run, the channels they have dialed, the number of objects created, the
bridge uuids and channel ids in use, and what has happened. -/
structure World where
  contactDialers : Effect.Dict BridgeUuid Dialer
  dialersByAor : Effect.Dict Aor (Finset Dialer)
  callerChannelLegByBridge : Effect.Dict BridgeUuid ChannelId
  callRingTime : Effect.Dict CallId ℕ
  incomingCalls : Effect.Dict CallId IncomingCall
  pstnFallbacks : Effect.Dict CallId PSTNFallback
  callLocks : Effect.Dict CallId ℕ
  originCallIdByBridgeUuid : Effect.Dict BridgeUuid CallId
  bridgeUuidByOriginCallId : Effect.Dict CallId BridgeUuid
  timers : Effect.Dict ℕ CallId
  running : Finset BridgeUuid
  dialedChannels : BridgeUuid → List ChannelId
  objects : ℕ
  uuids : Finset BridgeUuid
  channels : Finset ChannelId
  trace : List Event

/-- The service as `__init__` leaves it. -/
def World.initial : World where
  contactDialers := ∅
  dialersByAor := ∅
  callerChannelLegByBridge := ∅
  callRingTime := ∅
  incomingCalls := ∅
  pstnFallbacks := ∅
  callLocks := ∅
  originCallIdByBridgeUuid := ∅
  bridgeUuidByOriginCallId := ∅
  timers := ∅
  running := ∅
  dialedChannels := fun _ => []
  objects := 0
  uuids := ∅
  channels := ∅
  trace := []

/-- The push of a call has been published, and not been closed. -/
def World.isNotified (w : World) (call : CallId) : Bool :=
  (w.incomingCalls.get call).any IncomingCall.isNotified

/-! ## The environment -/

/-- What the code raises, or what is raised in it. -/
inductive Exn where
  | ariNotFound
  | ariServerError
  /-- `HTTPError` and every other `RequestException` -/
  | requestException
  | notifierError
  | keyError
  | assertionError
  /-- `_PSTNFallbackAbort` -/
  | pstnFallbackAbort
  | other
  deriving DecidableEq, Repr

/-- `except ARINotFound`. -/
def isARINotFound : Exn → Bool
  | .ariNotFound => true
  | _ => false

/-- `except (HTTPError, RequestException)`. -/
def isRequestException : Exn → Bool
  | .requestException => true
  | _ => false

/-- `except (ARIServerError, HTTPError, RequestException)`. -/
def isServerError : Exn → Bool
  | .ariServerError | .requestException => true
  | _ => false

/-- A request succeeds. -/
def succeeds {α : Type} : Except Exn α → Bool
  | .ok _ => true
  | .error _ => false

/-- A request finds the channel gone. -/
def isGone {α : Type} : Except Exn α → Bool
  | .ok _ => false
  | .error e => isARINotFound e

/-- What the service reads of a user of wazo-confd. -/
structure ConfdUser where
  mobileFallbackEnabled : Bool
  mobilePhoneNumber : Option String
  lines : List ℕ
  deriving DecidableEq, Repr

/-- How the outside answers in one step: an exception, or the answer. -/
structure Env where
  uuid4 : BridgeUuid
  confdUser : Except Exn ConfdUser
  confdLineContext : Except Exn String
  ring : Except Exn Unit
  pickupMark : Except Exn String
  getChannel : Except Exn Unit
  isUp : ChannelId → Except Exn Bool
  hangup : ChannelId → Except Exn Unit
  answer : Option ChannelId → Except Exn Unit
  bridge : Except Exn Unit
  originate : Except Exn ChannelId
  mobileContacts : Except Exn Bool
  notifier : Except Exn Unit

/-- The answers are possible ones: a new uuid, and the id of a new channel. -/
def Env.Possible (env : Env) (w : World) : Prop :=
  env.uuid4 ∉ w.uuids ∧ ∀ c, env.originate = .ok c → c ∉ w.channels

/-- An answer of `originate` is possible. -/
def isNewChannel (w : World) : Except Exn ChannelId → Bool
  | .ok c => c ∉ w.channels
  | .error _ => true

instance (env : Env) (w : World) : Decidable (env.Possible w) :=
  decidable_of_iff (env.uuid4 ∉ w.uuids ∧ isNewChannel w env.originate = true) <|
    and_congr_right' <| by cases env.originate <;> simp [isNewChannel]

/-- The code of the service. -/
abbrev Code := Program Env World Exn

/-- Ask the outside. -/
def outside {α : Type} (answer : Env → Except Exn α) : Code α := fun env w => (answer env, w)

/-- Note what has happened. -/
def note (e : Event) : Code Unit := change fun w => { w with trace := w.trace ++ [e] }

/-- The identity of a new object. -/
def newObject : Code ℕ := fun _ w => (.ok w.objects, { w with objects := w.objects + 1 })

end Calld.DialMobile
