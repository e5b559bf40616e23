/-
# Relocates

A relocate moves the peer of a call, the relocated channel, from the initiator's device to
another one, the recipient.  Its state object has a method for each of the operations it
knows; the others raise `AttributeError`.

What a relocate does is published: when it ends, the collection removes it and the notifier
tells the bus.  What becomes of an exception of a subscriber is up to the publisher, which
is not part of calld; the environment says it, as it says how ARI, wazo-amid, wazo-confd and
the bus answer.
-/
import Calld.Effect.Rules
import Calld.Transfers.System

namespace Calld.Relocates

open Effect Effect.Program

/-! ## Relocates -/

abbrev RelocateUuid := String

/-- `RelocateRole`. -/
inductive RelocateRole where
  | relocated
  | initiator
  | recipient
  deriving DecidableEq, Repr

/-- The names of the states. -/
inductive StateName where
  | ready
  | recipientRing
  | waitingForCompletion
  | waitingForRelocated
  | ended
  deriving DecidableEq, Repr

/-- `VALID_COMPLETIONS`. -/
inductive Completion where
  | answer
  | api
  deriving DecidableEq, Repr

/-- The fields of a `Relocate`. -/
structure Relocate where
  state : StateName
  relocatedChannel : Option ChannelId
  initiatorChannel : Option ChannelId
  recipientChannel : Option ChannelId
  recipientVariables : Dict String
  initiator : Option UserUuid
  completions : List Completion
  timeout : ℕ
  deriving DecidableEq

/-- A relocate as `__init__` leaves it. -/
def Relocate.new : Relocate where
  state := .ready
  relocatedChannel := none
  initiatorChannel := none
  recipientChannel := none
  recipientVariables := []
  initiator := none
  completions := []
  timeout := 30

/-- `channel_id in (relocated_channel, initiator_channel, recipient_channel)`. -/
def Relocate.has (r : Relocate) (c : ChannelId) : Bool :=
  r.relocatedChannel = some c || r.initiatorChannel = some c || r.recipientChannel = some c

/-- `Relocate.role`. -/
def Relocate.role (r : Relocate) (c : ChannelId) : Option RelocateRole :=
  if r.relocatedChannel = some c then some .relocated
  else if r.initiatorChannel = some c then some .initiator
  else if r.recipientChannel = some c then some .recipient
  else none

/-! ## What the world sees -/

/-- The topics that the notifier observes. -/
inductive Topic where
  | initiated
  | answered
  | completed
  | ended
  deriving DecidableEq, Repr

/-- What has happened, as far as the properties of relocates are about it. -/
inductive Event where
  | added (u : RelocateUuid)
  /-- the notifier is told of a relocate -/
  | notified (topic : Topic) (u : RelocateUuid)
  | originated (u : RelocateUuid) (c : ChannelId)
  /-- calld asks to hang up a channel -/
  | hungUp (c : Option ChannelId)
  /-- a channel is gone -/
  | gone (c : ChannelId)
  deriving DecidableEq, Repr

/-- The relocates by uuid, the collection in the order of insertion, the locks that are
held, the uuids and the channel ids in use, and what has happened. -/
structure World where
  relocates : RelocateUuid → Relocate
  collection : List RelocateUuid
  locked : Finset RelocateUuid
  uuids : Finset RelocateUuid
  channels : Finset ChannelId
  trace : List Event

/-- Before anything has happened. -/
def World.initial : World where
  relocates := fun _ => Relocate.new
  collection := []
  locked := ∅
  uuids := ∅
  channels := ∅
  trace := []

/-! ## The environment -/

/-- What a request to the outside raises. -/
inductive Outage where
  | ariNotFound
  /-- any other `ARIException` -/
  | ariException
  | httpError
  | wazoAmidError
  | tooManyChannels
  | notEnoughChannels
  /-- `InvalidUserUUID` and `InvalidUserLine` -/
  | invalidUser
  /-- `InvalidDestination`, and a contact that is not found -/
  | invalidDestination
  | other
  deriving DecidableEq, Repr

/-- What the code raises, or what is raised in it. -/
inductive Exn where
  | attributeError
  | keyError
  | notImplementedError
  | noSuchRelocate
  | relocateAlreadyStarted
  | relocateCreationError
  | relocateCompletionError
  | relocateCancellationError
  | tooManyChannelCandidates
  | userPermissionDenied
  | outside (o : Outage)
  deriving DecidableEq, Repr

/-- `except ARIException`. -/
def isARIException : Exn → Bool
  | .outside .ariNotFound | .outside .ariException => true
  | _ => false

/-- `except HTTPError`. -/
def isHTTPError : Exn → Bool
  | .outside .httpError => true
  | _ => false

/-- `except WazoAmidError`. -/
def isWazoAmidError : Exn → Bool
  | .outside .wazoAmidError => true
  | _ => false

/-- `except (InvalidUserUUID, InvalidUserLine)`. -/
def isInvalidUser : Exn → Bool
  | .outside .invalidUser => true
  | _ => false

/-- The parameters of `channels.originate`. -/
structure OriginateRequest where
  endpoint : String
  app : String
  appArgs : List String
  originator : Option ChannelId
  variables_ : Dict String
  timeout : ℕ
  deriving DecidableEq

/-- What `relocate_schema` dumps. -/
structure Payload where
  uuid : RelocateUuid
  relocatedCall : Option ChannelId
  initiatorCall : Option ChannelId
  recipientCall : Option ChannelId
  completions : List Completion
  initiator : Option UserUuid
  timeout : ℕ
  deriving DecidableEq

/-- `relocate_schema.dump`. -/
def Relocate.dump (u : RelocateUuid) (r : Relocate) : Payload where
  uuid := u
  relocatedCall := r.relocatedChannel
  initiatorCall := r.initiatorChannel
  recipientCall := r.recipientChannel
  completions := r.completions
  initiator := r.initiator
  timeout := r.timeout

/-- How the outside answers in one step. -/
structure Env where
  uuid4 : RelocateUuid
  originate : OriginateRequest → Except Outage ChannelId
  hangup : Option ChannelId → Except Outage Unit
  createBridge : String → Except Outage BridgeId
  addChannel : BridgeId → Option ChannelId → Except Outage Unit
  isInStasis : Option ChannelId → Except Outage Bool
  setChannelVar : Option ChannelId → String → String → Except Outage Unit
  redirect : Option ChannelId → String → String → Except Outage Unit
  busPublish : Topic → Payload → TenantUuid → Option UserUuid → Except Outage Unit
  /-- what the publisher does with the exception of a subscriber -/
  pubsub : Exn → Except Exn Unit
  channelUser : ChannelId → Except Outage (Option UserUuid)
  channelTenant : ChannelId → Except Outage (Option TenantUuid)
  lineInterface : UserUuid → ℕ → Except Outage String
  mobilePhoneNumber : UserUuid → Except Outage String
  mainLineContext : UserUuid → Except Outage String
  onlyConnectedChannel : ChannelId → Except Outage ChannelId
  channelExists : ChannelId → Except Outage Bool
  /-- the endpoint of the destination that `DestinationFactory.from_type` makes -/
  fromType : Except Outage String

/-- The code of the plugin. -/
abbrev Code := Program Env World Exn

/-- Ask the outside. -/
def outside {α : Type} (answer : Env → Except Outage α) : Code α :=
  fun env w => ((answer env).mapError Exn.outside, w)

/-- Note what has happened. -/
def note (e : Event) : Code Unit := change fun w => { w with trace := w.trace ++ [e] }

/-- Change the fields of a relocate. -/
def World.update (w : World) (u : RelocateUuid) (f : Relocate → Relocate) : World :=
  { w with relocates := Function.update w.relocates u (f (w.relocates u)) }

/-! ## Publications -/

/-- A method of `RelocatesNotifier`. -/
def notify (topic : Topic) (u : RelocateUuid) : Code Unit := do
  note (.notified topic u)
  let r ← look (·.relocates u)
  match r.recipientVariables.get? "WAZO_TENANT_UUID" with
  | none => throw .keyError
  | some tenantUuid => outside (·.busPublish topic (r.dump u) tenantUuid r.initiator)

/-- A subscriber has raised an exception. -/
def subscriberRaised (e : Exn) : Code Unit := fun env w => (env.pubsub e, w)

/-- The publisher calls a subscriber. -/
def publishOne (p : Code Unit) : Code Unit := tryCatch p subscriberRaised

/-- `RelocateCollection.remove`, which subscribes to the end. -/
def remove (topic : Topic) (u : RelocateUuid) : Code Unit :=
  change fun w => { w with
    collection := if topic = .ended then w.collection.erase u else w.collection }

/-- `events.publish`: the collection has subscribed before the notifier. -/
def publish (topic : Topic) (u : RelocateUuid) : Code Unit := do
  remove topic u
  publishOne (notify topic u)

/-- `set_state`. -/
def setState (u : RelocateUuid) (state : StateName) : Code Unit := do
  change fun w => w.update u fun r => { r with state := state }
  if state = .ended then publish .ended u else pure ()

/-! ## Hangups and completions -/

/-- `channels.hangup`, whose ARI exceptions are logged. -/
def hangup (c : Option ChannelId) : Code Unit := do
  note (.hungUp c)
  ignoring isARIException (outside (·.hangup c))

/-- The three requests of `RelocateCompleter.bridge`. -/
def Env.bridging (env : Env) (u : RelocateUuid) (r : Relocate) : Except Outage Unit := do
  let bridge ← env.createBridge ("relocate:" ++ u)
  env.addChannel bridge r.recipientChannel
  env.addChannel bridge r.relocatedChannel

/-- `RelocateCompleter.bridge`. -/
def bridge (u : RelocateUuid) : Code Unit := do
  let r ← look (·.relocates u)
  match ← catching isARIException (outside (·.bridging u r)) with
  | none => pure ()
  | some _ => publish .completed u

/-- `RelocateCompleter.move_to_stasis`. -/
def moveToStasis (u : RelocateUuid) : Code Unit := do
  let r ← look (·.relocates u)
  match ← catching isARIException
      (outside (·.setChannelVar r.relocatedChannel "WAZO_RELOCATE_UUID" u)) with
  | none => pure ()
  | some _ =>
    ignoring isWazoAmidError
      (outside (·.redirect r.relocatedChannel "convert_to_stasis" "relocate"))

/-- The relocated channel is bridged with the recipient at once, when it can be. -/
def completeRelocate (u : RelocateUuid) : Code Unit := do
  let r ← look (·.relocates u)
  if ← outside (·.isInStasis r.relocatedChannel) then do
    bridge u
    hangup r.initiatorChannel
    setState u .ended
  else do
    moveToStasis u
    setState u .waitingForRelocated

/-! ## States -/

/-- The operations that a state may know, `initiate` apart. -/
inductive Operation where
  | recipientAnswered
  | relocatedAnswered
  | initiatorHangup
  | recipientHangup
  | relocatedHangup
  | cancel
  | complete
  deriving DecidableEq, Repr

/-- `_cancel`. -/
def cancelRelocate (u : RelocateUuid) : Code Unit := do
  let r ← look (·.relocates u)
  hangup r.recipientChannel
  setState u .ended

/-- `RelocateStateRecipientRing.recipient_answered`. -/
def recipientAnswered (u : RelocateUuid) : Code Unit := do
  publish .answered u
  let r ← look (·.relocates u)
  if .answer ∈ r.completions then completeRelocate u
  else if .api ∈ r.completions then setState u .waitingForCompletion
  else throw .notImplementedError

/-- `RelocateStateWaitingForRelocated.relocated_answered`. -/
def relocatedAnswered (u : RelocateUuid) : Code Unit := do
  bridge u
  setState u .ended

/-- `RelocateStateWaitingForRelocated.recipient_hangup`. -/
def hangupRelocated (u : RelocateUuid) : Code Unit := do
  let r ← look (·.relocates u)
  hangup r.relocatedChannel
  setState u .ended

/-- The method of a state for an operation, if it has one. -/
def StateName.method : StateName → Operation → Option (RelocateUuid → Code Unit)
  | .ready, _ => none
  | .recipientRing, .relocatedHangup | .recipientRing, .initiatorHangup
  | .recipientRing, .cancel => some cancelRelocate
  | .recipientRing, .recipientHangup => some fun u => setState u .ended
  | .recipientRing, .recipientAnswered => some recipientAnswered
  | .recipientRing, .complete => some fun _ => throw .relocateCompletionError
  | .recipientRing, .relocatedAnswered => none
  | .waitingForCompletion, .cancel | .waitingForCompletion, .relocatedHangup
  | .waitingForCompletion, .initiatorHangup => some cancelRelocate
  | .waitingForCompletion, .recipientHangup => some fun u => setState u .ended
  | .waitingForCompletion, .complete => some completeRelocate
  | .waitingForCompletion, .recipientAnswered | .waitingForCompletion, .relocatedAnswered => none
  | .waitingForRelocated, .relocatedAnswered => some relocatedAnswered
  | .waitingForRelocated, .relocatedHangup => some cancelRelocate
  | .waitingForRelocated, .initiatorHangup | .waitingForRelocated, .complete => some fun _ => pure ()
  | .waitingForRelocated, .recipientHangup => some hangupRelocated
  | .waitingForRelocated, .cancel => some fun _ => throw .relocateCancellationError
  | .waitingForRelocated, .recipientAnswered => none
  | .ended, .recipientHangup | .ended, .initiatorHangup | .ended, .relocatedHangup
  | .ended, .complete => some fun _ => pure ()
  | .ended, .recipientAnswered | .ended, .relocatedAnswered | .ended, .cancel => none

/-- `self._state.<operation>(self)`. -/
def invoke (op : Operation) (u : RelocateUuid) : Code Unit := do
  let state ← look fun w => (w.relocates u).state
  match state.method op with
  | some method => method u
  | none => throw .attributeError

end Calld.Relocates
