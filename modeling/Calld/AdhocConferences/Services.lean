/-
# The ad hoc conferences service

A user who is on several calls makes one conference of them: the call of the host with its peer,
and participants, each of which loses the channel of the host that it was talking to.  The
channels are moved to the application of ad hoc conferences, which puts them in a bridge of the
conference's id.

The methods of the service are programs that ask Asterisk, its manager and the bus one request
at a time.
-/
import Calld.Ari.Channel
import Calld.Effect.Interactive

namespace Calld.AdhocConferences

open Effect Effect.Interactive

/-! ## Errors -/

/-- What a request raises. -/
inductive Failure where
  | ariNotFound
  | ariNotInStasis
  | ari
  | wazoAmidError
  | other
  deriving DecidableEq, Repr

/-- `AdhocConferenceException`. -/
inductive ApiError where
  | adhocConferenceCreationError (message : String)
  | adhocConferenceNotFound (adhocConferenceId : String)
  | hostCallNotFound (hostCallId : String)
  | hostCallAlreadyInConference (hostCallId : String)
  | participantCallAlreadyInConference (participantCallId : String)
  | participantCallNotFound (participantCallId : String)
  deriving DecidableEq, Repr

/-- What an `APIException` answers. -/
structure ApiException where
  statusCode : ℕ
  message : String
  errorId : String
  details : List (String × String)
  deriving DecidableEq, Repr

def ApiError.exception : ApiError → ApiException
  | .adhocConferenceCreationError message => ⟨400, message, "host-call-creation-error", []⟩
  | .adhocConferenceNotFound id =>
    ⟨404, "Adhoc conference not found", "adhoc-conference-not-found",
      [("adhoc_conference_id", id)]⟩
  | .hostCallNotFound id =>
    ⟨400, "Adhoc conference creation error: host call not found", "host-call-not-found",
      [("host_call_id", id)]⟩
  | .hostCallAlreadyInConference id =>
    ⟨409, "Adhoc conference creation error: host already in conference",
      "host-already-in-conference", [("host_call_id", id)]⟩
  | .participantCallAlreadyInConference id =>
    ⟨409, "Adhoc conference error: participant already in conference",
      "participant-already-in-conference", [("participant_call_id", id)]⟩
  | .participantCallNotFound id =>
    ⟨400, "Adhoc conference participant call not found", "participant-call-not-found",
      [("participant_call_id", id)]⟩

/-- Every error is one of the client. -/
theorem ApiError.statusCode_client (e : ApiError) :
    400 ≤ e.exception.statusCode ∧ e.exception.statusCode < 500 := by
  cases e <;> simp [ApiError.exception]

inductive Exn where
  | raised (f : Failure)
  | keyError (variable_ : String)
  | bridgeNotFound
  | notEnoughChannels
  | tooManyChannels (channels : List String)
  | api (e : ApiError)
  deriving DecidableEq, Repr

def Exn.isARINotFound : Exn → Bool
  | .raised .ariNotFound => true
  | _ => false

def Exn.isARINotInStasis : Exn → Bool
  | .raised .ariNotInStasis => true
  | _ => false

/-- `ARIException`, of which the two others are subclasses. -/
def Exn.isARIException : Exn → Bool
  | .raised .ariNotFound | .raised .ariNotInStasis | .raised .ari => true
  | _ => false

/-! ## Requests -/

/-- A channel that Asterisk has answered: its id and `json['name']`. -/
structure RestChannel where
  id : String
  name : String
  deriving DecidableEq, Repr

/-- The arguments of `ami.redirect`.  The names of the channels are sent. -/
structure Redirect where
  channel : RestChannel
  context : String
  exten : String
  extraChannel : RestChannel
  extraContext : Option String
  extraExten : Option String
  deriving DecidableEq, Repr

/-- The methods that read the list of the bridges, for a channel. -/
inductive Reader where
  | connectedChannels (id : String)
  | bridge (id : String)
  deriving DecidableEq, Repr

inductive Request where
  | channelsGet (channelId : String)
  | getChannelVar (channelId variable_ : String)
  | setChannelVar (channelId variable_ : String) (value : Option String) (bypassStasis : Bool)
  | move (channelId app : String) (appArgs : List String)
  | hangup (channelId : String)
  | bridgesList (reader : Reader)
  | bridgesGet (bridgeId : String)
  | bridgesDestroy (bridgeId : String)
  | getGlobalVar (variable_ : String)
  | redirect (r : Redirect)
  | created (adhocConferenceId : String) (tenantUuid : Option String) (hostUserUuid : String)
  deriving DecidableEq, Repr

/-- What a request is answered with, when it does not raise: of a channel its name, of a bridge
its channels. -/
@[reducible] def Request.Reply : Request → Type
  | .channelsGet _ | .getChannelVar .. | .getGlobalVar _ => String
  | .bridgesList _ => List Ari.Bridge
  | .bridgesGet _ => List String
  | _ => Unit

/-- A method of the service. -/
abbrev Code (α : Type) : Type := Interactive Request Request.Reply Exn α

/-- Ask for one thing. -/
abbrev send (r : Request) : Code r.Reply := request r

/-- `ADHOC_CONFERENCE_STASIS_APP`. -/
def stasisApp : String := "adhoc_conference"

/-! ## The channel helper -/

/-- `ari.channels.get`; what it answers has the id that it was asked for. -/
def channelsGet (channelId : String) : Code RestChannel := do
  let name ← send (.channelsGet channelId)
  pure ⟨channelId, name⟩

/-- `Channel.exists`. -/
def exists_ (channelId : String) : Code Bool := do
  let found ← catching Exn.isARINotFound (channelsGet channelId)
  pure found.isSome

/-- `Channel.is_local`. -/
def isLocal (channelId : String) : Code Bool := do
  match ← catching Exn.isARINotFound (channelsGet channelId) with
  | none => pure false
  | some channel => pure ("Local/".isPrefixOf channel.name)

/-- `Channel.get_var`, of a variable that may be unset. -/
def getVar (channelId variable_ : String) : Code (Option String) :=
  catching Exn.isARINotFound (send (.getChannelVar channelId variable_))

/-- `Channel.user`. -/
def user (channelId : String) : Code (Option String) := do
  if ← isLocal channelId then getVar channelId "WAZO_DEREFERENCED_USERUUID"
  else getVar channelId "WAZO_USERUUID"

/-- `Channel.tenant_uuid`. -/
def tenantUuid (channelId : String) : Code (Option String) := getVar channelId "WAZO_TENANT_UUID"

/-- `Channel.connected_channels`, given the bridges: the ids, each of them once. -/
def connectedIn (channelId : String) (bridges : List Ari.Bridge) : List String :=
  (((bridges.filter (channelId ∈ ·.channels)).flatMap (·.channels)).dedup).erase channelId

/-- `Channel.only_connected_channel`, as `_find_peer_channel` calls it. -/
def findPeerChannel (callId : String) : Code String := do
  let bridges ← send (.bridgesList (.connectedChannels callId))
  match connectedIn callId bridges with
  | [] => throw .notEnoughChannels
  | [channelId] => pure channelId
  | channels => throw (.tooManyChannels channels)

/-- `Channel.is_in_stasis`. -/
def isInStasis (channelId : String) : Code Bool := do
  let set ← catching Exn.isARINotInStasis
    (send (.setChannelVar channelId "WAZO_TEST_STASIS" none false))
  pure set.isSome

/-- `Channel.bridge`. -/
def bridgeOf (channelId : String) : Code Ari.Bridge := do
  let bridges ← send (.bridgesList (.bridge channelId))
  match bridges.find? (channelId ∈ ·.channels) with
  | some bridge => pure bridge
  | none => throw .bridgeNotFound

/-! ## Redirections -/

/-- `_channels_are_in_stasis`. -/
def channelsAreInStasis : List String → Code Bool
  | [] => pure true
  | channelId :: channelIds => do
    if ← isInStasis channelId then channelsAreInStasis channelIds else pure false

/-- The errors that `_ari_redirect` ignores before it moves the channel. -/
def Exn.isNotFound : Exn → Bool
  | .bridgeNotFound => true
  | e => e.isARINotFound

/-- `_ari_redirect`: a bridge that the move would leave to one channel is destroyed first. -/
def ariRedirect (channelId app : String) (appArgs : List String) : Code Unit := do
  ignoring Exn.isNotFound do
    let bridge ← bridgeOf channelId
    if bridge.channels.length ≤ 2 then send (.bridgesDestroy bridge.id) else pure ()
  send (.move channelId app appArgs)

/-- `channel.setChannelVar(…, bypassStasis=True)`. -/
def setVar (channel : RestChannel) (variable_ value : String) : Code Unit :=
  send (.setChannelVar channel.id variable_ (some value) true)

/-- `try: channels.get  except ARINotFound: raise AdhocConferenceCreationError(message)`. -/
def getOrFail (channelId message : String) : Code RestChannel := do
  match ← catching Exn.isARINotFound (channelsGet channelId) with
  | some channel => pure channel
  | none => throw (.api (.adhocConferenceCreationError message))

/-- `_redirect_host`. -/
def redirectHost (hostCallId hostPeerChannelId adhocConferenceId : String) : Code Unit := do
  let host ← getOrFail hostCallId "host call was hungup"
  let peer ← getOrFail hostPeerChannelId "participant call was hungup"
  match ← catching Exn.isARIException (do
      setVar host "WAZO_IS_ADHOC_CONFERENCE_HOST" "true"
      setVar peer "WAZO_IS_ADHOC_CONFERENCE_HOST" "false") with
  | none => pure ()
  | some () =>
    if ← channelsAreInStasis [host.id, peer.id] then
      ignoring Exn.isARIException do
        ariRedirect host.id stasisApp [adhocConferenceId]
        ariRedirect peer.id stasisApp [adhocConferenceId]
    else
      match ← catching Exn.isARIException (do
          setVar host "WAZO_ADHOC_CONFERENCE_ID" adhocConferenceId
          setVar peer "WAZO_ADHOC_CONFERENCE_ID" adhocConferenceId) with
      | none => pure ()
      | some () =>
        send (.redirect
          { channel := peer
            context := "convert_to_stasis"
            exten := "adhoc_conference"
            extraChannel := host
            extraContext := none
            extraExten := none })

/-- `_redirect_participant`. -/
def redirectParticipant (participantChannelId discardedHostChannelId adhocConferenceId : String) :
    Code Unit := do
  let discardedHost ← getOrFail discardedHostChannelId "host call was hungup"
  let participant ← getOrFail participantChannelId "participant call was hungup"
  match ← catching Exn.isARIException
      (setVar participant "WAZO_IS_ADHOC_CONFERENCE_HOST" "false") with
  | none => pure ()
  | some () =>
    match ← catching Exn.isARIException
        (setVar participant "WAZO_ADHOC_CONFERENCE_ID" adhocConferenceId) with
    | none => pure ()
    | some () =>
      if ← channelsAreInStasis [participant.id, discardedHost.id] then
        ignoring Exn.isARIException do
          ariRedirect participant.id stasisApp [adhocConferenceId]
          send (.hangup discardedHost.id)
      else
        match ← catching Exn.isARIException
            (setVar participant "WAZO_ADHOC_CONFERENCE_ID" adhocConferenceId) with
        | none => pure ()
        | some () =>
          send (.redirect
            { channel := participant
              context := "convert_to_stasis"
              exten := "adhoc_conference"
              extraChannel := discardedHost
              extraContext := some "convert_to_stasis"
              extraExten := some "h" })

/-! ## Creation -/

/-- The order in which Python goes through a set, of which any elements are given. -/
def SetOrder (α : Type) [DecidableEq α] : Type := { f : List α → List α // ∀ l, (f l).Perm l.dedup }

/-- `except NotEnoughChannels` and `except TooManyChannels` around `_find_peer_channel`. -/
def findPeerOr (callId : String) (notEnough tooMany : ApiError) : Code String :=
  tryCatch (findPeerChannel callId) fun
    | .notEnoughChannels => throw (.api notEnough)
    | .tooManyChannels _ => throw (.api tooMany)
    | e => throw e

/-- The checks of one participant in `create_from_user`. -/
def checkParticipant (userUuid participantCallId : String) : Code Unit := do
  if ← exists_ participantCallId then
    let peer ← findPeerOr participantCallId (.participantCallNotFound participantCallId)
      (.participantCallNotFound participantCallId)
    if (← user peer) = some userUuid then pure ()
    else throw (.api (.participantCallNotFound participantCallId))
  else throw (.api (.participantCallNotFound participantCallId))

/-- The checks of `create_from_user`, which find the peer of the host. -/
def checkCreation (hostCallId : String) (participantCallIds : List String) (userUuid : String) :
    Code String := do
  if ← exists_ hostCallId then
    if (← user hostCallId) = some userUuid then
      let hostPeer ← findPeerOr hostCallId
        (.adhocConferenceCreationError
          ("could not determine peer of call " ++ hostCallId ++ ": call has no peers"))
        (.hostCallAlreadyInConference hostCallId)
      participantCallIds.forM (checkParticipant userUuid)
      pure hostPeer
    else throw (.api (.hostCallNotFound hostCallId))
  else throw (.api (.hostCallNotFound hostCallId))

/-- One of the remaining participants. -/
def bringParticipant (adhocConferenceId participantCallId : String) : Code Unit := do
  let discardedHostChannelId ← findPeerChannel participantCallId
  redirectParticipant participantCallId discardedHostChannelId adhocConferenceId

/-- `create_from_user`, which returns the id of the conference; `uuid4` is a new one. -/
def createFromUser (order : SetOrder String) (uuid4 hostCallId : String)
    (participantCallIds : List String) (userUuid : String) : Code String := do
  let hostPeer ← checkCreation hostCallId participantCallIds userUuid
  let tenantUuid ← tenantUuid hostCallId
  send (.created uuid4 tenantUuid userUuid)
  redirectHost hostCallId hostPeer uuid4
  (order.1 (participantCallIds.filter (· ≠ hostPeer))).forM (bringParticipant uuid4)
  pure uuid4

/-! ## The other operations -/

/-- `Bridge.exists`. -/
def bridgeExists (bridgeId : String) : Code Bool := do
  let found ← catching Exn.isARINotFound (send (.bridgesGet bridgeId))
  pure found.isSome

/-- The name of a variable of a bridge. -/
def bridgeVariableName (bridgeId variable_ : String) : String :=
  "WAZO_BRIDGE_" ++ bridgeId ++ "_VARIABLE_" ++ variable_

/-- `bridge_helper.global_variables.get`: an unset variable is a `KeyError`. -/
def bridgeVariable (bridgeId variable_ : String) : Code String := do
  match ← catching Exn.isARINotFound
      (send (.getGlobalVar (bridgeVariableName bridgeId variable_))) with
  | some value => pure value
  | none => throw (.keyError (bridgeVariableName bridgeId variable_))

/-- `channels.hangup`, of a channel that may be gone. -/
def hangUp (channelId : String) : Code Unit :=
  ignoring Exn.isARINotFound (send (.hangup channelId))

/-- `Bridge.hangup_all`. -/
def hangupAll (bridgeId : String) : Code Unit := do
  match ← catching Exn.isARINotFound (send (.bridgesGet bridgeId)) with
  | none => pure ()
  | some channels => channels.forM hangUp

/-- The conference is one of the user. -/
def checkHost (adhocConferenceId userUuid : String) : Code Unit := do
  if (← bridgeVariable adhocConferenceId "WAZO_HOST_USER_UUID") = userUuid then pure ()
  else throw (.api (.adhocConferenceNotFound adhocConferenceId))

/-- The conference has a bridge. -/
def checkConference (adhocConferenceId : String) : Code Unit := do
  if ← bridgeExists adhocConferenceId then pure ()
  else throw (.api (.adhocConferenceNotFound adhocConferenceId))

/-- The call of a participant is there. -/
def checkCall (participantCallId : String) : Code Unit := do
  if ← exists_ participantCallId then pure ()
  else throw (.api (.participantCallNotFound participantCallId))

/-- `delete_from_user`. -/
def deleteFromUser (adhocConferenceId userUuid : String) : Code Unit := do
  checkConference adhocConferenceId
  checkHost adhocConferenceId userUuid
  hangupAll adhocConferenceId

/-- `add_participant_from_user`. -/
def addParticipantFromUser (adhocConferenceId participantCallId userUuid : String) :
    Code Unit := do
  checkConference adhocConferenceId
  checkCall participantCallId
  checkHost adhocConferenceId userUuid
  let currentParticipantCallIds ← send (.bridgesGet adhocConferenceId)
  if participantCallId ∈ currentParticipantCallIds then
    throw (.api (.participantCallAlreadyInConference participantCallId))
  else
    let discardedHost ← findPeerOr participantCallId (.participantCallNotFound participantCallId)
      (.participantCallNotFound participantCallId)
    if (← user discardedHost) = some userUuid then
      redirectParticipant participantCallId discardedHost adhocConferenceId
    else throw (.api (.participantCallNotFound participantCallId))

/-- `remove_participant_from_user`. -/
def removeParticipantFromUser (adhocConferenceId participantCallId userUuid : String) :
    Code Unit := do
  checkConference adhocConferenceId
  checkHost adhocConferenceId userUuid
  checkCall participantCallId
  let participants ← send (.bridgesGet adhocConferenceId)
  if participantCallId ∈ participants then hangUp participantCallId
  else throw (.api (.participantCallNotFound participantCallId))

end Calld.AdhocConferences
