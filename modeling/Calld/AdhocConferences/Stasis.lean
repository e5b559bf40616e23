/-
# The conference in its bridge

The stasis application of ad hoc conferences makes the bridge of a conference when the first
channel arrives, puts the channels into it, remembers the host in variables of the bridge, and
hangs up the channels that are in the bridge when the host has left it.

The handlers are programs that ask Asterisk one request at a time, and any number of them may
run at once, while channels arrive, leave and hang up.  The reads of the state of single channels
are answered when a handler starts, by an Asterisk of which nothing is assumed.
-/
import Calld.AdhocConferences.Arrivals

namespace Calld.AdhocConferences

open Effect Effect.Interactive Calld.Ari Calld.Serializers

/-! ## Requests -/

/-- The methods that read the channels of the bridge. -/
inductive BridgeReader where
  | onStasisStart
  | validUserUuids
  | hasLoneChannel
  | isEmpty
  | hangupAll
  | hangupAllParticipants
  deriving DecidableEq, Repr

/-- The arguments of `AdhocConferenceParticipantLeftEvent`. -/
structure ParticipantLeft where
  adhocConferenceId : String
  callId : String
  tenantUuid : Option String
  userUuid : Option String
  deriving DecidableEq, Repr

inductive StasisRequest where
  | acquire
  | release
  | bridgesGet (reader : BridgeReader) (bridgeId : String)
  | bridgesCreateWithId (bridgeId : String)
  | subscribe (bridgeId : String)
  | addChannel (bridgeId channelId : String)
  | bridgesDestroy (bridgeId : String)
  | hangup (channelId : String)
  | getGlobalVar (variable_ : String)
  | unsetGlobalVar (variable_ : String)
  | perform (action : Action)
  | publishLeft (event : ParticipantLeft)
  | publishDeleted (adhocConferenceId tenantUuid hostUserUuid : String)
  deriving DecidableEq, Repr

/-- What a request is answered with, when it does not raise: of a bridge its channels. -/
@[reducible] def StasisRequest.Reply : StasisRequest → Type
  | .bridgesGet .. => List String
  | .getGlobalVar _ => String
  | _ => Unit

/-- A handler. -/
abbrev StasisCode (α : Type) : Type := Interactive StasisRequest StasisRequest.Reply Exn α

/-- Ask for one thing. -/
abbrev enquire (r : StasisRequest) : StasisCode r.Reply := request r

/-! ## Handlers -/

/-- `on_stasis_start`, for the arguments of the event. -/
def onStasisStart (args : List String) (channelId : String) : StasisCode Unit :=
  match args with
  | [adhocConferenceId] => do
    enquire .acquire
    ensuring
      (do
        match ← catching Exn.isARINotFound
            (enquire (.bridgesGet .onStasisStart adhocConferenceId)) with
        | some _ => pure ()
        | none =>
          enquire (.bridgesCreateWithId adhocConferenceId)
          enquire (.subscribe adhocConferenceId))
      (enquire .release)
    enquire (.addChannel adhocConferenceId channelId)
  | _ => pure ()

/-- `on_channel_entered_bridge`, one action at a time. -/
def channelEnteredBridge (order : SetOrder (Option String)) (ari : Asterisk)
    (event : ChannelEnteredBridge) : StasisCode Unit :=
  (onChannelEnteredBridge order ari event).forM fun action => enquire (.perform action)

/-- A variable of the bridge; `none` is the `KeyError` of an unset one. -/
def bridgeGlobal (bridgeId variable_ : String) : StasisCode (Option String) :=
  catching Exn.isARINotFound (enquire (.getGlobalVar (bridgeVariableName bridgeId variable_)))

/-- The channels of the bridge, unless it is gone. -/
def bridgeChannels (reader : BridgeReader) (bridgeId : String) : StasisCode (Option (List String)) :=
  catching Exn.isARINotFound (enquire (.bridgesGet reader bridgeId))

/-- `channels.hangup`, of channels that may be gone. -/
def hangUpEach (channelIds : List String) : StasisCode Unit :=
  channelIds.forM fun c => ignoring Exn.isARINotFound (enquire (.hangup c))

/-- `Bridge.hangup_all` and `_hangup_all_participants`. -/
def hangUpMembers (reader : BridgeReader) (bridgeId : String) : StasisCode Unit := do
  hangUpEach ((← bridgeChannels reader bridgeId).getD [])

/-- `participant_left`, to the users that are left and to the host's. -/
def notifyLeft (order : SetOrder (Option String)) (ari : Asterisk) (adhocConferenceId : String)
    (hostUserUuid : String) (call : Call) : StasisCode Unit := do
  let channels ← bridgeChannels .validUserUuids adhocConferenceId
  let users := order.1 ((channels.getD []).map (userOf ari) ++ [some hostUserUuid])
  users.forM fun user =>
    enquire (.publishLeft ⟨adhocConferenceId, call.id, call.tenantUuid, user⟩)

/-- `on_channel_left_bridge`. -/
def onChannelLeftBridge (order : SetOrder (Option String)) (ari : Asterisk)
    (adhocConferenceId : String) (channel : Snapshot) : StasisCode Unit := do
  match ← bridgeGlobal adhocConferenceId "WAZO_HOST_USER_UUID" with
  | none => pure ()
  | some hostUserUuid =>
    notifyLeft order ari adhocConferenceId hostUserUuid (makeCallFromDeadChannel channel)
    if ((← bridgeChannels .hasLoneChannel adhocConferenceId).getD []).length = 1 then
      hangUpMembers .hangupAll adhocConferenceId
    else if (← bridgeChannels .isEmpty adhocConferenceId) = some [] then
      ignoring Exn.isARINotFound (enquire (.bridgesDestroy adhocConferenceId))
    else
      match ← bridgeGlobal adhocConferenceId "WAZO_HOST_CHANNEL_ID" with
      | none => pure ()
      | some hostChannelId =>
        if hostChannelId = channel.id then hangUpMembers .hangupAllParticipants adhocConferenceId
        else pure ()

/-- `on_bridge_destroyed`. -/
def onBridgeDestroyed (bridgeId : String) : StasisCode Unit := do
  match ← bridgeGlobal bridgeId "WAZO_HOST_USER_UUID" with
  | none => pure ()
  | some hostUserUuid =>
    match ← bridgeGlobal bridgeId "WAZO_HOST_TENANT_UUID" with
    | none => pure ()
    | some hostTenantUuid =>
      enquire (.publishDeleted bridgeId hostTenantUuid hostUserUuid)
      enquire (.unsetGlobalVar (bridgeVariableName bridgeId "WAZO_HOST_CHANNEL_ID"))
      enquire (.unsetGlobalVar (bridgeVariableName bridgeId "WAZO_HOST_USER_UUID"))
      enquire (.unsetGlobalVar (bridgeVariableName bridgeId "WAZO_HOST_TENANT_UUID"))

/-! ## The world -/

/-- A conference, and the channel that the service has marked as its host. -/
structure Conference where
  id : String
  host : String
  deriving DecidableEq, Repr

/-- An event of the application that has not been handled yet. -/
inductive StasisEvent where
  | stasisStart (channelId : String)
  | entered (channelId : String)
  | left (channelId : String)
  | destroyed
  deriving DecidableEq, Repr

/-- The bridge of the conference, when there is one, with its channels; the lock; the channels
that were ever bridged, and those that were asked to hang up.  The host has `left` when it was
taken out of the bridge.  Its departure is `dealt` with when the handler of it has read the
channels to hang up, or has found that there are none, or that a variable of the host is unset. -/
structure World where
  members : Option (List String)
  variables_ : String → Option String
  locked : Bool
  pending : List StasisEvent
  bridged : List String
  asked : List String
  left : Bool
  dealt : Bool

/-- The channels in the bridge. -/
def World.channels (w : World) : List String := w.members.getD []

/-- What the handler of a departure has done.  That of the host's is `departing` until it deals
with it; then it has channels to hang up, or nothing more to do.  It is astray when the variable
names another channel. -/
inductive Phase where
  | other
  | departing
  | hanging (channelIds : List String)
  | over
  | astray
  deriving DecidableEq, Repr

namespace Conference

variable (conf : Conference)

/-- The variable that names the channel of the host. -/
def hostVariable : String := bridgeVariableName conf.id "WAZO_HOST_CHANNEL_ID"

/-- The channels are taken out of the bridge; the bridge may be gone. -/
def takeOut (w : World) (channelIds : List String) (members : Option (List String)) : World :=
  { w with
    members := members
    pending := w.pending ++ channelIds.map .left
    left := w.left || conf.host ∈ channelIds }

/-- What is asked in a phase. -/
def takes : Phase → StasisRequest → Prop
  | .other, .perform (.setGlobalVar v value) => v = conf.hostVariable → value = some conf.host
  | .other, _ => True
  | .departing, .getGlobalVar _ => True
  | .departing, .bridgesGet .. => True
  | .departing, .publishLeft _ => True
  | .hanging channelIds, .hangup c => channelIds.head? = some c
  | .over, .bridgesDestroy _ => True
  | _, _ => False

/-- The answer; of the requests about one channel it depends on whether it is `found`. -/
def reply (w : World) (found : Bool) : (r : StasisRequest) → Option (Except Exn r.Reply)
  | .acquire => if w.locked then none else some (.ok ())
  | .bridgesGet _ b =>
    if b = conf.id then
      some (match w.members with
        | none => .error (.raised .ariNotFound)
        | some channelIds => .ok channelIds)
    else none
  | .addChannel b _ =>
    if b = conf.id then
      some (if found ∧ w.members.isSome then .ok () else .error (.raised .ariNotFound))
    else none
  | .bridgesDestroy b =>
    if b = conf.id then
      some (if w.members.isSome then .ok () else .error (.raised .ariNotFound))
    else none
  | .hangup _ => some (if found then .ok () else .error (.raised .ariNotFound))
  | .getGlobalVar v =>
    some (match w.variables_ v with
      | none => .error (.raised .ariNotFound)
      | some value => .ok value)
  | .bridgesCreateWithId b => if b = conf.id then some (.ok ()) else none
  | .subscribe _ | .release | .unsetGlobalVar _ | .perform _ | .publishLeft _
  | .publishDeleted .. => some (.ok ())

/-- The phase after an answer. -/
def next (w : World) : Phase → StasisRequest → Phase
  | .departing, .bridgesGet .hangupAll _ => .hanging w.channels
  | .departing, .bridgesGet .hangupAllParticipants _ => .hanging w.channels
  | .departing, .bridgesGet .isEmpty _ => if w.members = some [] then .over else .departing
  | .departing, .getGlobalVar v =>
    match w.variables_ v with
    | none => .over
    | some value =>
      if v = conf.hostVariable ∧ value ≠ conf.host then .astray else .departing
  | .hanging (_ :: channelIds), .hangup _ => .hanging channelIds
  | k, _ => k

/-- What an answer does. -/
def act (w : World) (found : Bool) : StasisRequest → World
  | .acquire => { w with locked := true }
  | .release => { w with locked := false }
  | .bridgesCreateWithId _ => { w with members := some w.channels }
  | .addChannel _ c =>
    match found, w.members with
    | true, some channelIds =>
      { w with
        members := some (channelIds ++ [c])
        pending := w.pending ++ [.entered c]
        bridged := c :: w.bridged }
    | _, _ => w
  | .bridgesDestroy _ =>
    if w.members.isSome then
      { conf.takeOut w w.channels none with
        pending := (conf.takeOut w w.channels none).pending ++ [.destroyed] }
    else w
  | .hangup c => { w with asked := c :: w.asked }
  | .perform (.setGlobalVar v value) =>
    { w with variables_ := Function.update w.variables_ v (some (value.getD "")) }
  | .unsetGlobalVar v => { w with variables_ := Function.update w.variables_ v none }
  | .bridgesGet .. | .subscribe _ | .getGlobalVar _ | .perform _ | .publishLeft _
  | .publishDeleted .. => w

/-- The departure of the host is dealt with when its handler leaves the phase. -/
def settle (k k' : Phase) (w : World) : World :=
  if k = .departing ∧ k' ≠ .departing then { w with dealt := true } else w

/-- Asterisk. -/
def stasisService : Service StasisRequest StasisRequest.Reply Exn World Phase Bool where
  takes := conf.takes
  answer found _ w k r :=
    (conf.reply w found r).map fun a =>
      (a, settle k (conf.next w k r) (conf.act w found r), conf.next w k r)

end Conference

/-! ## The system -/

/-- The handler of an event, with the Asterisk that answers for single channels. -/
inductive Handler where
  | stasisStart (channelId : String)
  | entered (order : SetOrder (Option String)) (ari : Asterisk) (event : ChannelEnteredBridge)
  | left (order : SetOrder (Option String)) (ari : Asterisk) (channel : Snapshot)
  | destroyed

/-- The event that is handled. -/
def Handler.event : Handler → StasisEvent
  | .stasisStart c => .stasisStart c
  | .entered _ _ event => .entered event.channel.id
  | .left _ _ channel => .left channel.id
  | .destroyed => .destroyed

/-- What happens beside: a channel is moved to the application, or leaves the bridge. -/
inductive Outside where
  | arrive (channelId : String)
  | leave (channelId : String)
  deriving DecidableEq, Repr

namespace Conference

variable (conf : Conference)

/-- The event is of the conference, and no other channel is marked as its host. -/
def Sound (ari : Asterisk) (event : ChannelEnteredBridge) : Prop :=
  event.bridge.id = conf.id ∧
    (ari.getChannelVar event.channel.id "WAZO_IS_ADHOC_CONFERENCE_HOST" = some "true" →
      event.channel.id = conf.host)

instance (ari : Asterisk) (event : ChannelEnteredBridge) : Decidable (conf.Sound ari event) :=
  inferInstanceAs (Decidable (_ ∧ _))

/-- The program of a handler, and its phase. -/
def start : Handler → Option (Phase × StasisCode Unit)
  | .stasisStart c => some (.other, onStasisStart [conf.id] c)
  | .entered order ari event =>
    if conf.Sound ari event then some (.other, channelEnteredBridge order ari event) else none
  | .left order ari channel =>
    some (if channel.id = conf.host then .departing else .other,
      onChannelLeftBridge order ari conf.id channel)
  | .destroyed => some (.other, onBridgeDestroyed conf.id)

/-- The stasis application, for one conference. -/
def stasis : System StasisRequest StasisRequest.Reply Exn Unit World Phase Bool Handler
    Outside where
  toService := conf.stasisService
  init w := w.members = none ∧ (∀ v, w.variables_ v = none) ∧ w.left = false ∧ w.dealt = false
  launch handler w :=
    if handler.event ∈ w.pending then
      (conf.start handler).map fun (k, p) =>
        ({ w with pending := w.pending.erase handler.event }, k, p)
    else none
  outside
    | .arrive c, w => some { w with pending := w.pending ++ [.stasisStart c] }
    | .leave c, w =>
      match w.members with
      | none => none
      | some channelIds =>
        if c ∈ channelIds then some (conf.takeOut w [c] (some (channelIds.filter (· ≠ c)))) else none

end Conference

end Calld.AdhocConferences
