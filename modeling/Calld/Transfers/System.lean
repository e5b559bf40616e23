/-
# The system around the transfers plugin

What calld asks of Asterisk (through ARI and through wazo-amid), of wazo-confd and of
the bus, and how these may answer.  The answers are given by an environment `Env`, one
for each handler that runs; it sees the number of the request and the part of
Asterisk's state that calld itself has written (global variables, channel variables).

`System` is that part of Asterisk together with the memory of the calld process and a
trace of what calld has done.  `Code α` is the type of calld's code.
-/
import Calld.Effect.Rules
import Calld.Transfers.Transfer

namespace Calld

/-! ## Requests -/

/-- ARI's failures: `ARINotFound`, `ARINotInStasis` and every other `ARIException`. -/
inductive AriError where
  | notFound
  | notInStasis
  | other
  deriving DecidableEq, Repr

/-- wazo-amid's failures; `AmidProtocolError` is a `RequestException`. -/
inductive AmiError where
  | protocolError
  | requestException
  deriving DecidableEq, Repr

/-- wazo-confd's failures: `HTTPError` (404 or not) and every other `RequestException`. -/
inductive ConfdError where
  | notFound
  | httpError
  | requestException
  deriving DecidableEq, Repr

/-- A JSON value. -/
inductive Json where
  | null
  | bool (b : Bool)
  | int (n : ℤ)
  | float (lexeme : String)
  | str (s : String)
  | arr (items : List Json)
  | obj (fields : List (String × Json))

/-- A `dict` with string keys. -/
abbrev Dict (α : Type) := List (String × α)

/-- `dict[name] = value`. -/
def Dict.set {α : Type} (d : Dict α) (name : String) (value : α) : Dict α :=
  if d.any (·.1 = name) then d.map fun p => if p.1 = name then (name, value) else p
  else d ++ [(name, value)]

/-- `dict.get(name)`. -/
def Dict.get? {α : Type} (d : Dict α) (name : String) : Option α :=
  (d.find? (·.1 = name)).map (·.2)

abbrev Variables := Dict Json

/-- A decoded JSON text: a `dict`, or a value that `dict()` refuses. -/
inductive Decoded where
  | object (vars : Variables)
  | other

/-- The fields that calld reads in the JSON body of a channel. -/
structure ChannelJson where
  id : ChannelId
  name : String
  state : String
  callerName : String
  callerNumber : String
  channelvars : Dict String
  deriving DecidableEq, Repr

/-- The fields that calld reads in the JSON body of a bridge. -/
structure BridgeJson where
  id : BridgeId
  bridgeType : String
  channels : List ChannelId
  deriving DecidableEq, Repr

/-- `BridgeSnapshot.has_only_channel_ids`: equality of sets. -/
def BridgeJson.hasOnlyChannelIds (b : BridgeJson) (ids : List ChannelId) : Bool :=
  b.channels.toFinset = ids.toFinset

/-- The operations of ARI's channel resource that only act on the channel. -/
inductive ChannelAction where
  | muteIn
  | unmuteIn
  | hold
  | unhold
  | startMoh (mohClass : String)
  | stopMoh
  | startSilence
  | stopSilence
  | ring
  | ringStop
  | hangup
  deriving DecidableEq, Repr

/-- The arguments of `channels.originate`. -/
structure Originate where
  endpoint : String
  appArgs : List String
  callerName : String
  callerNumber : String
  vars : Variables
  timeout : ℤ
  originator : ChannelId

namespace Transfers

/-- Asterisk's global variables, by what the plugin keeps in them:
`XIVO_TRANSFERS_<id>`, `XIVO_TRANSFERS_INDEX` and `XIVO_BRIDGE_VARIABLES_<id>`. -/
inductive GlobalVariable where
  | transfer (id : TransferId)
  | index
  | bridge (id : BridgeId)
  deriving DecidableEq, Repr

/-- The writes of `asterisk.setGlobalVar`, deletions (`GLOBAL_DELETE`) included. -/
inductive GlobalWrite where
  | setTransfer (t : Transfer)
  | unsetTransfer (id : TransferId)
  | setIndex (ids : List TransferId)
  | setBridgeVariables (id : BridgeId) (vars : Dict String)
  | unsetBridgeVariables (id : BridgeId)
  deriving DecidableEq, Repr

/-- The requests to ARI.  `channelsGet none` is `channels.get(channelId=None)`. -/
inductive AriRequest where
  | channelsGet (channel : Option ChannelId)
  | channelsDo (action : ChannelAction) (channel : ChannelId)
  | channelsGetVar (channel : ChannelId) (name : String)
  | channelsSetVar (channel : ChannelId) (name value : String)
  | channelsOriginate (args : Originate)
  | bridgesList
  | bridgesGet (bridge : BridgeId)
  | bridgesCreate (bridge : BridgeId)
  | bridgesAddChannel (bridge : BridgeId) (channel : ChannelId)
  | bridgesDestroy (bridge : BridgeId)
  | getGlobalVar (name : GlobalVariable)
  | setGlobalVar (write : GlobalWrite)

/-- What ARI answers with. -/
abbrev AriRequest.Reply : AriRequest → Type
  | channelsGet _ => ChannelJson
  | channelsGetVar _ _ => String
  | channelsOriginate _ => ChannelId
  | bridgesList => List BridgeJson
  | bridgesGet _ => BridgeJson
  | _ => Unit

/-- One event of the answer to `ShowDialplan`. -/
structure DialplanEvent where
  event : String
  priority : String
  deriving DecidableEq, Repr

/-- The requests to wazo-amid. -/
inductive AmiRequest where
  | showDialplan (context exten : String)
  | setvar (channel : ChannelId) (name value : String)
  | redirect (channel : ChannelId) (context exten : String) (extraChannel : ChannelId)
  | playBeep (channel : ChannelId) (beep : String)
  | mohShowClasses
  deriving DecidableEq, Repr

/-- What wazo-amid answers with; for `moh show classes`, the names after `Class: `. -/
abbrev AmiRequest.Reply : AmiRequest → Type
  | showDialplan _ _ => List DialplanEvent
  | mohShowClasses => List String
  | _ => Unit

/-- The requests to wazo-confd. -/
inductive ConfdRequest where
  | usersGet (uuid : UserUuid)
  | linesGet (id : ℕ)
  deriving DecidableEq, Repr

/-- The fields of a confd user that calld reads. -/
structure ConfdUser where
  tenantUuid : TenantUuid
  lines : List ℕ
  deriving DecidableEq, Repr

/-- What wazo-confd answers with; for a line, its context. -/
abbrev ConfdRequest.Reply : ConfdRequest → Type
  | usersGet _ => ConfdUser
  | linesGet _ => String

/-! ## Exceptions -/

/-- The exceptions that calld's code raises or lets through. -/
inductive Exn where
  | ari (e : AriError)
  | confdHttpError
  | bus
  | amidProtocolError
  | wazoAmidError
  | wazoConfdUnreachable
  | invalidUserUuid (uuid : UserUuid)
  | userMissingMainLine (uuid : UserUuid)
  | userPermissionDenied (uuid : UserUuid)
  | invalidExtension (context exten : String)
  | transferCreationError (message : String)
  | transferAnswerError (id : TransferId) (message : String)
  | transferCancellationError (id : TransferId) (message : String)
  | transferAlreadyStarted (initiatorCall : ChannelId)
  | noSuchTransfer (id : TransferId)
  | tooManyTransferredCandidates (candidates : List ChannelId)
  | invalidEvent
  | tooManyChannels (channels : List ChannelId)
  | notEnoughChannels
  | bridgeNotFound
  | keyError
  | valueError
  | typeError
  | assertionError
  | unboundLocalError
  | notImplementedError (state : Status)
  | attributeError
  deriving DecidableEq, Repr

namespace Exn

/-- `except ARINotFound`. -/
def isARINotFound : Exn → Bool
  | ari .notFound => true
  | _ => false

/-- `except ARINotInStasis`. -/
def isARINotInStasis : Exn → Bool
  | ari .notInStasis => true
  | _ => false

/-- `except AmidProtocolError`. -/
def isAmidProtocolError : Exn → Bool
  | amidProtocolError => true
  | _ => false

/-- `except WazoAmidError`. -/
def isWazoAmidError : Exn → Bool
  | wazoAmidError => true
  | _ => false

/-- `except TransferCreationError`. -/
def isTransferCreationError : Exn → Bool
  | transferCreationError _ => true
  | _ => false

/-- `except TransferCancellationError`. -/
def isTransferCancellationError : Exn → Bool
  | transferCancellationError _ _ => true
  | _ => false

/-- `except KeyError`. -/
def isKeyError : Exn → Bool
  | keyError => true
  | _ => false

/-- `except BridgeNotFound`. -/
def isBridgeNotFound : Exn → Bool
  | bridgeNotFound => true
  | _ => false

/-- `isinstance(exception, TransferException)`. -/
def isTransferException : Exn → Bool
  | transferCreationError _ | transferAnswerError _ _ | transferCancellationError _ _
  | transferAlreadyStarted _ | noSuchTransfer _ | tooManyTransferredCandidates _ => true
  | _ => false

end Exn

/-! ## Transitions and notifications -/

/-- The transitions of the state machine. -/
inductive Transition where
  | transferredHangup
  | initiatorHangup
  | recipientHangup
  | recipientAnswer
  | start
  | complete
  | cancel
  | transferredMohStop
  | initiatorJoinedStasis
  | transferredJoinedStasis
  deriving DecidableEq, Repr

/-- The methods of `TransferNotifier`. -/
inductive NotificationKind where
  | created
  | updated
  | answered
  | cancelled
  | completed
  | abandoned
  | ended
  deriving DecidableEq, Repr

/-- A bus event about a transfer. -/
structure Notification where
  kind : NotificationKind
  transfer : PublicTransfer
  tenantUuid : Option TenantUuid
  userUuid : UserUuid
  deriving DecidableEq, Repr

/-- What is recorded of a run: the transitions called on the states of a transfer (as
the decorator `transition` logs them) and those that raised, the notifications
published, the recipients originated, and the writes and deletions of stored transfers. -/
inductive Event where
  | called (id : TransferId) (status : Status) (transition : Transition)
  | aborted (id : TransferId) (status : Status)
  | notified (n : Notification)
  | originated (id : TransferId) (recipient : ChannelId)
  | stored (id : TransferId)
  | removed (id : TransferId)
  deriving DecidableEq, Repr

namespace Event

/-- The event is a notification of the given kind about the transfer. -/
def isNotification (kind : NotificationKind) (id : TransferId) : Event → Bool
  | notified n => n.kind = kind && n.transfer.id = id
  | _ => false

/-- The event is a notification about the transfer. -/
def isAbout (id : TransferId) : Event → Bool
  | notified n => n.transfer.id = id
  | _ => false

/-- The event is the origination of a recipient for the transfer. -/
def isOriginate (id : TransferId) : Event → Bool
  | originated i _ => i = id
  | _ => false

end Event

/-! ## State -/

/-- The part of Asterisk's state that the plugin writes. -/
structure Asterisk where
  records : TransferId → Option Transfer
  index : List TransferId
  bridgeVariables : BridgeId → Dict String
  channelVariables : ChannelId → String → Option String

namespace Asterisk

def write (a : Asterisk) : GlobalWrite → Asterisk
  | .setTransfer t => { a with records := Function.update a.records t.id (some t) }
  | .unsetTransfer id => { a with records := Function.update a.records id none }
  | .setIndex ids => { a with index := ids }
  | .setBridgeVariables b vars =>
    { a with bridgeVariables := Function.update a.bridgeVariables b vars }
  | .unsetBridgeVariables b => { a with bridgeVariables := Function.update a.bridgeVariables b [] }

/-- The effect of a request that ARI has accepted. -/
def apply (a : Asterisk) : AriRequest → Asterisk
  | .channelsSetVar c x v =>
    { a with channelVariables :=
        Function.update a.channelVariables c (Function.update (a.channelVariables c) x (some v)) }
  | .setGlobalVar w => a.write w
  | _ => a

end Asterisk

/-- Asterisk and the memory of the calld process. -/
structure System where
  asterisk : Asterisk
  /-- `TransferLock._locked_calls` -/
  lockedCalls : Finset ChannelId
  /-- `state_machine_locked` -/
  stateMachineLocked : Bool
  /-- the number of requests sent so far -/
  tick : ℕ
  trace : List Event

/-- How the outside world answers while one handler runs. -/
structure Env where
  ari : ℕ → Asterisk → (r : AriRequest) → Except AriError r.Reply
  ami : ℕ → (r : AmiRequest) → Except AmiError r.Reply
  confd : ℕ → (r : ConfdRequest) → Except ConfdError r.Reply
  /-- whether the bus takes the publication -/
  bus : ℕ → Bool
  /-- the next value of `uuid4` -/
  uuid4 : TransferId
  /-- the order in which Python's `list` enumerates a `set` of ids -/
  setOrder : List TransferId → List TransferId
  setOrder_perm : ∀ ids, (setOrder ids).Perm ids
  /-- `json.dumps` -/
  dumps : Decoded → String
  /-- `json.loads`; `none` where it raises `ValueError` -/
  loads : String → Option Decoded

/-- The type of calld's code. -/
abbrev Code := Effect.Program Env System Exn

/-! ## Primitive operations -/

/-- Send a request to ARI. -/
def ari (r : AriRequest) : Code r.Reply := fun env s =>
  match env.ari s.tick s.asterisk r with
  | .ok a => (.ok a, { s with asterisk := s.asterisk.apply r, tick := s.tick + 1 })
  | .error e => (.error (.ari e), { s with tick := s.tick + 1 })

/-- Send a request to wazo-amid; `onError` is how the caller reports a failure. -/
def ami (r : AmiRequest) (onError : AmiError → Exn) : Code r.Reply := fun env s =>
  match env.ami s.tick r with
  | .ok a => (.ok a, { s with tick := s.tick + 1 })
  | .error e => (.error (onError e), { s with tick := s.tick + 1 })

/-- Send a request to wazo-confd; `onError` is how the caller reports a failure. -/
def confd (r : ConfdRequest) (onError : ConfdError → Exn) : Code r.Reply := fun env s =>
  match env.confd s.tick r with
  | .ok a => (.ok a, { s with tick := s.tick + 1 })
  | .error e => (.error (onError e), { s with tick := s.tick + 1 })

/-- Add an event to the trace. -/
def record (e : Event) : Code Unit :=
  Effect.Program.change fun s => { s with trace := s.trace ++ [e] }

/-- The body of the methods of `TransferNotifier`. -/
def notify (kind : NotificationKind) (t : Transfer) : Code Unit := fun env s =>
  if env.bus s.tick then
    (.ok (), { s with
      tick := s.tick + 1
      trace := s.trace ++
        [.notified ⟨kind, t.toPublicDict, t.initiatorTenantUuid, t.initiatorUuid⟩] })
  else (.error .bus, { s with tick := s.tick + 1 })

end Transfers

end Calld
