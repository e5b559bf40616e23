/-
# Calls originated from a mobile

The channel that answers on a mobile is known only when the dialplan tells it: an originate
registers a dial echo request, originates, and waits for the channel in the queue of its
request.  `DialEchoManager` has a table of these queues; any number of originates run against
it, with the handlers of the events that put the results into the queues.

Queues are known by numbers.  The table loses the queue of a request, and whoever has got it
from the table before still has it.
-/
import Calld.Effect.Dict
import Calld.Effect.Interactive
import Calld.Switchboards.Services

namespace Calld.DialEcho

open Effect Effect.Interactive

/-! ## Requests -/

/-- The result of a dial echo request; the channel may be missing in it. -/
structure DialEchoResult where
  channelId : Option String
  deriving DecidableEq, Repr

/-- A user of confd; of the lines only the ids are read. -/
structure ConfdUser where
  lines : List ℕ
  mobilePhoneNumber : Option String

structure ConfdLine extends Switchboards.LineJson where
  context : String

/-- What `channels.originate` is given. -/
structure OriginateArguments where
  endpoint : String
  extension : String
  context : String
  priority : ℕ
  variables_ : Effect.Dict String String

/-- What the code asks: of amid, confd and ARI, of the manager's table, and of a queue. -/
inductive EchoRequest where
  | showDialplan (context exten : String)
  | usersGet (uuid tenantUuid : String)
  | linesGet (lineId : ℕ) (tenantUuid : String)
  | endpointsGet (tech resource : String)
  | channelsOriginate (arguments : OriginateArguments)
  | channelsGet (channelId : Option String)
  /-- `make_call_from_channel` -/
  | makeCall (channelId : String)
  | newQueue
  | getQueue (dialEchoRequestId : String)
  | popQueue (dialEchoRequestId : String)
  | queueGet (queue timeout : ℕ)
  | queuePut (queue : ℕ) (result : DialEchoResult)

/-- Of the dialplan the priorities are answered, of an endpoint its state, of a channel its
id. -/
@[reducible] def EchoRequest.Reply : EchoRequest → Type
  | .showDialplan .. => List String
  | .usersGet .. => ConfdUser
  | .linesGet .. => ConfdLine
  | .endpointsGet .. => String
  | .channelsOriginate _ => String
  | .channelsGet _ => String
  | .makeCall _ => Unit
  | .newQueue => String
  | .getQueue _ => Option ℕ
  | .popQueue _ => Unit
  | .queueGet .. => DialEchoResult
  | .queuePut .. => Unit

/-- The requests that the manager has nothing to do with. -/
def EchoRequest.Outer : EchoRequest → Prop
  | .newQueue | .getQueue _ | .popQueue _ | .queueGet .. | .queuePut .. => False
  | _ => True

/-- What is raised; `httpError` is an answer with a status, and `requestException` is none. -/
inductive EchoExn where
  | ariNotFound
  | ariError
  | amidProtocolError
  | httpError (status : ℕ)
  | requestException
  | wazoAmidError
  | wazoConfdUnreachable
  | invalidExtension (context exten : String)
  | invalidUserUuid (uuid : String)
  | invalidUserLine (uuid : String) (lineId : ℕ)
  | userMissingMainLine (uuid : String)
  | callCreationError (message : String) (details : List (String × String))
  | callOriginUnavailableError (lineId : ℕ) (sourceInterface : String)
  | emptyQueue
  | dialEchoTimeout
  | dialEchoFailure (result : DialEchoResult)
  | keyError
  deriving DecidableEq, Repr

abbrev EchoCode (α : Type) : Type := Interactive EchoRequest EchoRequest.Reply EchoExn α

def send (r : EchoRequest) : EchoCode r.Reply := request r

def EchoExn.isNotFound (e : EchoExn) : Bool := e = .ariNotFound

/-! ## `DialEchoManager` -/

/-- `new_dial_echo_request`. -/
def newDialEchoRequest : EchoCode String := send .newQueue

/-- `wait`; nothing is waited for when the request is unknown. -/
def wait (dialEchoRequestId : String) (timeout : ℕ) : EchoCode (Option String) := do
  match ← send (.getQueue dialEchoRequestId) with
  | none => pure none
  | some queue =>
    let result ← tryCatch (send (.queueGet queue timeout)) fun e => do
      if e = .emptyQueue then
        send (.popQueue dialEchoRequestId)
        throw .dialEchoTimeout
      else throw e
    match result.channelId with
    | none => do
      send (.popQueue dialEchoRequestId)
      throw (.dialEchoFailure result)
    | some channelId => do
      send (.popQueue dialEchoRequestId)
      pure (some channelId)

/-- `set_dial_echo_result`. -/
def setDialEchoResult (dialEchoRequestId : String) (result : DialEchoResult) : EchoCode Unit := do
  match ← send (.getQueue dialEchoRequestId) with
  | none => pure ()
  | some queue => send (.queuePut queue result)

/-- What `_set_dial_echo_result` reads of an event. -/
structure UserEvent where
  userEvent : Option String
  wazoDialEchoRequestId : Option String
  channelId : Option String

/-- The handler of `UserEvent`. -/
def onUserEvent (event : UserEvent) : EchoCode Unit :=
  match event.userEvent with
  | none => throw .keyError
  | some name =>
    if name ≠ "dial_echo" then pure ()
    else
      match event.wazoDialEchoRequestId, event.channelId with
      | some dialEchoRequestId, some channelId =>
        setDialEchoResult dialEchoRequestId ⟨some channelId⟩
      | _, _ => throw .keyError

/-! ## The helpers -/

/-- `ami.extension_exists`. -/
def extensionExists (context exten : String) (priority : ℕ) : EchoCode Bool :=
  tryCatch (do
    let priorities ← send (.showDialplan context exten)
    pure (decide (toString priority ∈ priorities))) fun
  | .amidProtocolError => pure false
  | .httpError _ | .requestException => throw .wazoAmidError
  | e => throw e

/-- `User`, of a request in a tenant. -/
structure User where
  uuid : String
  tenantUuid : String

namespace User

/-- `users.get`, with the errors that every method of `User` makes of it. -/
def get (user : User) : EchoCode ConfdUser :=
  tryCatch (send (.usersGet user.uuid user.tenantUuid)) fun
  | .httpError 404 => throw (.invalidUserUuid user.uuid)
  | .requestException => throw .wazoConfdUnreachable
  | e => throw e

def assertExists (user : User) : EchoCode Unit := do
  let _ ← user.get
  pure ()

def mobilePhoneNumber (user : User) : EchoCode (Option String) := do
  pure (← user.get).mobilePhoneNumber

def mainLine (user : User) : EchoCode ℕ := do
  match (← user.get).lines with
  | [] => throw (.userMissingMainLine user.uuid)
  | lineId :: _ => pure lineId

def line (user : User) (lineId : ℕ) : EchoCode ℕ := do
  if lineId ∈ (← user.get).lines then pure lineId
  else throw (.invalidUserLine user.uuid lineId)

/-- `Line._get`. -/
def lineGet (user : User) (lineId : ℕ) : EchoCode ConfdLine :=
  tryCatch (send (.linesGet lineId user.tenantUuid)) fun
  | .requestException => throw .wazoConfdUnreachable
  | e => throw e

/-- `Line.is_online`. -/
def lineIsOnline (user : User) (lineId : ℕ) : EchoCode Bool := do
  let line ← user.lineGet lineId
  let tech := if line.protocol = "sip" then "pjsip" else line.protocol
  let state ← send (.endpointsGet tech line.name)
  pure (decide (state = "online"))

end User

/-! ## `originate` -/

structure CallDestination where
  context : String
  extension : String
  priority : ℕ

/-- The source of a call request; `auto_answer` has no default for the users' own requests. -/
structure CallSource where
  user : String
  fromMobile : Bool
  allLines : Bool
  lineId : Option ℕ
  autoAnswer : Option Bool

structure CallRequest where
  source : CallSource
  destination : CallDestination
  variables_ : Effect.Dict String String

/-- What is set of a call beside its serialization. -/
structure OriginatedCall where
  channelId : String
  dialedExtension : String
  deriving DecidableEq, Repr

/-- `variables.setdefault`, for several variables. -/
def setdefaults (variables_ : Effect.Dict String String) (defaults : List (String × String)) :
    Effect.Dict String String :=
  defaults.foldl (fun d p => d.setdefault p.1 p.2) variables_

/-- `'"{exten}" <{exten}>'.format(exten=exten)`. -/
def callerIdOf (exten : String) : String := "\"" ++ exten ++ "\" <" ++ exten ++ ">"

/-- A string that is neither missing nor empty. -/
def present (s : Option String) : Option String := s.filter (· ≠ "")

/-- The variables of an originate from a mobile, with the defaults for those not given. -/
def mobileVariables (user : User) (request : CallRequest)
    (sourceMobile sourceContext dialEchoRequestId : String) : Effect.Dict String String :=
  setdefaults request.variables_ [
    ("_WAZO_USERUUID", user.uuid),
    ("_WAZO_TENANT_UUID", user.tenantUuid),
    ("WAZO_DEREFERENCED_USERUUID", user.uuid),
    ("WAZO_ORIGINATE_MOBILE_PRIORITY", "1"),
    ("WAZO_ORIGINATE_MOBILE_EXTENSION", sourceMobile),
    ("WAZO_ORIGINATE_MOBILE_CONTEXT", sourceContext),
    ("XIVO_FIX_CALLERID", "1"),
    ("XIVO_ORIGINAL_CALLER_ID", callerIdOf request.destination.extension),
    ("WAZO_ORIGINATE_DESTINATION_PRIORITY", toString request.destination.priority),
    ("WAZO_ORIGINATE_DESTINATION_EXTENSION", request.destination.extension),
    ("WAZO_ORIGINATE_DESTINATION_CONTEXT", request.destination.context),
    ("WAZO_ORIGINATE_DESTINATION_CALLERID_ALL", callerIdOf sourceMobile),
    ("_WAZO_DIAL_ECHO_REQUEST_ID", dialEchoRequestId)]

/-- The branch of `originate` for a mobile: the channel that answers. -/
def originateFromMobile (user : User) (request : CallRequest) : EchoCode String := do
  match present (← user.mobilePhoneNumber) with
  | none => throw (.callCreationError "User has no mobile phone number" [("user", user.uuid)])
  | some sourceMobile =>
    let sourceContext := (← user.lineGet (← user.mainLine)).context
    if ← extensionExists sourceContext sourceMobile 1 then
      let dialEchoRequestId ← newDialEchoRequest
      let _ ← send (.channelsOriginate {
        endpoint := "local/s@wazo-originate-mobile-leg1/n"
        extension := "s"
        context := "wazo-originate-mobile-leg2"
        priority := 1
        variables_ := mobileVariables user request sourceMobile sourceContext dialEchoRequestId })
      let channelId ← tryCatch (wait dialEchoRequestId 5) fun e =>
        if e = .dialEchoTimeout then
          throw (.callCreationError "Could not dial mobile number"
            [("mobile_extension", sourceMobile), ("mobile_context", sourceContext)])
        else throw e
      send (.channelsGet channelId)
    else
      throw (.callCreationError "User has invalid mobile phone number"
        [("user", user.uuid), ("mobile_exten", sourceMobile), ("mobile_context", sourceContext)])

/-- The line of a source, the main line by default. -/
def sourceLine (user : User) (source : CallSource) : EchoCode ℕ :=
  match source.lineId with
  | none => user.mainLine
  | some lineId => user.line lineId

/-- The endpoint of the lines of a user. -/
def sourceEndpoint (user : User) (source : CallSource) : EchoCode String := do
  if source.allLines then pure ("local/" ++ user.uuid ++ "@usersharedlines")
  else
    let lineId ← sourceLine user source
    let endpoint := (← user.lineGet lineId).toLineJson.interface
    if (← user.lineGet lineId).protocol = "sip" then
      if ← user.lineIsOnline lineId then pure endpoint
      else throw (.callOriginUnavailableError lineId endpoint)
    else pure endpoint

/-- The other branch: the channel of the lines of the user. -/
def originateFromLine (user : User) (request : CallRequest) : EchoCode String := do
  let endpoint ← sourceEndpoint user request.source
  let extension := request.destination.extension
  match request.source.autoAnswer with
  | none => throw .keyError
  | some autoAnswer =>
    let variables_ :=
      if autoAnswer then
        Switchboards.autoAnswerVariables.foldl (fun d p => d.set p.1 p.2) request.variables_
      else request.variables_
    let variables_ := setdefaults variables_ [
      ("XIVO_FIX_CALLERID", "1"),
      ("WAZO_USERUUID", user.uuid),
      ("_WAZO_TENANT_UUID", user.tenantUuid),
      ("CONNECTEDLINE(name)", extension),
      ("CONNECTEDLINE(num)", if extension.toList.head? = some '#' then "" else extension),
      ("CALLERID(name)", extension),
      ("CALLERID(num)", extension),
      ("WAZO_CHANNEL_DIRECTION", "to-wazo")]
    send (.channelsOriginate {
      endpoint := endpoint
      extension := extension
      context := request.destination.context
      priority := request.destination.priority
      variables_ := variables_ })

def originateChannel (user : User) (request : CallRequest) : EchoCode String :=
  if request.source.fromMobile then originateFromMobile user request
  else originateFromLine user request

/-- `_refresh_call_from_channel`. -/
def refreshCallFromChannel (channelId : String) : EchoCode Unit := do
  let _ ← catching EchoExn.isNotFound (send (.channelsGet (some channelId)))
  send (.makeCall channelId)

/-- `CallsService.originate`; the tenant is that of the request. -/
def originate (tenantUuid : String) (request : CallRequest) : EchoCode OriginatedCall := do
  let destination := request.destination
  if ← extensionExists destination.context destination.extension destination.priority then
    let user : User := ⟨request.source.user, tenantUuid⟩
    user.assertExists
    let channelId ← originateChannel user request
    refreshCallFromChannel channelId
    pure ⟨channelId, destination.extension⟩
  else throw (.invalidExtension destination.context destination.extension)

end Calld.DialEcho
