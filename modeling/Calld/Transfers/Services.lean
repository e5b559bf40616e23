/-
# The service behind the API

`services.py`: what the HTTP resources do.
-/
import Calld.Transfers.State

namespace Calld.Transfers

open Effect.Program
open AriHelpers (StartArgs)

/-- The arguments of `TransfersService.create`. -/
structure CreateRequest where
  transferredCall : ChannelId
  initiatorCall : ChannelId
  context : String
  exten : String
  flow : Flow
  vars : Decoded
  timeout : Option ℤ

/-- `try: p  except KeyError: raise NoSuchTransfer(transfer_id)`. -/
def orNoSuchTransfer {α : Type} (id : TransferId) (p : Code α) : Code α := do
  match ← catching Exn.isKeyError p with
  | some a => return a
  | none => throw (.noSuchTransfer id)

namespace TransfersService

/-- The checks of `create`, up to `transfer_lock.acquire`. -/
def createChecks (r : CreateRequest) : Code Unit := do
  orRaise (do
    let _ ← ari (.channelsGet (some r.transferredCall))
    let _ ← ari (.channelsGet (some r.initiatorCall))) (.transferCreationError "channel not found")
  if !(← Ami.extensionExists r.context r.exten) then
    throw (.invalidExtension r.context r.exten)
  if !(← TransferLock.acquire r.initiatorCall) then
    throw (.transferAlreadyStarted r.initiatorCall)

/-- The state class in which a new transfer starts. -/
def initialState (r : CreateRequest) : Code Status := do
  if ← Channel.isInStasis r.transferredCall then
    if ← Channel.isInStasis r.initiatorCall then
      return .ready
  return .nonStasis

/-- The body of the `with` statement of `create`. -/
def createStart (r : CreateRequest) (state : Transfer) : Code Transfer := do
  let newState ← onRaise (callWith ⟨r.context, r.exten, r.vars, r.timeout⟩ .start state)
    (abort state r.initiatorCall)
  notify .created newState
  if r.flow = .blind then
    call .complete newState
  else
    return newState

/-- The record of a new transfer. -/
def newTransfer (r : CreateRequest) (initiatorUuid : UserUuid) : Code Transfer := do
  let initiatorTenantUuid ← Channel.tenantUuid r.initiatorCall
  let id ← ask Env.uuid4
  return .init id initiatorUuid initiatorTenantUuid r.initiatorCall r.transferredCall r.flow

/-- The rest of `create`, once the lock is taken. -/
def createLocked (r : CreateRequest) : Code Transfer := do
  match ← Channel.user r.initiatorCall with
  | none => throw (.transferCreationError "initiator has no user UUID")
  | some initiatorUuid =>
    let transfer ← newTransfer r initiatorUuid
    let stateClass ← initialState r
    StateFactory.makeFromClass stateClass transfer (createStart r)

def create (r : CreateRequest) : Code Transfer := do
  createChecks r
  createLocked r

/-! ## Creation by a user -/

/-- How the helpers over confd report a failure of `users.get`. -/
def usersGetError (uuid : UserUuid) : ConfdError → Exn
  | .notFound => .invalidUserUuid uuid
  | .httpError => .confdHttpError
  | .requestException => .wazoConfdUnreachable

/-- How the helpers over confd report a failure of `lines.get`. -/
def linesGetError : ConfdError → Exn
  | .notFound | .httpError => .confdHttpError
  | .requestException => .wazoConfdUnreachable

/-- `User(user_uuid, confd_client).main_line().context()`: the tenant is fetched first. -/
def mainLineContext (uuid : UserUuid) : Code String := do
  let _ ← confd (.usersGet uuid) (usersGetError uuid)
  let user ← confd (.usersGet uuid) (usersGetError uuid)
  match user.lines with
  | [] => throw (.userMissingMainLine uuid)
  | line :: _ => confd (.linesGet line) linesGetError

/-- The channel to transfer: the only one the initiator is talking to. -/
def transferredCandidate (initiatorCall : ChannelId) : Code ChannelId :=
  tryCatch (Channel.onlyConnectedChannel initiatorCall) fun
    | .tooManyChannels channels => throw (.tooManyTransferredCandidates channels)
    | .notEnoughChannels => throw (.transferCreationError "transferred channel not found")
    | e => throw e

def createFromUser (initiatorCall : ChannelId) (exten : String) (flow : Flow)
    (timeout : Option ℤ) (userUuid : UserUuid) : Code Transfer := do
  if !(← Channel.exists (some initiatorCall)) then
    throw (.transferCreationError "initiator channel not found")
  if (← Channel.user initiatorCall) ≠ some userUuid then
    throw (.userPermissionDenied userUuid)
  let transferredCall ← transferredCandidate initiatorCall
  let context ← mainLineContext userUuid
  create ⟨transferredCall, initiatorCall, context, exten, flow, .object [], timeout⟩

/-! ## Requests on a transfer -/

def get (id : TransferId) : Code Transfer := orNoSuchTransfer id (StatePersistor.get id)

/-- The transfer, provided that the user initiated it. -/
def getOwned (id : TransferId) (userUuid : UserUuid) : Code Unit := do
  let transfer ← get id
  if transfer.initiatorUuid ≠ userUuid then
    throw (.userPermissionDenied userUuid)

def complete (id : TransferId) : Code Unit :=
  orNoSuchTransfer id (StateFactory.make id fun state => do
    let _ ← call .complete state)

def completeFromUser (id : TransferId) (userUuid : UserUuid) : Code Unit := do
  getOwned id userUuid
  StateFactory.make id fun state => do
    let _ ← call .complete state

def cancel (id : TransferId) : Code Unit :=
  orNoSuchTransfer id (StateFactory.make id fun state => do
    let _ ← call .cancel state)

def cancelFromUser (id : TransferId) (userUuid : UserUuid) : Code Unit := do
  getOwned id userUuid
  orNoSuchTransfer id (StateFactory.make id fun state => do
    let _ ← call .cancel state)

end TransfersService

end Calld.Transfers
