/-
# The transfers in Asterisk's global variables

`StatePersistor` keeps a transfer in the variable `XIVO_TRANSFERS_<id>` and the ids of all
transfers in `XIVO_TRANSFERS_INDEX`, both as JSON texts.  Here the variables are what they are for
Asterisk: strings with strings for names, the empty one when a variable is not set.
-/
import Calld.Transfers.JsonText
import Calld.Effect.Machine

namespace Calld.Transfers

open Effect Effect.Program

/-! ## The adapters of `plugin_helpers/ari_.py` -/

/-- Asterisk's global variables; one that is not set reads as the empty string. -/
abbrev Globals := String → String

/-- What Python leaves open: the floats, the order in which `list` enumerates a `set`, and the
next value of `uuid4`. -/
structure Python where
  reprFloat : String → String
  setOrder : List String → List String
  setOrder_perm : ∀ ids, (setOrder ids).Perm ids
  uuid4 : String

/-- Code on the global variables. -/
abbrev Access := Effect.Program Python Globals Exn

namespace GlobalVariableAdapter

def get (name : String) : Access String := look fun g => g name

def set (name value : String) : Access Unit := change fun g => Function.update g name value

/-- `GLOBAL_DELETE`. -/
def unset (name : String) : Access Unit := change fun g => Function.update g name ""

end GlobalVariableAdapter

namespace GlobalVariableJsonAdapter

def get (name : String) (default : Option Json) : Access Json := do
  let value ← GlobalVariableAdapter.get name
  if value = "" then
    match default with
    | none => throw .keyError
    | some default => return default
  else
    match ← ask fun python => Json.loads python.reprFloat value with
    | some v => return v
    | none => throw .valueError

def set (name : String) (value : Json) : Access Unit :=
  GlobalVariableAdapter.set name value.dumps

def unset (name : String) : Access Unit := GlobalVariableAdapter.unset name

end GlobalVariableJsonAdapter

/-- `'XIVO_TRANSFERS_{}'.format(id)`. -/
def transferVariable (id : TransferId) : String := "XIVO_TRANSFERS_" ++ id

def indexVariable : String := "XIVO_TRANSFERS_INDEX"

/-! ## `Transfer.to_internal_dict` and `from_dict` -/

def Status.name : Status → String
  | ready => "ready"
  | nonStasis => "non_stasis"
  | noneMovedToStasis => "none_moved_to_stasis"
  | initiatorMovedToStasis => "initiator_moved_to_stasis"
  | transferredMovedToStasis => "transferred_moved_to_stasis"
  | noneMovedToStasisCancelled => "none_moved_to_stasis_cancelled"
  | initiatorMovedToStasisCancelled => "initiator_moved_to_stasis_cancelled"
  | transferredMovedToStasisCancelled => "transferred_moved_to_stasis_cancelled"
  | ringback => "ringback"
  | blindTransferred => "blind_transferred"
  | answered => "answered"
  | abandoned => "abandoned"
  | ended => "ended"
  | starting => "starting"
  | invalid => "invalid"

def Flow.name : Flow → String
  | attended => "attended"
  | blind => "blind"

/-- A string, or `None`. -/
def optional (s : Option String) : Json := s.elim .null .str

def Transfer.toInternalDict (t : Transfer) : Json :=
  .obj [("id", .str t.id),
    ("initiator_uuid", .str t.initiatorUuid),
    ("initiator_tenant_uuid", optional t.initiatorTenantUuid),
    ("transferred_call", .str t.transferredCall.name),
    ("initiator_call", .str t.initiatorCall.name),
    ("recipient_call", optional (t.recipientCall.map (·.name))),
    ("transfer_bridge_id", .str t.transferBridgeId),
    ("status", .str t.status.name),
    ("flow", .str t.flow.name)]

/-- The transfers that `Transfer.__init__` makes: an empty id is replaced by a new one, and an
empty bridge id by the id. -/
structure BuiltTransfer extends Transfer where
  id_ne : id ≠ ""
  bridge_ne : transferBridgeId ≠ ""

namespace Transfer

/-- `dict_[name]`. -/
def field (v : Json) (name : String) : Access Json :=
  match v with
  | .obj fields =>
    match Dict.get? fields name with
    | some v => pure v
    | none => throw .keyError
  | _ => throw .typeError

/-- The value of a field; the plugin writes no values of other types. -/
def typed {α : Type} (v : Option α) : Access α :=
  match v with
  | some a => pure a
  | none => throw .typeError

def readStr : Json → Option String
  | .str s => some s
  | _ => none

def readOptional : Json → Option (Option String)
  | .null => some none
  | .str s => some (some s)
  | _ => none

def readChannel (v : Json) : Option ChannelId :=
  (readStr v).bind fun s => if h : s ≠ "" then some ⟨s, h⟩ else none

def readRecipient : Json → Option (Option ChannelId)
  | .null => some none
  | v => (readChannel v).map some

def statuses : List Status :=
  [.ready, .nonStasis, .noneMovedToStasis, .initiatorMovedToStasis, .transferredMovedToStasis,
    .noneMovedToStasisCancelled, .initiatorMovedToStasisCancelled,
    .transferredMovedToStasisCancelled, .ringback, .blindTransferred, .answered, .abandoned,
    .ended, .starting, .invalid]

def readStatus (v : Json) : Option Status :=
  (readStr v).bind fun s => statuses.find? (·.name = s)

def readFlow (v : Json) : Option Flow :=
  (readStr v).bind fun s => [Flow.attended, Flow.blind].find? (·.name = s)

/-- `Transfer.from_dict`. -/
def fromDict (v : Json) : Access Transfer := do
  let id ← typed (readStr (← field v "id"))
  let initiatorUuid ← typed (readStr (← field v "initiator_uuid"))
  let initiatorTenantUuid ← typed (readOptional (← field v "initiator_tenant_uuid"))
  let transferredCall ← typed (readChannel (← field v "transferred_call"))
  let initiatorCall ← typed (readChannel (← field v "initiator_call"))
  let recipientCall ← typed (readRecipient (← field v "recipient_call"))
  let flow ← typed (readFlow (← field v "flow"))
  let transferBridgeId ← typed (readStr (← field v "transfer_bridge_id"))
  let newId ← ask Python.uuid4
  let id := if id = "" then newId else id
  let status ← typed (readStatus (← field v "status"))
  return ⟨id, initiatorUuid, initiatorTenantUuid, transferredCall, initiatorCall, recipientCall,
    if transferBridgeId = "" then id else transferBridgeId, status, flow⟩

end Transfer

/-! ## `StatePersistor` -/

namespace GlobalPersistor

/-- The elements of what the index variable holds: a list of ids; or a dictionary, whose keys
they are. -/
def elements : Json → Access (List String)
  | .arr items => Transfer.typed (items.mapM Transfer.readStr)
  | .obj fields => pure (fields.map (·.1))
  | _ => throw .typeError

/-- `self._index.get(default=[])`. -/
def getIndex : Access (List String) := do
  elements (← GlobalVariableJsonAdapter.get indexVariable (some (.arr [])))

/-- `self._index.set(list(index))`. -/
def setIndex (ids : List String) : Access Unit := do
  let order ← ask Python.setOrder
  GlobalVariableJsonAdapter.set indexVariable (.arr ((order ids).map .str))

def get (id : TransferId) : Access Transfer := do
  Transfer.fromDict (← GlobalVariableJsonAdapter.get (transferVariable id) none)

def upsert (t : Transfer) : Access Unit := do
  GlobalVariableJsonAdapter.set (transferVariable t.id) t.toInternalDict
  let index ← getIndex
  setIndex (index.dedup.insert t.id)

def remove (id : TransferId) : Access Unit := do
  GlobalVariableJsonAdapter.unset (transferVariable id)
  let index ← getIndex
  if id ∈ index then setIndex (index.dedup.erase id)

/-- The loop of `list`. -/
def collect : List TransferId → Access (List Transfer)
  | [] => pure []
  | id :: ids => do
    match ← catching Exn.isKeyError (get id) with
    | some t => return t :: (← collect ids)
    | none => collect ids

def list : Access (List Transfer) := do
  let index ← getIndex
  collect index

def getByChannel (c : ChannelId) : Access Transfer := do
  match (← list).find? (·.names c) with
  | some t => pure t
  | none => throw .keyError

end GlobalPersistor

/-! ## The operations one after the other -/

/-- The operations of the store. -/
inductive StoreOp where
  | upsert (t : BuiltTransfer)
  | remove (id : TransferId)
  | get (id : TransferId)
  | getByChannel (c : ChannelId)
  | list

/-- What an operation returns. -/
inductive StoreReply where
  | done
  | transfer (t : Transfer)
  | transfers (ts : List Transfer)
  deriving DecidableEq, Repr

def StoreOp.code : StoreOp → Access StoreReply
  | upsert t => do
    GlobalPersistor.upsert t.toTransfer
    return .done
  | remove id => do
    GlobalPersistor.remove id
    return .done
  | get id => do return .transfer (← GlobalPersistor.get id)
  | getByChannel c => do return .transfer (← GlobalPersistor.getByChannel c)
  | list => do return .transfers (← GlobalPersistor.list)

/-- The abstract store: a map from ids to transfers. -/
abbrev TransferMap := TransferId → Option Transfer

/-- What an operation does to the map. -/
def StoreOp.effect : StoreOp → TransferMap → TransferMap
  | upsert t, m => Function.update m t.id (some t.toTransfer)
  | remove id, m => Function.update m id none
  | _, m => m

/-- What an operation answers for a map. -/
def StoreOp.Answers (m : TransferMap) : StoreOp → Except Exn StoreReply → Prop
  | upsert _, a | remove _, a => a = .ok .done
  | get id, a => a = (m id).elim (.error .keyError) fun t => .ok (.transfer t)
  | getByChannel c, a =>
    (∃ t, a = .ok (.transfer t) ∧ m t.id = some t ∧ t.names c = true) ∨
      a = .error .keyError ∧ ∀ id t, m id = some t → t.names c = false
  | list, a => ∃ ts : List Transfer, a = .ok (.transfers ts) ∧ ts.Nodup ∧
      (∀ t ∈ ts, m t.id = some t) ∧ ∀ id t, m id = some t → t ∈ ts

/-- The variables, the map that they stand for, and the last operation with its answer. -/
structure Store where
  globals : Globals
  map : TransferMap
  last : Option (StoreOp × Except Exn StoreReply)

/-- One operation after the other, from no variables. -/
def storeMachine : Machine Store (Python × StoreOp) where
  init s := s.globals = (fun _ => "") ∧ s.map = (fun _ => none) ∧ s.last = none
  step
    | (python, op), s =>
      let r := op.code python s.globals
      some ⟨r.2, op.effect s.map, some (op, r.1)⟩

/-- The store answers as the map does. -/
def Store.Refines (s : Store) : Prop := ∀ op a, s.last = some (op, a) → op.Answers s.map a

/-- The operations that name a transfer name another one than `INDEX`. -/
def StoreOp.Plain (op : StoreOp) : Prop :=
  match op with
  | upsert t => t.id ≠ "INDEX"
  | remove id | get id => id ≠ "INDEX"
  | _ => True

end Calld.Transfers
