/-
# Parking calls

The operations of `ParkingService` as programs: what they ask of the channels, of the cache
of the parking lots and of the manager interface of Asterisk, one request after the other.
-/
import Calld.Parkings.Cache

namespace Calld.Parkings

open Effect Effect.Interactive

/-! ## Requests -/

/-- What the operations read of a `ParkedCall` event. -/
structure AsteriskParkedCall where
  parkeeChannel : String
  parkeeUniqueid : String
  parkerDialString : String
  parkinglot : String
  parkingSpace : String
  deriving DecidableEq

/-- The events that the manager interface answers with; a total is a numeral. -/
inductive AmiEvent where
  | parkedCall (call : AsteriskParkedCall)
  | parkedCallsComplete (total : ℕ)
  | parkinglot (name : String)
  | other
  deriving DecidableEq

/-- The action `Park`. -/
structure ParkAction where
  channel : String
  parkinglot : String
  timeout : Option ℕ
  parkingSpace : Option String
  timeoutChannel : String

inductive Request where
  | channelExists (channelId : String)
  | channelTenantUuid (channelId : String)
  | channelUser (channelId : String)
  | asteriskName (channelId : String)
  | onlyConnectedChannel (channelId : String)
  | parkings (parkingId : ℤ)
  | park (action : ParkAction)
  | parkedCalls (parkingLot : String)
  | parkinglots
  | sleep

@[reducible] def Request.Reply : Request → Type
  | .channelExists _ => Bool
  | .channelTenantUuid _ => Option String
  | .channelUser _ => Option String
  | .asteriskName _ => String
  | .onlyConnectedChannel _ => String
  | .parkings _ => ConfdParkingLot
  | .park _ => Unit
  | .parkedCalls _ => List AmiEvent
  | .parkinglots => List AmiEvent
  | .sleep => Unit

/-- How a request fails: the channel has no peer, or several; the cache raises; or the request
itself has failed. -/
inductive Failure where
  | notEnoughChannels
  | tooManyChannels
  | cache (e : Exn)
  | requestException
  deriving DecidableEq

inductive ServiceExn where
  | failure (f : Failure)
  | noSuchParking (parkingId : ℤ)
  | noSuchCall (callId : String)
  | invalidCall (callId reason : String)
  | userPermissionDenied (userUuid callId : String)
  | wazoAmidError
  | missingParkedCallsComplete
  | noSuchParkedCall (tenantUuid : String) (parkingId : ℤ) (callId : String)
  | parkingFull (tenantUuid : String) (parkingId : ℤ) (callId : String)
  | valueError
  | indexError
  deriving DecidableEq

abbrev Code (α : Type) : Type := Interactive Request Request.Reply ServiceExn α

def ask (r : Request) : Code r.Reply := request r

/-- An action of the manager interface, whose failure is a `WazoAmidError`. -/
def amidAction (r : Request) : Code r.Reply :=
  tryCatch (ask r) fun
    | .failure .requestException => throw .wazoAmidError
    | e => throw e

/-! ## Parking lots and parked calls -/

/-- The number of a list of digits. -/
def digits (cs : List Char) : Option ℤ :=
  if cs ≠ [] ∧ cs.all Char.isDigit then
    some (cs.foldl (fun n c => 10 * n + (c.toNat - 48)) 0)
  else none

/-- `int`, of a numeral without blanks and underscores; `none` is a `ValueError`. -/
def int (s : String) : Option ℤ :=
  match s.toList with
  | '-' :: cs => (digits cs).map (- ·)
  | '+' :: cs => digits cs
  | cs => digits cs

/-- `f'parkinglot-{parking.id}'`. -/
def parkingLotName (parkingId : ℤ) : String := "parkinglot-" ++ toString parkingId

/-- `get_parking`, of a tenant that is checked. -/
def getParking (tenantUuid : String) (parkingId : ℤ) : Code ConfdParkingLot := do
  let parking ← ask (.parkings parkingId)
  if parking.tenantUuid ≠ tenantUuid then
    throw (.noSuchParking parkingId)
  pure parking

/-- `list_parked_calls`. -/
def listParkedCalls (tenantUuid : String) (parkingId : ℤ) : Code (List AsteriskParkedCall) := do
  let parking ← getParking tenantUuid parkingId
  let results ← amidAction (.parkedCalls (parkingLotName parking.id))
  pure (List.filterMap (fun
    | .parkedCall call => some call
    | _ => none) results)

/-- `find_parked_call`. -/
def findParkedCall (tenantUuid : String) (parkingId : ℤ) (callId : String) :
    Code (Option AsteriskParkedCall) := do
  let calls ← listParkedCalls tenantUuid parkingId
  pure (calls.find? (·.parkeeUniqueid = callId))

/-- `get_parked_call`. -/
def getParkedCall (tenantUuid : String) (parkingId : ℤ) (callId : String) :
    Code AsteriskParkedCall := do
  match ← findParkedCall tenantUuid parkingId callId with
  | none => throw (.noSuchParkedCall tenantUuid parkingId callId)
  | some call => pure call

/-- `count_parked_calls`. -/
def countParkedCalls (tenantUuid : String) (parkingId : ℤ) : Code ℕ := do
  let parking ← getParking tenantUuid parkingId
  let results ← amidAction (.parkedCalls (parkingLotName parking.id))
  match List.getLast? results with
  | none => throw .indexError
  | some (.parkedCallsComplete total) => pure total
  | some _ => throw .missingParkedCallsComplete

/-- `1 + int(parking.slots_end) - int(parking.slots_start)`. -/
def totalSlots (parking : ConfdParkingLot) : Option ℤ := do
  let slotsEnd ← int parking.slotsEnd
  let slotsStart ← int parking.slotsStart
  pure (1 + slotsEnd - slotsStart)

/-- `is_parking_full`. -/
def isParkingFull (tenantUuid : String) (parkingId : ℤ) : Code Bool := do
  let parking ← getParking tenantUuid parkingId
  match totalSlots parking with
  | none => throw .valueError
  | some totalSlots =>
    let count ← countParkedCalls tenantUuid parkingId
    pure (totalSlots ≤ (count : ℤ))

/-! ## Park a call -/

/-- `_get_connected_channel`. -/
def getConnectedChannel (channelId : String) : Code String :=
  tryCatch (ask (.onlyConnectedChannel channelId)) fun
    | .failure .notEnoughChannels =>
      throw (.invalidCall channelId "no parkable peer call found")
    | .failure .tooManyChannels =>
      throw (.invalidCall channelId "cannot park a conference call")
    | e => throw e

def ServiceExn.isNoSuchParkedCall : ServiceExn → Bool
  | .noSuchParkedCall .. => true
  | _ => false

/-- The loop that waits until the call is parked; whether the lot is full is looked at once. -/
def awaitParked (tenantUuid : String) (parkingId : ℤ) (callId : String) :
    ℕ → Option Bool → Code AsteriskParkedCall
  | 0, _ => throw (.noSuchParkedCall tenantUuid parkingId callId)
  | retries + 1, checkFull => do
    match ← catching ServiceExn.isNoSuchParkedCall
        (getParkedCall tenantUuid parkingId callId) with
    | some call => pure call
    | none =>
      match checkFull with
      | none =>
        let full ← isParkingFull tenantUuid parkingId
        if full then
          throw (.parkingFull tenantUuid parkingId callId)
        ask .sleep
        awaitParked tenantUuid parkingId callId retries (some full)
      | some full =>
        ask .sleep
        awaitParked tenantUuid parkingId callId retries (some full)

def checkParkingMaxRetries : ℕ := 5

/-- What `_park_channel` asks for before the action. -/
def parkPayload (parkee : String) (parking : ConfdParkingLot) (tenantUuid : String)
    (preferredSlot : Option String) (timeout : Option ℕ) : Code ParkAction := do
  let channel ← ask (.asteriskName parkee)
  let parkedCall ← findParkedCall tenantUuid parking.id parkee
  let timeoutChannel ← match parkedCall with
    | none => do
      let callbackChannel ← getConnectedChannel parkee
      ask (.asteriskName callbackChannel)
    | some call => pure call.parkerDialString
  pure ⟨channel, parkingLotName parking.id, timeout.map (· * 1000),
    preferredSlot.filter (· ≠ ""), timeoutChannel⟩

/-- `_park_channel`. -/
def parkChannel (parkee : String) (parking : ConfdParkingLot) (tenantUuid : String)
    (preferredSlot : Option String) (timeout : Option ℕ) : Code AsteriskParkedCall := do
  let payload ← parkPayload parkee parking tenantUuid preferredSlot timeout
  amidAction (.park payload)
  awaitParked tenantUuid parking.id parkee checkParkingMaxRetries none

/-- `park_call`. -/
def parkCall (parkingId : ℤ) (callId tenantUuid : String) (preferredSlot : Option String)
    (timeout : Option ℕ) : Code AsteriskParkedCall := do
  if !(← ask (.channelExists callId)) then
    throw (.noSuchCall callId)
  if (← ask (.channelTenantUuid callId)) ≠ some tenantUuid then
    throw (.noSuchCall callId)
  let parking ← getParking tenantUuid parkingId
  parkChannel callId parking tenantUuid preferredSlot timeout

/-- `user_park_call`. -/
def userParkCall (userUuid : String) (parkingId : ℤ) (callId : String)
    (preferredSlot : Option String) (timeout : Option ℕ) : Code AsteriskParkedCall := do
  if !(← ask (.channelExists callId)) then
    throw (.noSuchCall callId)
  if (← ask (.channelUser callId)) ≠ some userUuid then
    throw (.userPermissionDenied userUuid callId)
  match ← ask (.channelTenantUuid callId) with
  | none => throw (.invalidCall callId "call has no tenant_uuid")
  | some "" => throw (.invalidCall callId "call has no tenant_uuid")
  | some tenantUuid =>
    let parking ← getParking tenantUuid parkingId
    let collocutor ← getConnectedChannel callId
    parkChannel collocutor parking tenantUuid preferredSlot timeout

/-! ## List the parking lots -/

/-- `split_parking_id_from_name`; `none` for a name that is not of a parking lot. -/
def splitParkingIdFromName (name : String) : Option ℤ :=
  if "parkinglot-".toList <+: name.toList then
    int (String.ofList (name.toList.drop "parkinglot-".length))
  else none

/-- `list_parkings`, from the events of `Parkinglots` on. -/
def parkingsOf (tenantUuid : String) : List AmiEvent → Code (List ConfdParkingLot)
  | [] => pure []
  | .parkinglot name :: results =>
    match splitParkingIdFromName name with
    | none => parkingsOf tenantUuid results
    | some parkingId => do
      let parking ← ask (.parkings parkingId)
      let others ← parkingsOf tenantUuid results
      pure (if parking.tenantUuid = tenantUuid then parking :: others else others)
  | _ :: results => parkingsOf tenantUuid results

/-- `list_parkings`. -/
def listParkings (tenantUuid : String) : Code (List ConfdParkingLot) := do
  let results ← amidAction .parkinglots
  parkingsOf tenantUuid results

end Calld.Parkings
