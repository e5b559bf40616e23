/-
# The stored transfers and the lock on initiators

`StatePersistor` keeps the transfers in Asterisk's global variables: one variable for
each transfer, and one for the index of their ids.  `TransferLock` keeps the set of
initiators that have a transfer in the memory of the process.
-/
import Calld.Transfers.System

namespace Calld.Transfers

open Effect.Program

/-! ## `StatePersistor` -/

namespace StatePersistor

/-- The read of a global variable through the JSON adapter: a variable that ARI does not
find raises `KeyError`, with or without a default. -/
def readGlobal (x : GlobalVariable) : Code Unit := do
  match ← catching Exn.isARINotFound (ari (.getGlobalVar x)) with
  | some _ => pure ()
  | none => throw .keyError

def get (id : TransferId) : Code Transfer := do
  readGlobal (.transfer id)
  match ← look fun s => s.asterisk.records id with
  | some t => pure t
  | none => throw .keyError

def getIndex : Code (List TransferId) := do
  readGlobal .index
  look fun s => s.asterisk.index

/-- `list(index)` for the `set` of the given ids. -/
def setIndex (ids : List TransferId) : Code Unit := do
  let order ← ask Env.setOrder
  ari (.setGlobalVar (.setIndex (order ids)))

/-- The write of the variable of a transfer. -/
def set (t : Transfer) : Code Unit := do
  ari (.setGlobalVar (.setTransfer t))
  record (.stored t.id)

def upsert (t : Transfer) : Code Unit := do
  set t
  let index ← getIndex
  setIndex (index.dedup.insert t.id)

/-- The deletion of the variable of a transfer. -/
def unset (id : TransferId) : Code Unit := do
  let stored ← look fun s => (s.asterisk.records id).isSome
  ari (.setGlobalVar (.unsetTransfer id))
  if stored then record (.removed id)

def remove (id : TransferId) : Code Unit := do
  unset id
  let index ← getIndex
  if id ∈ index then setIndex (index.dedup.erase id)

/-- The loop of `list`: an id whose variable is missing is skipped. -/
def collect : List TransferId → Code (List Transfer)
  | [] => pure []
  | id :: ids => do
    match ← catching Exn.isKeyError (get id) with
    | some t => return t :: (← collect ids)
    | none => collect ids

def list : Code (List Transfer) := do
  let index ← getIndex
  collect index

def getByChannel (c : ChannelId) : Code Transfer := do
  match (← list).find? (·.names c) with
  | some t => pure t
  | none => throw .keyError

end StatePersistor

/-- The transfers that `StatePersistor.list` returns when ARI answers. -/
def Asterisk.live (a : Asterisk) : List Transfer := a.index.filterMap a.records

/-! ## `TransferLock` -/

namespace TransferLock

def acquire (call : ChannelId) : Code Bool := do
  if call ∈ (← look System.lockedCalls) then
    return false
  change fun s => { s with lockedCalls := insert call s.lockedCalls }
  return true

def release (call : ChannelId) : Code Unit :=
  change fun s => { s with lockedCalls := s.lockedCalls.erase call }

end TransferLock

end Calld.Transfers
