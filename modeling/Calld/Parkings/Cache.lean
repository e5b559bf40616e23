/-
# The cache of the parking lots

`ParkingLotCache` keeps the parking lots of confd by their ids, and for ten seconds the ids
whose lookup has failed.  A lookup is a sequence of accesses to the two dictionaries, with
one request to confd; other lookups, and the events that invalidate a lot, may come between
any two of them.
-/
import Calld.Effect.Changes
import Calld.Effect.Dict
import Calld.Effect.Interactive

namespace Calld.Parkings

open Effect Effect.Interactive

/-! ## Parking lots -/

structure ConfdParkingExtension where
  id : ℤ
  exten : String
  context : String
  deriving DecidableEq

/-- `ConfdParkingLot`. -/
structure ConfdParkingLot where
  id : ℤ
  tenantUuid : String
  name : String
  slotsStart : String
  slotsEnd : String
  timeout : String
  musicOnHold : String
  extensions : List ConfdParkingExtension
  deriving DecidableEq

/-- What a lookup raises. -/
inductive Exn where
  | keyError
  | httpError (status : ℕ)
  | requestException
  | noSuchParking (parkingId : ℤ)
  | wazoConfdUnreachable
  deriving DecidableEq

/-- What confd answers to `parking_lots.get`: the lot, an HTTP status, or nothing. -/
inductive ConfdAnswer where
  | found (lot : ConfdParkingLot)
  | status (code : ℕ)
  | unreachable
  deriving DecidableEq

/-- The answer for a lot of an id, as the client returns or raises it. -/
def ConfdAnswer.reply (parkingId : ℤ) : ConfdAnswer → Except Exn ConfdParkingLot
  | .found lot => .ok { lot with id := parkingId }
  | .status code => .error (.httpError code)
  | .unreachable => .error .requestException

def toNsec (seconds : ℕ) : ℕ := seconds * 1_000_000_000

/-- `_TTLEntry`. -/
structure TTLEntry where
  hits : ℕ
  expiration : ℕ
  deriving DecidableEq

/-- The entry made at a time. -/
def TTLEntry.new (ttl now : ℕ) : TTLEntry := ⟨0, now + toNsec ttl⟩

/-- `refresh`, with its default. -/
def TTLEntry.refresh (entry : TTLEntry) (now : ℕ) : TTLEntry := ⟨entry.hits + 1, now + toNsec 10⟩

/-! ## Lookups -/

/-- The steps of a lookup.  An access to an entry is one step, also where it takes the lock. -/
inductive CacheRequest where
  | monotonicNs
  | invalidIds
  | expiration (index : ℤ)
  | evict (index : ℤ)
  | isInvalid (parkingId : ℤ)
  | refresh (parkingId : ℤ)
  | isCached (parkingId : ℤ)
  | get (parkingId : ℤ)
  | store (parking : ConfdParkingLot)
  | addInvalid (parkingId : ℤ)
  | cached (parkingId : ℤ)

@[reducible] def CacheRequest.Reply : CacheRequest → Type
  | .monotonicNs => ℕ
  | .invalidIds => List ℤ
  | .expiration _ => ℕ
  | .evict _ => Unit
  | .isInvalid _ => Bool
  | .refresh _ => Unit
  | .isCached _ => Bool
  | .get _ => ConfdParkingLot
  | .store _ => Unit
  | .addInvalid _ => Unit
  | .cached _ => ConfdParkingLot

abbrev Lookup (α : Type) : Type := Interactive CacheRequest CacheRequest.Reply Exn α

def send (r : CacheRequest) : Lookup r.Reply := request r

/-- `evict_expired`. -/
def evictExpired : Lookup Unit := do
  let now ← send .monotonicNs
  let keys ← send .invalidIds
  List.forM keys fun index => do
    let expiration ← send (.expiration index)
    if expiration ≤ now then
      send (.evict index)

/-- What `_fetch_parking_lot` raises for an exception of the client. -/
def fetchError (parkingId : ℤ) : Exn → Exn
  | .httpError code => if code = 404 then .noSuchParking parkingId else .httpError code
  | .requestException => .wazoConfdUnreachable
  | e => e

/-- `_fetch_parking_lot`. -/
def fetchParkingLot (parkingId : ℤ) : Lookup ConfdParkingLot := do
  let parking ← tryCatch (send (.get parkingId)) fun e => throw (fetchError parkingId e)
  send (.store parking)
  pure parking

/-- `__getitem__`. -/
def getitem (parkingId : ℤ) : Lookup ConfdParkingLot := do
  evictExpired
  if ← send (.isInvalid parkingId) then
    send (.refresh parkingId)
    throw (.noSuchParking parkingId)
  if !(← send (.isCached parkingId)) then
    tryCatch (fetchParkingLot parkingId) fun e => do
      send (.addInvalid parkingId)
      throw e
  else
    send (.cached parkingId)

/-! ## The two dictionaries -/

/-- What has been said of an id: confd has answered a lookup of it, a lookup of it has failed,
or one has found it invalid; with the time, and the time read when the lookup began. -/
inductive Said where
  | answered (parkingId : ℤ) (answer : ConfdAnswer) (time : ℕ)
  | failed (parkingId : ℤ) (time : ℕ)
  | hit (parkingId : ℤ) (began time : ℕ)
  deriving DecidableEq

/-- The two dictionaries and the clock.  For the statements: how often every id has been
invalidated, how often it had been when confd served the cached lot, and what has been said
of the ids. -/
structure CacheWorld where
  cache : Dict ℤ ConfdParkingLot
  invalidIds : Dict ℤ TTLEntry
  now : ℕ
  invalidations : ℤ → ℕ
  version : ℤ → ℕ
  said : List Said

/-- Where a lookup is. -/
inductive Stage where
  | started
  | listing
  | evicting (rest : List ℤ)
  | expired (rest : List ℤ)
  | invalid
  | valid
  | present
  | missing
  | fetched (lot : ConfdParkingLot) (version : ℕ)
  | failed (e : Exn)
  | returned (lot : ConfdParkingLot) (version : ℕ)
  | refused
  | recorded (e : Exn)
  | raised (e : Exn)
  deriving DecidableEq

/-- A lookup: its id, how often this had been invalidated when it started, and the time that
it has read to evict what has expired. -/
structure LookupPhase where
  parkingId : ℤ
  since : ℕ
  began : ℕ
  stage : Stage

/-- What a lookup asks next. -/
def LookupPhase.takes (k : LookupPhase) : CacheRequest → Prop
  | .monotonicNs => k.stage = .started
  | .invalidIds => k.stage = .listing
  | .expiration index => ∃ rest, k.stage = .evicting (index :: rest)
  | .evict index => ∃ rest, k.stage = .expired (index :: rest)
  | .isInvalid parkingId => k.stage = .evicting [] ∧ parkingId = k.parkingId
  | .refresh parkingId => k.stage = .invalid ∧ parkingId = k.parkingId
  | .isCached parkingId => k.stage = .valid ∧ parkingId = k.parkingId
  | .get parkingId => k.stage = .missing ∧ parkingId = k.parkingId
  | .store parking => ∃ version, k.stage = .fetched parking version
  | .addInvalid parkingId => (∃ e, k.stage = .failed e) ∧ parkingId = k.parkingId
  | .cached parkingId => k.stage = .present ∧ parkingId = k.parkingId

/-- An entry, or a `KeyError`. -/
def entry {α : Type} : Option α → Except Exn α
  | some a => .ok a
  | none => .error .keyError

/-- The answer to a lookup; `x` is what confd answers. -/
def CacheWorld.reply (x : ConfdAnswer) (w : CacheWorld) : (r : CacheRequest) → Except Exn r.Reply
  | .monotonicNs => .ok w.now
  | .invalidIds => .ok w.invalidIds.keys
  | .expiration index => (entry (w.invalidIds.get index)).map (·.expiration)
  | .evict index => (entry (w.invalidIds.get index)).map fun _ => ()
  | .isInvalid parkingId => .ok (w.invalidIds.get parkingId).isSome
  | .refresh parkingId => (entry (w.invalidIds.get parkingId)).map fun _ => ()
  | .isCached parkingId => .ok (w.cache.get parkingId).isSome
  | .get parkingId => x.reply parkingId
  | .store _ => .ok ()
  | .addInvalid _ => .ok ()
  | .cached parkingId => entry (w.cache.get parkingId)

/-- How often the id had been invalidated when the lot was served. -/
def Stage.version : Stage → ℕ
  | .fetched _ version => version
  | _ => 0

/-- What a step of a lookup does to the dictionaries. -/
def CacheWorld.after (x : ConfdAnswer) (w : CacheWorld) (k : LookupPhase) :
    CacheRequest → CacheWorld
  | .evict index => { w with invalidIds := w.invalidIds.pop index }
  | .refresh parkingId =>
    match w.invalidIds.get parkingId with
    | some entry => { w with
        invalidIds := w.invalidIds.set parkingId (entry.refresh w.now)
        said := w.said ++ [.hit parkingId k.began w.now] }
    | none => w
  | .get parkingId => { w with said := w.said ++ [.answered parkingId x w.now] }
  | .store parking => { w with
      cache := w.cache.set parking.id parking
      version := Function.update w.version parking.id k.stage.version }
  | .addInvalid parkingId => { w with
      invalidIds := w.invalidIds.set parkingId (.new 10 w.now)
      said := w.said ++ [.failed parkingId w.now] }
  | _ => w

/-- The stage after an index has been looked at. -/
def Stage.checked (due : Bool) : Stage → Stage
  | .evicting (index :: rest) => if due then .expired (index :: rest) else .evicting rest
  | stage => stage

/-- The stage after a step that has nothing to tell. -/
def Stage.done : Stage → Stage
  | .expired (_ :: rest) => .evicting rest
  | .invalid => .refused
  | .fetched lot version => .returned lot version
  | .failed e => .recorded e
  | stage => stage

/-- The stage after an answer. -/
def LookupPhase.nextStage (k : LookupPhase) (w : CacheWorld) :
    (r : CacheRequest) → Except Exn r.Reply → Stage
  | .get _, .error e => .failed e
  | _, .error e => .raised e
  | .monotonicNs, .ok _ => .listing
  | .invalidIds, .ok keys => .evicting keys
  | .expiration _, .ok expiration => k.stage.checked (expiration ≤ k.began)
  | .isInvalid _, .ok b => if b then .invalid else .valid
  | .isCached _, .ok b => if b then .present else .missing
  | .get parkingId, .ok lot => .fetched lot (w.invalidations parkingId)
  | .cached parkingId, .ok lot => .returned lot (w.version parkingId)
  | _, .ok _ => k.stage.done

/-- The lookup after an answer. -/
def LookupPhase.next (k : LookupPhase) (w : CacheWorld) (r : CacheRequest)
    (reply : Except Exn r.Reply) : LookupPhase where
  parkingId := k.parkingId
  since := k.since
  began := if k.stage = .started then w.now else k.began
  stage := k.nextStage w r reply

/-- `invalidate`, which the handlers of the three events call. -/
def CacheWorld.invalidate (w : CacheWorld) (key : ℤ) : CacheWorld :=
  { w with
    invalidIds := w.invalidIds.pop key
    cache := w.cache.pop key
    invalidations := Function.update w.invalidations key (w.invalidations key + 1) }

/-- What happens beside the lookups. -/
inductive CacheEvent where
  | tick (nanoseconds : ℕ)
  | invalidate (key : ℤ)

/-- The lookups of the cache, with the events and the clock. -/
def cacheSystem : System CacheRequest CacheRequest.Reply Exn ConfdParkingLot CacheWorld
    LookupPhase ConfdAnswer ℤ CacheEvent where
  takes := LookupPhase.takes
  answer x _ w k r := some (w.reply x r, w.after x k r, k.next w r (w.reply x r))
  init w := w.cache = ∅ ∧ w.invalidIds = ∅ ∧ w.said = []
  launch parkingId w :=
    some (w, ⟨parkingId, w.invalidations parkingId, w.now, .started⟩, getitem parkingId)
  outside
    | .tick nanoseconds, w => some { w with now := w.now + nanoseconds }
    | .invalidate key, w => some (w.invalidate key)

abbrev CachePool : Type :=
  Pool CacheRequest CacheRequest.Reply Exn ConfdParkingLot CacheWorld LookupPhase

abbrev CacheLabel : Type := System.Label ConfdAnswer ℤ CacheEvent

end Calld.Parkings
