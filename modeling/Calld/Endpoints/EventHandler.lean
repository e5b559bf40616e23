/-
# The events of the endpoints

`StatusCache` knows, for every endpoint of Asterisk that is tracked, whether it is registered
and which channels it has.  The events of AMI change the endpoints that it tracks, and tell
the bus when one has changed; the events of confd change the cache of the lines and trunks,
and which endpoints are tracked.
-/
import Calld.Endpoints.ConfdCache

namespace Calld.Endpoints

open Effect Program

/-! ## The status cache -/

/-- `Endpoint`: the technology is in the words of Asterisk. -/
structure Endpoint where
  techno : String
  name : String
  registered : Option Bool
  channelIds : Finset String
  deriving DecidableEq

namespace Endpoint

/-- `add_call`. -/
def addCall (e : Endpoint) (channelId : String) : Endpoint :=
  { e with channelIds := insert channelId e.channelIds }

/-- `remove_call`. -/
def removeCall (e : Endpoint) (channelId : String) : Endpoint :=
  { e with channelIds := e.channelIds.erase channelId }

/-- `current_call_count`. -/
def currentCallCount (e : Endpoint) : ℕ := e.channelIds.card

/-- `__eq__`. -/
def eq (e e' : Endpoint) : Bool :=
  e.techno = e'.techno && e.name = e'.name && e.registered = e'.registered &&
    e.currentCallCount = e'.currentCallCount

end Endpoint

/-- An endpoint in the list of ARI. -/
structure AriEndpoint where
  resource : String
  technology : String
  state : String
  channelIds : List String

/-- `from_ari_endpoint_list`. -/
def Endpoint.fromAriEndpointList (endpoint : AriEndpoint) : Endpoint where
  techno := endpoint.technology
  name := endpoint.resource
  registered :=
    if endpoint.state = "online" then some true
    else if endpoint.state = "offline" then some false
    else none
  channelIds := endpoint.channelIds.toFinset

/-- The endpoints that are tracked, by technology and by name. -/
abbrev StatusCache := Dict String (Dict String Endpoint)

namespace StatusCache

/-- `get`. -/
def find (s : StatusCache) (techno name : String) : Option Endpoint :=
  (s.get techno).bind (·.get name)

/-- The endpoint that a technology and a name lead to. -/
def assign (s : StatusCache) (techno name : String) (endpoint : Endpoint) : StatusCache :=
  s.set techno (((s.get techno).getD ∅).set name endpoint)

/-- `add_endpoint`. -/
def addEndpoint (s : StatusCache) (endpoint : Endpoint) : StatusCache :=
  s.assign endpoint.techno endpoint.name endpoint

/-- `add_new_sip_endpoint`: the endpoint is unlikely to exist in ARI yet. -/
def addNewSipEndpoint (s : StatusCache) (endpointName : String) : StatusCache :=
  s.addEndpoint ⟨"PJSIP", endpointName, some false, ∅⟩

/-- `add_new_iax_endpoint`. -/
def addNewIaxEndpoint (s : StatusCache) (endpointName : String) : StatusCache :=
  s.addEndpoint ⟨"IAX2", endpointName, some false, ∅⟩

/-- `pop`, without the endpoint that it returns. -/
def drop (s : StatusCache) (techno name : String) : StatusCache :=
  match s.get techno with
  | none => s
  | some endpoints => s.set techno (endpoints.pop name)

/-- `initialize`. -/
def initializeFrom (s : StatusCache) (endpoints : List AriEndpoint) : StatusCache :=
  endpoints.foldl (fun s endpoint => s.addEndpoint (.fromAriEndpointList endpoint)) s

end StatusCache

/-! ## Programs of the handlers -/

/-- `TrunkStatusUpdatedEvent` or `LineStatusUpdatedEvent`. -/
structure StatusUpdated where
  isTrunk : Bool
  id : Int
  techno : String
  name : String
  registered : Option Bool
  currentCallCount : ℕ
  tenantUuid : String
  deriving DecidableEq, Repr

/-- What a handler raises. -/
inductive HandlerError where
  /-- too few values to unpack -/
  | valueError
  /-- a missing trunk is asked for its name -/
  | typeError
  /-- the technology has no word in Asterisk -/
  | keyError
  | lookup (e : LookupError)
  deriving DecidableEq, Repr

/-- The two caches, and what has been published. -/
structure Caches where
  confd : ConfdCache
  status : StatusCache
  published : List StatusUpdated

/-- A handler of the events. -/
abbrev Handler := Program Confd Caches HandlerError

/-- Look something up in the cache of confd. -/
def onConfdCache {α : Type} (p : Lookup α) : Handler α := fun env s =>
  match p env s.confd with
  | (.ok a, c) => (.ok a, { s with confd := c })
  | (.error e, c) => (.error (.lookup e), { s with confd := c })

/-- Change the cache of confd. -/
def changeConfd (f : ConfdCache → ConfdCache) : Handler Unit :=
  change fun s => { s with confd := f s.confd }

/-- Change the endpoints that are tracked. -/
def changeStatus (f : StatusCache → StatusCache) : Handler Unit :=
  change fun s => { s with status := f s.status }

/-- `_asterisk_to_confd_techno_map.get(techno, techno)`, as a word. -/
def confdWord (techno : String) : String := ((confdTechno techno).map (·.word)).getD techno

/-- `endpoint_updated`: publish the status of the trunk or of the line. -/
def endpointUpdated (endpoint : Endpoint) : Handler Unit := do
  let publish isTrunk (e : ConfdEndpoint) : Handler Unit :=
    change fun s => { s with published := s.published ++
      [⟨isTrunk, e.id, confdWord endpoint.techno, endpoint.name, endpoint.registered,
        endpoint.currentCallCount, e.tenantUuid⟩] }
  match ← onConfdCache (getTrunk endpoint.techno endpoint.name) with
  | some trunk => publish true trunk
  | none =>
    match ← onConfdCache (getLine endpoint.techno endpoint.name) with
    | some line => publish false line
    | none => return ()

/-- `update`, with the body of its `with`; what the body raises on an endpoint that is not
tracked is only logged. -/
def updateEndpoint (techno name : String) (body : Endpoint → Endpoint) : Handler Unit := do
  match ← look (·.status.find techno name) with
  | none => return ()
  | some before =>
    -- the endpoint is changed in place
    changeStatus (·.assign techno name (body before))
    unless (body before).eq before do endpointUpdated (body before)

/-! ## The events of AMI -/

/-- `s.split(c, 1)`, when there are two parts. -/
def splitOnce (s : String) (c : Char) : Option (String × String) :=
  match s.toList.span (· ≠ c) with
  | (_, []) => none
  | (before, _ :: rest) => some (String.ofList before, String.ofList rest)

/-- `s.rsplit(c, 1)`, when there are two parts. -/
def rsplitOnce (s : String) (c : Char) : Option (String × String) :=
  match s.toList.reverse.span (· ≠ c) with
  | (_, []) => none
  | (rest, _ :: before) => some (String.ofList before.reverse, String.ofList rest.reverse)

/-- `_techno_name_from_channel`. -/
def technoNameFromChannel (channel : String) : Option (String × String) := do
  let (techno, rest) ← splitOnce channel '/'
  let (name, _) ← rsplitOnce rest '-'
  return (techno, name)

/-- The username of a Registry event. -/
def registryUsername (channelType username : String) : Option String :=
  if channelType = "PJSIP" then some username
  else do
    let (begin_, _) ← splitOnce username '@'
    let (_, username) ← splitOnce begin_ ':'
    return username

/-- The events of AMI. -/
inductive AmiEvent where
  | hangup (channel uniqueid : String)
  | newchannel (channel uniqueid : String)
  | peerStatus (peer status : String)
  | registry (channelType username status : String)
  deriving DecidableEq, Repr

/-- `on_hangup` and `on_new_channel`: the call is removed or added. -/
def onChannel (channel : String) (body : Endpoint → Endpoint) : Handler Unit :=
  match technoNameFromChannel channel with
  | none => throw .valueError
  | some (techno, name) =>
    if techno = "Local" then return ()
    else updateEndpoint techno name body

/-- The body of `on_peer_status`. -/
def peerStatusOf (techno status : String) (endpoint : Endpoint) : Endpoint :=
  if techno = "PJSIP" ∧ status = "Reachable" then { endpoint with registered := some true }
  else if techno = "PJSIP" ∧ status = "Unreachable" then
    { endpoint with registered := some false }
  else endpoint

/-- `on_peer_status`. -/
def onPeerStatus (peer status : String) : Handler Unit :=
  match splitOnce peer '/' with
  | none => throw .valueError
  | some (techno, name) => updateEndpoint techno name (peerStatusOf techno status)

/-- `on_registry`. -/
def onRegistry (channelType username status : String) : Handler Unit :=
  match registryUsername channelType username with
  | none => return ()
  | some username => do
    let trunk ← onConfdCache (getTrunkByUsername channelType (some username))
    let registered := decide (status = "Registered")
    match trunk with
    | none =>
      -- the trunk has already been dissociated
      if !registered then return () else throw .typeError
    | some trunk =>
      updateEndpoint channelType trunk.name fun endpoint =>
        { endpoint with registered := some registered }

/-- The handler of an event of AMI. -/
def AmiEvent.handle : AmiEvent → Handler Unit
  | .hangup channel uniqueid => onChannel channel (·.removeCall uniqueid)
  | .newchannel channel uniqueid => onChannel channel (·.addCall uniqueid)
  | .peerStatus peer status => onPeerStatus peer status
  | .registry channelType username status => onRegistry channelType username status

/-! ## The events of confd -/

/-- The events of confd; a trunk or a line is given by its id and its tenant. -/
inductive ConfdEvent where
  | lineEndpointSipAssociated (lineId : Int) (tenantUuid name : String)
      (authSectionOptions : Options)
  | lineEndpointSccpAssociated (lineId : Int) (tenantUuid lineName : String)
  | lineEndpointCustomAssociated (lineId : Int) (tenantUuid interface_ : String)
  | lineEdited (protocol : Option Techno) (lineId : Int) (name tenantUuid : String)
  | lineEndpointDissociated (lineId : Int)
  | lineDeleted (lineId : Int)
  | trunkEndpointSipAssociated (trunkId : Int) (tenantUuid name : String)
      (registrationSectionOptions : Options)
  | trunkEndpointIaxAssociated (trunkId : Int) (tenantUuid name : String)
  | trunkEndpointCustomAssociated (trunkId : Int) (tenantUuid interface_ : String)
  | trunkEndpointDissociated (trunkId : Int)
  | trunkDeleted (trunkId : Int)
  | sipEndpointUpdated (name tenantUuid : String)
      (registrationSectionOptions authSectionOptions : Options) (trunk line : Option Int)
  | iaxEndpointUpdated (name tenantUuid : String) (trunk : Option Int)
  | customEndpointUpdated (interface_ tenantUuid : String) (trunk line : Option Int)
  deriving DecidableEq, Repr

/-- `techno_map[technology]`. -/
def technoMap : Techno → Option String
  | .sip => some "PJSIP"
  | .iax => some "IAX2"
  | .custom => some "custom"
  | .sccp => none

/-- `on_trunk_endpoint_deleted`. -/
def onTrunkEndpointDeleted (trunkId : Int) : Handler Unit := do
  let trunk ← onConfdCache (getTrunkById trunkId)
  changeConfd (·.deleteTrunk trunkId)
  match trunk with
  | none => return ()
  | some trunk =>
    match technoMap trunk.technology with
    | none => throw .keyError
    | some techno => changeStatus (·.drop techno trunk.name)

/-- The change that an updated endpoint makes to its trunk and to its line. -/
def updateOwners (techno : Techno) (name tenantUuid : String) (trunk line : Option Int)
    (trunkUsername lineUsername : Option String) (c : ConfdCache) : ConfdCache :=
  let c := match trunk with
    | some trunkId => c.updateTrunk techno trunkId name trunkUsername tenantUuid
    | none => c
  match line with
  | some lineId => c.updateLine techno lineId name lineUsername tenantUuid
  | none => c

/-- The handler of an event of confd. -/
def ConfdEvent.handle : ConfdEvent → Handler Unit
  | .lineEndpointSipAssociated lineId tenantUuid name authSectionOptions => do
    let sipUsername := extractSipOption authSectionOptions "username"
    changeConfd (·.addLine .sip lineId name sipUsername tenantUuid)
    changeStatus (·.addNewSipEndpoint name)
  | .lineEndpointSccpAssociated lineId tenantUuid lineName =>
    changeConfd (·.addLine .sccp lineId lineName none tenantUuid)
  | .lineEndpointCustomAssociated lineId tenantUuid interface_ =>
    changeConfd (·.addLine .custom lineId interface_ none tenantUuid)
  | .lineEdited protocol lineId name tenantUuid =>
    if protocol ≠ some .sccp then return ()
    else changeConfd (·.updateLine .sccp lineId name none tenantUuid)
  | .lineEndpointDissociated lineId => changeConfd (·.deleteLine lineId)
  | .lineDeleted lineId => changeConfd (·.deleteLine lineId)
  | .trunkEndpointSipAssociated trunkId tenantUuid name registrationSectionOptions => do
    let sipUsername := extractSipOption registrationSectionOptions "client_uri"
    changeConfd (·.addTrunk .sip trunkId name sipUsername tenantUuid)
    changeStatus (·.addNewSipEndpoint name)
  | .trunkEndpointIaxAssociated trunkId tenantUuid name => do
    changeConfd (·.addTrunk .iax trunkId name none tenantUuid)
    changeStatus (·.addNewIaxEndpoint name)
  | .trunkEndpointCustomAssociated trunkId tenantUuid interface_ =>
    changeConfd (·.addTrunk .custom trunkId interface_ none tenantUuid)
  | .trunkEndpointDissociated trunkId => changeConfd (·.deleteTrunk trunkId)
  | .trunkDeleted trunkId => onTrunkEndpointDeleted trunkId
  | .sipEndpointUpdated name tenantUuid registrationSectionOptions authSectionOptions trunk
      line =>
    changeConfd (updateOwners .sip name tenantUuid trunk line
      (extractSipOption registrationSectionOptions "client_uri")
      (extractSipOption authSectionOptions "username"))
  | .iaxEndpointUpdated name tenantUuid trunk =>
    changeConfd (updateOwners .iax name tenantUuid trunk none none none)
  | .customEndpointUpdated interface_ tenantUuid trunk line =>
    changeConfd (updateOwners .custom interface_ tenantUuid trunk line none none)

/-- An event of AMI or of confd. -/
inductive EndpointEvent where
  | ami (e : AmiEvent)
  | confd (e : ConfdEvent)
  deriving DecidableEq, Repr

/-- The handler of an event. -/
def EndpointEvent.handle : EndpointEvent → Handler Unit
  | .ami e => e.handle
  | .confd e => e.handle

/-! ## What the status cache tracks -/

section Status

variable {s : StatusCache} {e : Endpoint} {techno name techno' name' : String}

theorem find_assign :
    (s.assign techno' name' e).find techno name =
      if techno = techno' ∧ name = name' then some e else s.find techno name := by
  unfold StatusCache.find StatusCache.assign
  rw [Dict.get_set]
  by_cases ht : techno = techno'
  · subst ht
    rw [if_pos rfl, Option.bind_some, Dict.get_set]
    by_cases hn : name = name'
    · rw [if_pos hn, if_pos ⟨rfl, hn⟩]
    · rw [if_neg hn, if_neg fun h => hn h.2]
      cases s.get techno <;> rfl
  · rw [if_neg ht, if_neg fun h => ht h.1]

theorem find_drop :
    (s.drop techno' name').find techno name =
      if techno = techno' ∧ name = name' then none else s.find techno name := by
  unfold StatusCache.find StatusCache.drop
  by_cases ht : techno = techno'
  · subst ht
    cases hget : s.get techno with
    | none => simp [hget]
    | some endpoints =>
      simp only [Dict.get_set_self, Option.bind_some, Dict.get_pop, true_and]
  · rw [if_neg fun h => ht h.1]
    cases s.get techno' with
    | none => rfl
    | some endpoints =>
      dsimp only
      rw [Dict.get_set_of_ne _ ht]

theorem find_addNewSipEndpoint {endpointName : String} :
    (s.addNewSipEndpoint endpointName).find techno name =
      if techno = "PJSIP" ∧ name = endpointName then
        some ⟨"PJSIP", endpointName, some false, ∅⟩
      else s.find techno name :=
  find_assign

theorem find_addNewIaxEndpoint {endpointName : String} :
    (s.addNewIaxEndpoint endpointName).find techno name =
      if techno = "IAX2" ∧ name = endpointName then
        some ⟨"IAX2", endpointName, some false, ∅⟩
      else s.find techno name :=
  find_assign

end Status

/-! ## What the handlers do to the status cache -/

section Handlers

variable {env : Confd} {s : Caches} {techno name techno' name' : String}

theorem changeConfd_apply (f : ConfdCache → ConfdCache) :
    changeConfd f env s = (.ok (), { s with confd := f s.confd }) := rfl

theorem changeStatus_apply (f : StatusCache → StatusCache) :
    changeStatus f env s = (.ok (), { s with status := f s.status }) := rfl

theorem onConfdCache_ok {α : Type} {p : Lookup α} {a : α} {c : ConfdCache}
    (h : p env s.confd = (.ok a, c)) :
    onConfdCache p env s = (.ok a, { s with confd := c }) := by
  unfold onConfdCache
  rw [h]

theorem onConfdCache_error {α : Type} {p : Lookup α} {e : LookupError} {c : ConfdCache}
    (h : p env s.confd = (.error e, c)) :
    onConfdCache p env s = (.error (.lookup e), { s with confd := c }) := by
  unfold onConfdCache
  rw [h]

theorem onConfdCache_status {α : Type} (p : Lookup α) :
    (onConfdCache p env s).2.status = s.status := by
  unfold onConfdCache
  rcases p env s.confd with ⟨_ | _, _⟩ <;> rfl

/-- To publish the status of an endpoint leaves it as it is. -/
theorem endpointUpdated_status (endpoint : Endpoint) :
    (endpointUpdated endpoint env s).2.status = s.status := by
  have hpublish (p : Lookup (Option ConfdEndpoint)) (f : Option ConfdEndpoint → Handler Unit)
      (s : Caches) (hf : ∀ r s', (f r env s').2.status = s'.status) :
      ((onConfdCache p >>= f) env s).2.status = s.status := by
    have hp := @onConfdCache_status env s _ p
    rw [bind_apply]
    rcases hr : onConfdCache p env s with ⟨e | r, s'⟩ <;> rw [hr] at hp
    · exact hp
    · exact (hf r s').trans hp
  unfold endpointUpdated
  refine hpublish _ _ s fun r s' => ?_
  cases r with
  | some trunk => rfl
  | none =>
    refine hpublish _ _ s' fun r s'' => ?_
    cases r <;> rfl

/-- An update changes the endpoint, if it is tracked, and no other one. -/
theorem find_updateEndpoint (body : Endpoint → Endpoint) :
    (updateEndpoint techno' name' body env s).2.status.find techno name =
      if techno = techno' ∧ name = name' then (s.status.find techno name).map body
      else s.status.find techno name := by
  unfold updateEndpoint
  rw [bind_apply, look_apply]
  dsimp only
  cases hfind : s.status.find techno' name' with
  | none =>
    split
    · next h =>
      rw [h.1, h.2, hfind]
      exact hfind
    · rfl
  | some before =>
    dsimp only
    have hstatus : ∀ p : Handler Unit, (∀ s', (p env s').2.status = s'.status) →
        ((changeStatus (·.assign techno' name' (body before)) >>= fun _ => p) env s).2.status =
          s.status.assign techno' name' (body before) := fun p hp => hp _
    rw [hstatus _ fun s' => ?_, find_assign]
    · split
      · next h =>
        rw [h.1, h.2, hfind]
        rfl
      · rfl
    · split
      · rfl
      · exact endpointUpdated_status _

end Handlers

end Calld.Endpoints
