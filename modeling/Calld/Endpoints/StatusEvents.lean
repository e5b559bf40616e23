/-
# What the events of AMI do to the status cache

An event of a channel or of a peer names one endpoint.  `update` compares the endpoint with
what it was, and calls the function that it was given if the two differ: whatever this
function is, it is called at most once, and no other endpoint is touched.

A Registry event names a username, and its trunk is looked up.  A registration that succeeds
for a trunk that is not found is an error of the handler, and a trunk that is found under the
username of another one is registered in its place.
-/
import Calld.Endpoints.EventHandler
import Calld.Endpoints.TrunkIndexes

namespace Calld.Endpoints

open Effect Program

/-! ## Names in events -/

section Names

variable {a b : String} {c : Char}

theorem span_append {l l' : List Char} (h : c ∉ l) :
    (l ++ c :: l').span (· ≠ c) = (l, c :: l') := by
  rw [List.span_eq_takeWhile_dropWhile]
  induction l with
  | nil => simp
  | cons d l ih =>
    have hd : d ≠ c := fun e => h (e ▸ List.mem_cons_self)
    obtain ⟨htake, hdrop⟩ := Prod.ext_iff.mp (ih fun hmem => h (List.mem_cons_of_mem d hmem))
    rw [List.cons_append, List.takeWhile_cons_of_pos (by simpa using hd),
      List.dropWhile_cons_of_pos (by simpa using hd)]
    exact Prod.ext (congrArg (d :: ·) htake) hdrop

/-- The separator of `split` is the first one. -/
theorem splitOnce_append (h : c ∉ a.toList) :
    splitOnce (a ++ String.ofList [c] ++ b) c = some (a, b) := by
  have hlist : (a ++ String.ofList [c] ++ b).toList = a.toList ++ c :: b.toList := by simp
  unfold splitOnce
  rw [hlist, span_append h]
  simp

/-- The separator of `rsplit` is the last one. -/
theorem rsplitOnce_append (h : c ∉ b.toList) :
    rsplitOnce (a ++ String.ofList [c] ++ b) c = some (a, b) := by
  have hlist : (a ++ String.ofList [c] ++ b).toList.reverse =
      b.toList.reverse ++ c :: a.toList.reverse := by simp
  unfold rsplitOnce
  rw [hlist, span_append (by simpa using h)]
  simp

/-- A name may have dashes: the suffix of the channel is what follows the last one. -/
theorem technoNameFromChannel_append {techno name suffix : String} (ht : '/' ∉ techno.toList)
    (hs : '-' ∉ suffix.toList) :
    technoNameFromChannel (techno ++ "/" ++ (name ++ "-" ++ suffix)) = some (techno, name) := by
  have hslash : splitOnce (techno ++ "/" ++ (name ++ "-" ++ suffix)) '/' =
      some (techno, name ++ "-" ++ suffix) := splitOnce_append ht
  have hdash : rsplitOnce (name ++ "-" ++ suffix) '-' = some (name, suffix) :=
    rsplitOnce_append hs
  unfold technoNameFromChannel
  rw [hslash, Option.bind_eq_bind, Option.bind_some]
  dsimp only
  rw [hdash]
  rfl

end Names

/-! ## The events of channels and of peers -/

/-- `update`, for the `notify_fn` that the cache was made with. -/
def updateNotifying (notify : Endpoint → Handler Unit) (techno name : String)
    (body : Endpoint → Endpoint) : Handler Unit := do
  match ← look (·.status.find techno name) with
  | none => return ()
  | some before =>
    changeStatus (·.assign techno name (body before))
    unless (body before).eq before do notify (body before)

/-- `on_hangup` and `on_new_channel`. -/
def onChannelNotifying (notify : Endpoint → Handler Unit) (channel : String)
    (body : Endpoint → Endpoint) : Handler Unit :=
  match technoNameFromChannel channel with
  | none => throw .valueError
  | some (techno, name) =>
    if techno = "Local" then return ()
    else updateNotifying notify techno name body

/-- `on_peer_status`. -/
def onPeerStatusNotifying (notify : Endpoint → Handler Unit) (peer status : String) :
    Handler Unit :=
  match splitOnce peer '/' with
  | none => throw .valueError
  | some (techno, name) => updateNotifying notify techno name (peerStatusOf techno status)

/-- An event that names an endpoint. -/
inductive StatusEvent where
  | hangup (channel uniqueid : String)
  | newchannel (channel uniqueid : String)
  | peerStatus (peer status : String)
  deriving DecidableEq, Repr

namespace StatusEvent

/-- The event, among those of AMI. -/
def ami : StatusEvent → AmiEvent
  | .hangup channel uniqueid => .hangup channel uniqueid
  | .newchannel channel uniqueid => .newchannel channel uniqueid
  | .peerStatus peer status => .peerStatus peer status

/-- The handler of the event. -/
def handle (notify : Endpoint → Handler Unit) : StatusEvent → Handler Unit
  | .hangup channel uniqueid => onChannelNotifying notify channel (·.removeCall uniqueid)
  | .newchannel channel uniqueid => onChannelNotifying notify channel (·.addCall uniqueid)
  | .peerStatus peer status => onPeerStatusNotifying notify peer status

/-- The event is about the endpoint of a technology and a name: its channel or its peer is
well formed. -/
inductive About : StatusEvent → String → String → Prop
  | hangup (techno name suffix uniqueid : String) (ht : '/' ∉ techno.toList)
      (hs : '-' ∉ suffix.toList) :
      About (.hangup (techno ++ "/" ++ (name ++ "-" ++ suffix)) uniqueid) techno name
  | newchannel (techno name suffix uniqueid : String) (ht : '/' ∉ techno.toList)
      (hs : '-' ∉ suffix.toList) :
      About (.newchannel (techno ++ "/" ++ (name ++ "-" ++ suffix)) uniqueid) techno name
  | peerStatus (techno name status : String) (ht : '/' ∉ techno.toList) :
      About (.peerStatus (techno ++ "/" ++ name) status) techno name

/-- The handlers of the plugin notify with `endpoint_updated`. -/
theorem handle_endpointUpdated (e : StatusEvent) : e.handle endpointUpdated = e.ami.handle := by
  cases e <;> rfl

end StatusEvent

/-- What is compared of an endpoint. -/
def Endpoint.shown (e : Endpoint) : String × String × Option Bool × ℕ :=
  (e.techno, e.name, e.registered, e.currentCallCount)

theorem eq_iff_shown {e e' : Endpoint} : e.eq e' = true ↔ e.shown = e'.shown := by
  unfold Endpoint.eq Endpoint.shown
  simp [and_assoc]

/-- An endpoint that shows something else than before. -/
def changed (before after : Option Endpoint) : Option Endpoint :=
  after.filter fun e => before.map Endpoint.shown ≠ some e.shown

/-- A handler leads to a status cache in which only this endpoint may differ, and then it calls
`notify` with the endpoint if it has changed, and does nothing else. -/
def Touches (notify : Endpoint → Handler Unit) (techno name : String) (p : Handler Unit) : Prop :=
  ∀ confd (s : Caches), ∃ status : StatusCache,
    (∀ techno' name', ¬ (techno' = techno ∧ name' = name) →
      status.find techno' name' = s.status.find techno' name') ∧
    (s.status.find techno name = none → status = s.status) ∧
    p confd s = (changed (s.status.find techno name) (status.find techno name)).elim
      (pure ()) notify confd { s with status := status }

section Events

variable {notify : Endpoint → Handler Unit} {techno name : String}

theorem touches_pure : Touches notify techno name (pure ()) := by
  intro confd s
  refine ⟨s.status, fun _ _ _ => rfl, fun _ => rfl, ?_⟩
  have hsame : changed (s.status.find techno name) (s.status.find techno name) = none := by
    unfold changed
    cases s.status.find techno name with
    | none => rfl
    | some e => simp [Option.filter]
  rw [hsame]
  rfl

theorem touches_updateNotifying (body : Endpoint → Endpoint) :
    Touches notify techno name (updateNotifying notify techno name body) := by
  intro confd s
  cases hfind : s.status.find techno name with
  | none =>
    refine ⟨s.status, fun _ _ _ => rfl, fun _ => rfl, ?_⟩
    unfold updateNotifying
    rw [bind_apply, look_apply]
    dsimp only
    rw [hfind]
    rfl
  | some before =>
    refine ⟨s.status.assign techno name (body before), fun t n h => ?_, fun h => (by cases h), ?_⟩
    · rw [find_assign, if_neg h]
    · unfold updateNotifying
      rw [bind_apply, look_apply, find_assign, if_pos ⟨rfl, rfl⟩]
      dsimp only
      rw [hfind]
      by_cases h : (body before).eq before = true
      · have hshown : before.shown = (body before).shown := (eq_iff_shown.mp h).symm
        simp [changed, h, hshown, Option.filter_some, bind_apply, changeStatus_apply]
      · have hshown : before.shown ≠ (body before).shown := fun e => h (eq_iff_shown.mpr e.symm)
        simp [changed, h, hshown, Option.filter_some, bind_apply, changeStatus_apply]

/-- **An event of a channel or of a peer touches the endpoint that it names and no other one,
and notifies exactly if what is shown of the endpoint has changed**, whatever the cache holds
and whatever the function is that it notifies. -/
theorem status_event_touches (e : StatusEvent) (techno name : String) (h : e.About techno name)
    (notify : Endpoint → Handler Unit) : Touches notify techno name (e.handle notify) := by
  have hchannel (suffix : String) (ht : '/' ∉ techno.toList) (hs : '-' ∉ suffix.toList)
      (body : Endpoint → Endpoint) : Touches notify techno name
        (onChannelNotifying notify (techno ++ "/" ++ (name ++ "-" ++ suffix)) body) := by
    unfold onChannelNotifying
    rw [technoNameFromChannel_append ht hs]
    dsimp only
    split
    · exact touches_pure
    · exact touches_updateNotifying body
  cases h with
  | hangup techno name suffix uniqueid ht hs => exact hchannel suffix ht hs _
  | newchannel techno name suffix uniqueid ht hs => exact hchannel suffix ht hs _
  | peerStatus techno name status ht =>
    show Touches notify techno name (onPeerStatusNotifying notify (techno ++ "/" ++ name) status)
    have hpeer : splitOnce (techno ++ "/" ++ name) '/' = some (techno, name) :=
      splitOnce_append ht
    unfold onPeerStatusNotifying
    rw [hpeer]
    exact touches_updateNotifying _

/-- A call of an endpoint whose name has a dash. -/
theorem status_event_touches_newchannel :
    (StatusEvent.newchannel "PJSIP/my-trunk-00000001" "1.1").About "PJSIP" "my-trunk" ∧
      Touches endpointUpdated "PJSIP" "my-trunk"
        ((StatusEvent.newchannel "PJSIP/my-trunk-00000001" "1.1").handle endpointUpdated) := by
  have habout : (StatusEvent.newchannel "PJSIP/my-trunk-00000001" "1.1").About
      "PJSIP" "my-trunk" :=
    .newchannel "PJSIP" "my-trunk" "00000001" "1.1" (by decide) (by decide)
  exact ⟨habout, status_event_touches _ _ _ habout _⟩

end Events

/-! ## Registrations -/

/-- A SIP or IAX trunk has this username, among those that register with this technology of
Asterisk. -/
def GivenTrunk.Registers (g : GivenTrunk) (techno username : String) : Prop :=
  (g.trunk.technology = .sip ∨ g.trunk.technology = .iax) ∧
    technoMap g.trunk.technology = some techno ∧ g.username = some username

/-- The registered flag of an endpoint is set, if the endpoint is tracked, and nothing else. -/
def SetsRegistered (s s' : StatusCache) (techno name : String) (b : Bool) : Prop :=
  ∀ techno' name', s'.find techno' name' =
    if techno' = techno ∧ name' = name then
      (s.find techno' name').map fun e => { e with registered := some b }
    else s.find techno' name'

/-- The endpoint is not tracked, or has this flag. -/
def Settled (s : StatusCache) (techno name : String) (b : Bool) : Prop :=
  ∀ e, s.find techno name = some e → e.registered = some b

/-- What the index of the usernames holds, once the cache has been filled. -/
def holdsUsername (confd : Confd) (c : ConfdCache) (techno username : String) :
    Option ConfdEndpoint :=
  (confdTechno techno).bind fun t => registered (c.initializeWith confd).trunks t (some username)

section Registry

variable {confd : Confd} {s : Caches} {live : List GivenTrunk}
  {channelType username status techno name : String}

/-- The handler raises nothing, and sets the flag of the endpoint of every live trunk that has
the username of the event. -/
def RegistryPrecise (live : List GivenTrunk) (channelType username status : String)
    (confd : Confd) (s : Caches) : Prop :=
  let y := onRegistry channelType username status confd s
  y.1 = .ok () ∧ ∀ u, registryUsername channelType username = some u →
    ∀ g ∈ live, g.Registers channelType u →
      SetsRegistered s.status y.2.status channelType g.trunk.name (status = "Registered")

/-- The index holds a trunk under the username, or the status is not a registration; and where
it does not hold the live trunk, the event has nothing to change. -/
def RegistryFits (live : List GivenTrunk) (channelType username status : String)
    (confd : Confd) (s : Caches) : Prop :=
  ∀ u, registryUsername channelType username = some u →
    match holdsUsername confd s.confd channelType u with
    | none => status ≠ "Registered" ∧ ∀ g ∈ live, g.Registers channelType u →
        Settled s.status channelType g.trunk.name false
    | some trunk => ∀ g ∈ live, g.Registers channelType u → g.trunk.name = trunk.name ∨
        Settled s.status channelType g.trunk.name (status = "Registered") ∧
          Settled s.status channelType trunk.name (status = "Registered")

/-- The lookup of a Registry event fills the cache first. -/
theorem onConfdCache_username :
    onConfdCache (getTrunkByUsername techno (some username)) confd s =
      (.ok (holdsUsername confd s.confd techno username),
        { s with confd := s.confd.initializeWith confd }) :=
  onConfdCache_ok rfl

/-- To notify raises nothing, as a lookup does not. -/
theorem endpointUpdated_ok (endpoint : Endpoint) :
    (endpointUpdated endpoint confd s).1 = .ok () := by
  obtain ⟨trunk, c, htrunk⟩ : ∃ trunk c,
    getTrunk endpoint.techno endpoint.name confd s.confd = (.ok trunk, c) := ⟨_, _, rfl⟩
  obtain ⟨line, c', hline⟩ : ∃ line c',
    getLine endpoint.techno endpoint.name confd c = (.ok line, c') := ⟨_, _, rfl⟩
  unfold endpointUpdated
  rw [bind_of_ok (onConfdCache_ok htrunk)]
  cases trunk with
  | some trunk => rfl
  | none =>
    dsimp only
    rw [bind_of_ok (onConfdCache_ok hline)]
    cases line <;> rfl

theorem updateEndpoint_ok (body : Endpoint → Endpoint) :
    (updateEndpoint techno name body confd s).1 = .ok () := by
  unfold updateEndpoint
  rw [bind_apply, look_apply]
  dsimp only
  cases s.status.find techno name with
  | none => rfl
  | some before =>
    dsimp only
    rw [bind_of_ok (changeStatus_apply _)]
    split
    · rfl
    · exact endpointUpdated_ok _

/-- To set the flag of an endpoint that has it changes nothing. -/
theorem settled_map {status : StatusCache} {b : Bool} (h : Settled status techno name b) :
    ((status.find techno name).map fun e => { e with registered := some b }) =
      status.find techno name := by
  cases hfind : status.find techno name with
  | none => rfl
  | some e =>
    rw [Option.map_some, ← h e hfind]

theorem settled_of_map {status : StatusCache} {b : Bool}
    (h : status.find techno name =
      (status.find techno name).map fun e => { e with registered := some b }) :
    Settled status techno name b := by
  intro e he
  rw [he, Option.map_some] at h
  exact congrArg Endpoint.registered (Option.some.inj h)

/-- The flag of one endpoint is set where that of another one is meant. -/
theorem setsRegistered_iff {status status' : StatusCache} {name' : String} {b : Bool}
    (h : SetsRegistered status status' techno name' b) :
    SetsRegistered status status' techno name b ↔
      name = name' ∨ Settled status techno name b ∧ Settled status techno name' b := by
  by_cases hname : name = name'
  · subst hname
    exact iff_of_true h (.inl rfl)
  constructor
  · intro hset
    have hthis := (h techno name).symm.trans (hset techno name)
    have hthat := (h techno name').symm.trans (hset techno name')
    rw [if_neg fun hn => hname hn.2, if_pos ⟨rfl, rfl⟩] at hthis
    rw [if_pos ⟨rfl, rfl⟩, if_neg fun hn => hname hn.2.symm] at hthat
    exact .inr ⟨settled_of_map hthis, settled_of_map hthat.symm⟩
  · rintro (hn | ⟨hthis, hthat⟩)
    · exact absurd hn hname
    intro techno'' name''
    rw [h techno'' name'']
    by_cases hn' : techno'' = techno ∧ name'' = name'
    · obtain ⟨rfl, rfl⟩ := hn'
      rw [if_pos ⟨rfl, rfl⟩, if_neg fun hn => hname hn.2.symm, settled_map hthat]
    · rw [if_neg hn']
      split
      · next hn =>
        obtain ⟨rfl, rfl⟩ := hn
        exact (settled_map hthis).symm
      · rfl

/-- No flag is set. -/
theorem setsRegistered_self_iff {status : StatusCache} {b : Bool} :
    SetsRegistered status status techno name b ↔ Settled status techno name b := by
  constructor
  · intro h
    have hthis := h techno name
    rw [if_pos ⟨rfl, rfl⟩] at hthis
    exact settled_of_map hthis
  · intro h techno' name'
    split
    · next hn =>
      obtain ⟨rfl, rfl⟩ := hn
      exact (settled_map h).symm
    · rfl

end Registry

/-! ## An unknown trunk -/

/-- Nothing is known of confd, and nothing is tracked. -/
def noEndpoints : Caches := ⟨.fresh, ∅, []⟩

end Calld.Endpoints
